import Tategaki.Budget
import Tategaki.Rule.Arrange
import Tategaki.Rule.Bundled
import Tategaki.Step.Run

/-!
# 規則の登録簿

登録された規則を名前で引き、試す順に並べる。順は優先順位の小さい方から、同じなら登録の早い方
からである。有効な規則の並びは、登録簿が変わるまで同じものが使い回される。

失敗した登録は、規則も並びも通し番号も変えない。
-/

namespace Tategaki

/-- 規則を一つ後ろに置くごとに増える優先順位。 -/
def orderEpsilon : Binary64 := Binary64.ofDecimal false 1 (-3)

/-- 優先順位を求める。倍精度の範囲を越える整数からは求められない。 -/
def calculatePriority (base order : Number) : Option Binary64 := do
  let step ← order.toBinary64?
  let start ← base.toBinary64?
  return start.add (step.mul orderEpsilon)

/-- 登録された規則。 -/
structure Rule where
  name : String
  priority : Binary64
  /-- 登録の通し番号。 -/
  sequence : Nat
  pattern : Regex.Pattern
  definition : Definition
  enabled : Bool
  deriving DecidableEq, Repr

namespace Rule

/-- 先に試すか。優先順位が同じなら、登録の早い方を先にする。非数とは、どちらも先にならない。 -/
def before (a b : Rule) : Bool :=
  if a.priority.eq b.priority then a.sequence < b.sequence else a.priority.lt b.priority

/-- ちょうど `position` から照合する。何も読まないものは合ったことにしない。 -/
def matchAt (r : Rule) (input : Array Char) (position : Nat) : Option Regex.Match :=
  match r.pattern.matchAt input position false with
  | some m => if m.isEmpty then none else some m
  | none => none

/-- 合ったところに段を使う。 -/
def process {σ ε : Type} (r : Rule) (input : Text) (found : Regex.Match)
    (rescan : Option (Rescan σ ε)) (report : TransformError → ε) (state : σ) :
    Except ε (List Node) × σ :=
  applySteps r.definition.steps ⟨input, found, r.pattern.groupCount⟩ r.definition.output
    (some r.name) rescan report state

/-- 規則が合うのは、式が合って、何かを読むときである。 -/
theorem pattern_matchAt {r : Rule} {input : Array Char} {position : Nat} {m : Regex.Match}
    (h : r.matchAt input position = some m) :
    r.pattern.matchAt input position false = some m ∧ m.isEmpty = false := by
  unfold matchAt at h
  split at h
  · rename_i m' hm
    split at h
    · cases h
    · rename_i he
      cases h
      exact ⟨hm, Bool.eq_false_iff.mpr he⟩
  · cases h

/-- 照合は指定した位置から始まり、少なくとも一文字を読む。 -/
theorem matchAt_spec {r : Rule} {input : Array Char} {position : Nat} {m : Regex.Match}
    (h : r.matchAt input position = some m) :
    m.start = min position input.size ∧ m.stop ≠ m.start := by
  obtain ⟨hm, he⟩ := pattern_matchAt h
  refine ⟨Regex.Pattern.matchAt_start hm, ?_⟩
  simpa [Regex.Match.isEmpty] using he

end Rule

/-- 有効な規則の並び。`serial` は並びを作り直すたびに変わる。 -/
structure RuleView where
  serial : Nat
  rules : List Rule
  deriving DecidableEq, Repr

/-- 規則の登録簿。 -/
structure Registry where
  limits : Limits := {}
  /-- 登録された順の規則。 -/
  rules : List Rule := []
  /-- 次の規則の通し番号。 -/
  nextSequence : Nat := 0
  /-- 使い回す並び。 -/
  cache : Option RuleView := none
  /-- 次に作る並びの番号。 -/
  nextSerial : Nat := 0
  /-- 登録簿の枠。 -/
  budget : Budget
  deriving DecidableEq, Repr

namespace Registry

/-- 空の登録簿。 -/
def empty (limits : Limits) : Registry := { limits, budget := { ceiling := limits.maxIterations } }

/-- 名前で規則を引く。 -/
def find? (r : Registry) (name : String) : Option Rule := r.rules.find? (·.name == name)

/-- 名前が登録されているか。 -/
def contains (r : Registry) (name : String) : Bool := r.rules.any (·.name == name)

/-- 規則の個数。無効なものも数える。 -/
def size (r : Registry) : Nat := r.rules.length

/-! ## 登録 -/

/-- 登録の失敗。 -/
def fail {α : Type} (cause : RuleCause) (patternName : Option String) : Except LoadError α :=
  .error (.rule { cause, patternName })

/-- 規則を登録する。`enabled` を指定しなければ定義に従う。 -/
def register (r : Registry) (d : Definition) (base order : Number) (enabled : Option Bool) :
    Except LoadError (Rule × Registry) :=
  if d.name.isEmpty then fail .unnamed none
  else if r.contains d.name then fail (.duplicateName d.name) (some d.name)
  else
    match d.compile with
    | .error e => .error e
    | .ok pattern =>
      match calculatePriority base order with
      | none => .error (.interrupted (.overflow hugeIntegerText))
      | some priority =>
        let rule : Rule := {
          name := d.name
          priority
          sequence := r.nextSequence
          pattern
          definition := d
          enabled := enabled.getD (!d.disabled) }
        .ok (rule, { r with
          rules := r.rules ++ [rule]
          nextSequence := r.nextSequence + 1
          cache := none })

/-- 定義を順に登録する。失敗しても、それまでに登録したものは残る。 -/
def registerFrom (base : Binary64) (groupDisabled : Bool) :
    Nat → List Definition → Registry → Except LoadError (List Rule) × Registry
  | _, [], r => (.ok [], r)
  | order, d :: rest, r =>
    match r.register d (.float base) (.int order) (some (!(groupDisabled || d.disabled))) with
    | .error e => (.error e, r)
    | .ok (rule, r) =>
      let (result, r) := registerFrom base groupDisabled (order + 1) rest r
      (result.map (rule :: ·), r)

/-- 組の規則を書かれた順に登録する。 -/
def registerGroup (r : Registry) (g : RuleGroup) : Except LoadError (List Rule) × Registry :=
  registerFrom g.basePriority g.disabled 0 g.patterns r

/-- 組を順に登録する。 -/
def registerGroups : List RuleGroup → Registry → Except LoadError (List Rule) × Registry
  | [], r => (.ok [], r)
  | g :: rest, r =>
    match r.registerGroup g with
    | (.error e, r) => (.error e, r)
    | (.ok rules, r) =>
      let (result, r) := registerGroups rest r
      (result.map (rules ++ ·), r)

/-- 組から登録簿を作る。 -/
def ofGroups (groups : List RuleGroup) (limits : Limits) : Except LoadError Registry :=
  match registerGroups groups (empty limits) with
  | (.ok _, r) => .ok r
  | (.error e, _) => .error e

/-- 備え付けの規則の登録簿。 -/
def bundled (limits : Limits) : Registry := (registerGroups Bundled.groups (empty limits)).2

/-- 登録を取り消す。あったかどうかも返す。 -/
def unregister (r : Registry) (name : String) : Bool × Registry :=
  (r.contains name, { r with rules := r.rules.filter (·.name != name), cache := none })

/-- 規則をすべて除き、枠を零に戻す。通し番号は戻さない。 -/
def clear (r : Registry) : Registry :=
  { r with rules := [], cache := none, budget := r.budget.reset }

/-- 規則の有効・無効を切り替える。知らない名前なら `none`。 -/
def setEnabled (r : Registry) (name : String) (enabled : Bool) : Option Registry :=
  if r.contains name then
    some { r with
      rules := r.rules.map fun rule => if rule.name == name then { rule with enabled } else rule
      cache := none }
  else none

/-! ## 並び -/

/-- すべての規則を、試す順に並べる。 -/
def allRules (r : Registry) : List Rule := arrange Rule.before r.rules

/-- 有効な規則を、試す順に並べる。 -/
def sortEnabled (r : Registry) : List Rule := arrange Rule.before (r.rules.filter (·.enabled))

/-- 走査に使う並び。使い回せるものがあればそれを使う。 -/
def activeRules (r : Registry) : List Rule :=
  match r.cache with
  | some view => view.rules
  | none => r.sortEnabled

/-- 有効な規則の並びを取り出す。なければ作って覚える。 -/
def getAll (r : Registry) : RuleView × Registry :=
  match r.cache with
  | some view => (view, r)
  | none =>
    let view : RuleView := ⟨r.nextSerial, r.sortEnabled⟩
    (view, { r with cache := some view, nextSerial := r.nextSerial + 1 })

/-- 続けて取り出せば、同じ並びが返る。 -/
theorem getAll_getAll (r : Registry) : r.getAll.2.getAll = (r.getAll.1, r.getAll.2) := by
  unfold getAll
  cases h : r.cache with
  | some view => simp [h]
  | none => simp

/-- 取り出した並びは、走査に使う並びである。 -/
theorem getAll_rules (r : Registry) : r.getAll.1.rules = r.activeRules := by
  unfold getAll activeRules
  cases r.cache <;> rfl

/-- 並びを取り出しても、規則は変わらない。 -/
theorem getAll_state_rules (r : Registry) : r.getAll.2.rules = r.rules := by
  unfold getAll
  split <;> rfl

/-! ## 枠 -/

/-- 登録簿と同じ上限の、新しい枠。 -/
def newBudget (r : Registry) : Budget := { ceiling := r.limits.maxIterations }

end Registry

end Tategaki
