import Tategaki.Proofs.Rule.Order

/-!
# 備え付けの規則

備え付けの規則の式を、解釈した形で並べる（`Bundled.patterns`）。登録簿に登録された規則の式はこのとおりで
あり（`patterns_bundled`）、定義は組に書かれたとおりである（`definitions_bundled`）。だから、式と定義についての
検めは、この並びの上で行える（`forall_bundled`）。

登録簿の上限を替えても、規則は変わらない（`bundled_withLimits`）。
-/

namespace Tategaki

/-! ## 式 -/

namespace Bundled

open Regex

/-- ちょうど一つの文字。 -/
def only (c : Char) : Expr := .test (.one false c.toNat .exact)

/-- `chars` のどれか。 -/
def oneOf (chars : List Char) : CharTest := .set false (chars.map fun c => .one c.toNat) .exact

/-- `chars` のどれでもない文字の、一つ以上の並び。 -/
def without (chars : List Char) : Expr :=
  .loop true 1 none (.test (.set true (chars.map fun c => .one c.toNat) .exact))

/-- 半角の数字。 -/
def halfDigit : CharTest := .set false [.span 0x30 0x39] .exact

/-- 半角か全角の数字。 -/
def digit : CharTest := .set false [.span 0x30 0x39, .span 0xFF10 0xFF19] .exact

/-- 半角の数字か点。 -/
def digitOrDot : CharTest := .set false [.span 0x30 0x39, .one 0x2E] .exact

/-- 半角の英字。 -/
def halfLetter : CharTest := .set false [.span 0x41 0x5A, .span 0x61 0x7A] .exact

/-- 直前の文字が条件に合う。`negated` なら合わない。 -/
def after (negated : Bool) (t : CharTest) : Expr := .lookBehind negated 1 1 (.test t)

/-- 直後の文字が条件に合う。`negated` なら合わない。 -/
def before (negated : Bool) (t : CharTest) : Expr := .lookAhead negated (.test t)

/-- 備え付けの規則の式。登録した順に並ぶ。 -/
def patterns : List Pattern := [
  ⟨.seq (only '《') (.seq (only '《') (.seq (.group 1 (without ['《', '》']))
    (.seq (only '》') (only '》')))), 1⟩,
  ⟨.seq (only '"') (.seq (.group 1 (without ['"', '\n'])) (only '"')), 1⟩,
  ⟨.seq (after false (.one false '第'.toNat .exact)) (.seq (.loop true 1 (some 2) (.test digit))
    (before false (oneOf ['話', '章', '巻', '部', '節', '回']))), 0⟩,
  ⟨.seq (after true halfDigit) (.seq (.group 1 (.loop true 4 (some 4) (.test halfDigit)))
    (before false (.one false '年'.toNat .exact))), 1⟩,
  ⟨.seq (after true digitOrDot) (.seq (.loop true 1 none (.test halfDigit))
    (.seq (only '.') (.loop true 1 none (.test halfDigit)))), 0⟩,
  ⟨.seq (after true digit) (.seq (.loop true 1 (some 2) (.test digit)) (before true digit)), 0⟩,
  ⟨.seq (after true digit) (.loop true 3 none (.test digit)), 0⟩,
  ⟨.loop true 2 (some 2) (.test (oneOf ['!', '?', '！', '？'])), 0⟩,
  ⟨.test (oneOf ['!', '?']), 0⟩,
  ⟨.loop true 1 none threeDots.expr, 0⟩,
  ⟨.seq (after true halfLetter) (.seq (.test halfLetter) (before true halfLetter)), 0⟩]

/-- 備え付けの規則の定義。登録する順に並ぶ。 -/
def definitions : List Definition := groups.flatMap RuleGroup.patterns

end Bundled

namespace Registry

theorem patterns_bundled : (bundled {}).rules.map Rule.pattern = Bundled.patterns := by
  decide +kernel

theorem definitions_bundled : (bundled {}).rules.map Rule.definition = Bundled.definitions := by
  decide +kernel

/-- **備え付けの規則についての検めは、式と定義の並びの上で行えばよい。** -/
theorem forall_bundled {P : Regex.Pattern → Definition → Prop}
    (h : ∀ p ∈ Bundled.patterns.zip Bundled.definitions, P p.1 p.2) :
    ∀ rule ∈ (bundled {}).rules, P rule.pattern rule.definition := by
  rw [← patterns_bundled, ← definitions_bundled, List.zip_map'] at h
  exact fun rule hrule => h _ (List.mem_map_of_mem hrule)

/-! ## 上限 -/

/-- 上限と枠だけを替えた登録簿。 -/
def withLimits (r : Registry) (limits : Limits) (budget : Budget) : Registry :=
  { r with
    limits
    budget }

@[simp] theorem rules_withLimits (r : Registry) (limits : Limits) (budget : Budget) :
    (r.withLimits limits budget).rules = r.rules := rfl

theorem register_withLimits (r : Registry) (limits : Limits) (budget : Budget) (d : Definition)
    (base order : Number) (enabled : Option Bool) :
    (r.withLimits limits budget).register d base order enabled
      = (r.register d base order enabled).map fun p => (p.1, p.2.withLimits limits budget) := by
  unfold register
  split
  · rfl
  · rw [show (r.withLimits limits budget).contains d.name = r.contains d.name from rfl]
    split
    · rfl
    · cases d.compile with
      | error e => rfl
      | ok pattern =>
        cases calculatePriority base order <;> rfl

theorem registerFrom_withLimits {base : Binary64} {groupDisabled : Bool} (limits : Limits)
    (budget : Budget) (definitions : List Definition) : ∀ (order : Nat) (r : Registry),
    registerFrom base groupDisabled order definitions (r.withLimits limits budget)
      = ((registerFrom base groupDisabled order definitions r).1,
        (registerFrom base groupDisabled order definitions r).2.withLimits limits budget) := by
  induction definitions with
  | nil => intro order r; rfl
  | cons d rest ih =>
    intro order r
    rw [registerFrom, registerFrom, register_withLimits]
    cases r.register d (.float base) (.int order) (some (!(groupDisabled || d.disabled))) with
    | error e => rfl
    | ok p =>
      simp only [Except.map, ih]

theorem registerGroups_withLimits (limits : Limits) (budget : Budget) (groups : List RuleGroup) :
    ∀ r : Registry, registerGroups groups (r.withLimits limits budget)
      = ((registerGroups groups r).1, (registerGroups groups r).2.withLimits limits budget) := by
  induction groups with
  | nil => intro r; rfl
  | cons g rest ih =>
    intro r
    rw [registerGroups, registerGroups]
    unfold registerGroup
    rw [registerFrom_withLimits]
    generalize registerFrom g.basePriority g.disabled 0 g.patterns r = result
    obtain ⟨e | rules, r'⟩ := result
    · rfl
    · simp only [ih]

/-- **上限を替えても、備え付けの規則は変わらない。** -/
theorem bundled_withLimits (limits : Limits) :
    bundled limits = (bundled {}).withLimits limits { ceiling := limits.maxIterations } := by
  have h := registerGroups_withLimits limits { ceiling := limits.maxIterations } Bundled.groups
    (empty {})
  unfold bundled
  rw [show empty limits = (empty {}).withLimits limits { ceiling := limits.maxIterations } from rfl,
    h]

theorem rules_bundled (limits : Limits) : (bundled limits).rules = (bundled {}).rules := by
  rw [bundled_withLimits, rules_withLimits]

end Registry

end Tategaki
