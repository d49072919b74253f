import Tategaki.Proofs.Chapter.Sharing
import Tategaki.Proofs.Scanner.Stack

/-!
# 終わらない走査

文字列の全体を読む規則が、その全体をもう一度走査させると、入れ子の走査でも同じ規則が勝つ。枠は前と同じ文字列で、
記録した区間はどれも枠全体を覆うので、位置を塞がないからである。だから走査は、文字列の中身によらず、上限に達する
まで深くなり、節を返さない。

一段ごとに、深さは一つ増え、枠は一つ減り、規則の名前が一つ連なる（`Recurs.scanAt_eq_error`）。どの上限に先に達するかは、
深さの上限、使える回数、枠を積める段数の三つだけで決まる（`scanWithin_recurs`）。
-/

namespace Tategaki

/-- 設定として正しい上限。 -/
structure Limits.Positive (limits : Limits) : Prop where
  depth : 1 ≤ limits.maxDepth.value
  iterations : 1 ≤ limits.maxIterations.value
  timeout : limits.timeout.value.isNonpositive = false

/-- 正の秒数として読めたものは、正である。 -/
theorem Limits.isNonpositive_readSeconds {fallback t : Seconds} {v : Json}
    (hf : fallback.value.isNonpositive = false) (h : readSeconds fallback v = some t) :
    t.value.isNonpositive = false := by
  unfold readSeconds at h
  split at h
  · cases h
    exact hf
  · split at h
    · next hpos =>
      cases h
      exact Number.isNonpositive_int hpos
    · cases h
  · split at h
    · cases h
    · next hpos =>
      cases h
      simpa [Seconds.value] using hpos
  · cases h
    exact Number.isNonpositive_int (Int.le_refl 1)
  · cases h

/-- **設定から作った上限は正しい。** -/
theorem Limits.positive_of_ofFields {fields : List (String × Json)} {limits : Limits}
    (h : Limits.ofFields fields = .ok limits) : limits.Positive := by
  unfold ofFields at h
  dsimp only at h
  split at h
  · next d i t hdepth hiterations htimeout =>
    cases h
    exact ⟨one_le_readWhole (by decide) hdepth, one_le_readWhole (by decide) hiterations,
      isNonpositive_readSeconds (by decide +kernel) htimeout⟩
  all_goals cases h

namespace Scanner

variable {τ : Type}

/-! ## 一段 -/

/-- 止まった時計は、上限が正なら、いつ読んでも間に合う。 -/
theorem inTime_of_positive {sc : Scanner τ} {now : Number} {clock : τ}
    (ht : sc.limits.timeout.value.isNonpositive = false) (h : Still sc.read now clock) :
    sc.InTime now clock := by
  intro n
  rw [h n]
  exact Number.not_lt_sub_self ht now

/-- 間に合っていても、深さの上限を越えた枠は、深さのために止まる。 -/
theorem scanAt_of_too_deep {sc : Scanner τ} {ctx : Context} {st : ScanState τ} (text : Text)
    (offset : Int) (htime : sc.InTime ctx.startTime st.clock)
    (hdepth : sc.limits.maxDepth.value < ctx.depth) :
    (sc.scanAt ctx text offset st).1
      = .error (.tooDeep ctx.depth sc.limits.maxDepth ctx.chain) := by
  have hlate : sc.limits.timeout.value.lt ((sc.read st.clock).1.sub ctx.startTime) = false :=
    htime 0
  rw [scanAt_eq]
  unfold validate ScanState.readClock
  dsimp only
  rw [hlate, if_neg Bool.false_ne_true, if_pos hdepth]

/-- 枠全体を覆う区間だけなら、どの位置も塞がれない。 -/
theorem blocking?_of_covers {ranges : List ProcessedRange} {p lo hi : Int}
    (h : ∀ range ∈ ranges, range.covers lo hi = true) :
    ProcessedRange.blocking? ranges p lo hi = none := by
  refine List.find?_eq_none.mpr fun range hrange => ?_
  simp [h range hrange]

variable {sc : Scanner τ} {text : Text} {rule : Rule} {found : Regex.Match} {group : Nat}

/-- 文字列の全体を読み、その全体をもう一度走査させる規則が、文字列の始めで勝つ。 -/
structure Recurs (sc : Scanner τ) (text : Text) (rule : Rule) (found : Regex.Match)
    (group : Nat) : Prop where
  first : winner? sc.rules text.toArray 0 = some (rule, found)
  whole : found.stop = text.length
  head : ∃ rest, rule.definition.steps = .processGroup group :: rest
  count : group ≤ rule.pattern.groupCount
  span : found.span? group = some (0, text.length)

/-- 規則の読んだ区間は、枠全体を覆う。 -/
theorem Recurs.covers (h : sc.Recurs text rule found group) (ctx : Context) :
    ((Frame.of ctx text 0).range rule found).covers 0 text.length = true := by
  have hstart := (Rule.matchAt_bounds (mem_of_winner? h.first).2).1
  rw [ProcessedRange.covers_iff]
  constructor
  · show (0 : Int) + found.start ≤ 0
    omega
  · show (text.length : Int) ≤ 0 + found.stop
    rw [h.whole]
    omega

/-- **区間がどれも枠全体を覆うなら、枠の始めでこの規則が勝つ。** -/
theorem Recurs.turn_eq (h : sc.Recurs text rule found group) {ctx : Context} {st : ScanState τ}
    (hdepth : ctx.depth ≤ sc.limits.maxDepth.value) (htime : sc.InTime ctx.startTime st.clock)
    (hcovers : ∀ range ∈ st.ranges, range.covers 0 text.length = true) :
    sc.turn (.of ctx text 0) 0 st = (.win rule found, (st.readClock sc.read).2) := by
  have hblock : ProcessedRange.blocking? (st.readClock sc.read).2.ranges
      ((Frame.of ctx text 0).offset + (0 : Nat)) (Frame.of ctx text 0).offset
      (Frame.of ctx text 0).stop = none := by
    refine blocking?_of_covers fun range hrange => ?_
    rw [show (Frame.of ctx text 0).stop = text.length from Int.zero_add _]
    exact hcovers range hrange
  unfold turn
  rw [Frame.of_ctx, validate_of_inTime hdepth htime]
  dsimp only
  rw [hblock, Frame.of_input, h.first]

/-- 勝った規則は、枠があれば、同じ文字列を一段深いところで走査させる。 -/
theorem Recurs.process_error (h : sc.Recurs text rule found group)
    {f : Rescan (ScanState τ) ScanError} {st st' : ScanState τ} {e : ScanError}
    (hf : f text 0 st = (.error e, st')) :
    rule.process text found (some f) .transform st = (.error e, st') := by
  obtain ⟨rest, hsteps⟩ := h.head
  unfold Rule.process
  rw [hsteps]
  refine applySteps_of_rescan_error _ _ _ h.count h.span ?_
  rw [show Text.slice text 0 text.length = text by simp [Text.slice]]
  exact hf

/-- 枠を使い切っていれば、勝った規則は断られる。 -/
theorem transform_of_spent {frame : Frame} {rescan : String → Rescan (ScanState τ) ScanError}
    {st : ScanState τ} (hspent : st.budget.remaining = 0) :
    (transform frame rescan rule found st).1
      = .error (.budget ⟨st.budget.ceiling, some rule.name⟩) := by
  unfold transform
  dsimp only
  rw [ScanState.charge_eq,
    show (st.record (frame.range rule found) (frame.win rule found)).budget = st.budget from rfl,
    Budget.charge_of_isSpent _ (Budget.isSpent_iff.mpr hspent)]
  rfl

/-- 枠が残っていれば、一つ減った枠で、同じ文字列を一段深いところで走査する。 -/
theorem Recurs.transform_error (h : sc.Recurs text rule found group) {ctx : Context}
    {rescan : String → Rescan (ScanState τ) ScanError} {st : ScanState τ} {e : ScanError}
    (hpos : 0 < st.budget.remaining)
    (hrescan : ∀ st' : ScanState τ, st'.clock = st.clock →
      st'.ranges = st.ranges ++ [(Frame.of ctx text 0).range rule found] →
      st'.budget.ceiling = st.budget.ceiling →
      st'.budget.remaining + 1 = st.budget.remaining → (rescan rule.name text 0 st').1 = .error e) :
    (transform (.of ctx text 0) rescan rule found st).1 = .error e := by
  obtain ⟨b, hcharge, -, hremaining⟩ := Budget.charge_of_remaining_pos (some rule.name) hpos
  unfold transform
  dsimp only
  rw [ScanState.charge_eq]
  generalize hwon : st.record _ _ = won
  have hbudget : won.budget = st.budget := by rw [← hwon]; rfl
  have halike := ScanState.alike_setBudget won b
  have hnested := hrescan (won.setBudget b) (by rw [halike.clock, ← hwon]; rfl)
    (by rw [halike.ranges, ← hwon]; rfl)
    (by rw [ScanState.budget_setBudget, (Budget.charge_count hcharge).2])
    (by rw [ScanState.budget_setBudget, hremaining])
  rw [hbudget, hcharge]
  dsimp only [Except.map]
  exact congrArg Prod.fst (h.process_error (Prod.ext hnested rfl))

/-! ## すべての段 -/

/-- 深さの上限を越えるまで `n` 段のとき、規則が自分を走査させ続けた末の失敗。 -/
def exhaustion (limits : Limits) (b : Budget) (chain : List String) (name : String) (n : Nat) :
    ScanError :=
  if n ≤ b.remaining then
    .tooDeep (limits.maxDepth.value + 1) limits.maxDepth (chain ++ List.replicate n name)
  else .budget ⟨b.ceiling, some name⟩

/-- 一段深くなっても、行き着く失敗は変わらない。 -/
theorem exhaustion_succ (limits : Limits) {b b' : Budget} (chain : List String) (name : String)
    (n : Nat) (hceiling : b'.ceiling = b.ceiling) (hremaining : b'.remaining + 1 = b.remaining) :
    exhaustion limits b chain name (n + 1) = exhaustion limits b' (chain ++ [name]) name n := by
  have hiff : n + 1 ≤ b.remaining ↔ n ≤ b'.remaining := by omega
  simp [exhaustion, hiff, hceiling, List.replicate_succ]

/--
**一段ごとに、深さは一つ増え、枠は一つ減り、規則の名前が一つ連なる。**

`n` は、深さの上限を越えるまでに残っている段数である。
-/
theorem Recurs.scanAt_eq_error (h : sc.Recurs text rule found group) (n : Nat) :
    ∀ (ctx : Context) (st : ScanState τ), ctx.depth + n = sc.limits.maxDepth.value + 1 →
      sc.InTime ctx.startTime st.clock →
      (∀ range ∈ st.ranges, range.covers 0 text.length = true) →
      (sc.scanAt ctx text 0 st).1
        = .error (exhaustion sc.limits st.budget ctx.chain rule.name n) := by
  induction n with
  | zero =>
    intro ctx st hdepth htime _
    have hlast : ctx.depth = sc.limits.maxDepth.value + 1 := by omega
    rw [scanAt_of_too_deep text 0 htime (by omega), hlast]
    simp [exhaustion]
  | succ n ih =>
    intro ctx st hdepth htime hcovers
    have hlt : 0 < text.length := by
      have := Rule.matchAt_bounds (mem_of_winner? h.first).2
      omega
    obtain ⟨fuel, hfuel⟩ := Nat.exists_eq_succ_of_ne_zero (Nat.pos_iff_ne_zero.mp hlt)
    -- 枠の検めも、枠の始めの一歩も通り、規則が勝つ
    have hvalid : sc.validate ctx st = (none, (st.readClock sc.read).2) :=
      validate_of_inTime (by omega) htime
    have hturn : sc.turn (.of ctx text 0) 0 (st.readClock sc.read).2
        = (.win rule found, ((st.readClock sc.read).2.readClock sc.read).2) :=
      h.turn_eq (by omega) htime.next hcovers
    generalize hst₁ : ((st.readClock sc.read).2.readClock sc.read).2 = st₁ at hturn
    have hbudget : st₁.budget = st.budget := by rw [← hst₁]; rfl
    have hranges : st₁.ranges = st.ranges := by rw [← hst₁]; rfl
    have htime₁ : sc.InTime ctx.startTime st₁.clock := by rw [← hst₁]; exact htime.next.next
    have hfail : (transform (.of ctx text 0) (sc.rescan ctx 0) rule found st₁).1
        = .error (exhaustion sc.limits st.budget ctx.chain rule.name (n + 1)) := by
      by_cases hspent : st₁.budget.remaining = 0
      · rw [transform_of_spent hspent, exhaustion, if_neg (by rw [← hbudget]; omega), hbudget]
      · refine h.transform_error (Nat.pos_of_ne_zero hspent) ?_
        intro st₂ hclock hranges₂ hceiling hremaining
        rw [hbudget] at hceiling hremaining
        rw [exhaustion_succ _ _ _ _ hceiling hremaining, rescan, Int.ofNat_zero, Int.add_zero]
        refine ih (ctx.child rule.name) st₂ ?_ (hclock ▸ htime₁) ?_
        · show ctx.depth + 1 + n = _
          omega
        · rw [hranges₂, hranges]
          intro range hrange
          rcases List.mem_append.mp hrange with hold | hnew
          · exact hcovers range hold
          · rw [List.mem_singleton.mp hnew]
            exact h.covers ctx
    -- 規則が失敗すれば、枠の走査も同じ失敗で終わる
    rw [scanAt_eq, hvalid]
    dsimp only
    rw [hfuel, loop_succ sc (.of ctx text 0) _ hlt, hturn]
    dsimp only
    generalize transform (.of ctx text 0) (sc.rescan ctx 0) rule found st₁ = result at hfail ⊢
    obtain ⟨outcome, st₂⟩ := result
    rw [show outcome = _ from hfail]

/-- 登録簿の規則が、文字列の始めで勝ち、全体を読んで、その全体をもう一度走査させる。 -/
theorem recurs_of_firstAt {r : Registry} (hr : r.Reachable) (limits : Limits) (read : ReadClock τ)
    (hfirst : r.FirstAt text 0 rule found) (hwhole : found.stop = text.length)
    (hhead : rule.definition.steps.head? = some (.processGroup group))
    (hspan : found.span? group = some (0, text.length)) :
    (ofRegistry r limits read).Recurs text rule found group := by
  obtain ⟨rest, hsteps⟩ := List.head?_eq_some_iff.mp hhead
  refine ⟨?_, hwhole, ⟨rest, hsteps⟩, ?_, hspan⟩
  · show winner? r.activeRules text.toArray 0 = _
    rw [hr.ordered.activeRules_eq]
    exact Registry.firstAt_iff.mp hfirst
  · -- 登録のときの検めで、段の指す組は式にあることが分かっている
    have hcompile := hr.compiled rule hfirst.matchesAt.1
    have hcheck := (Definition.compile_ok_iff.mp hcompile).2
    rw [hsteps] at hcheck
    exact Step.groups_le_of_checkFrom hcheck group (List.mem_singleton_self group)

/-! ## 積む場所 -/

/-- 深さの上限を縮めても、規則は自分を走査させる。 -/
theorem Recurs.within (h : sc.Recurs text rule found group) (deepest : Option Int) :
    (sc.within deepest).Recurs text rule found group :=
  ⟨h.first, h.whole, h.head, h.count, h.span⟩

/-- 深さの上限を縮めても、間に合うことは変わらない。 -/
theorem InTime.within {start : Number} {clock : τ} (h : sc.InTime start clock)
    (deepest : Option Int) : (sc.within deepest).InTime start clock := by
  intro n
  show (sc.limits.within deepest).timeout.value.lt _ = false
  rw [Limits.within_timeout]
  exact h n

/-- 深さの上限まで積めるなら、深さか枠の上限のために止まる。 -/
theorem Recurs.scanWithin_of_le (h : sc.Recurs text rule found group) {ctx : Context}
    {st : ScanState τ} {room : Nat} (hroom : sc.limits.maxDepth.value ≤ room)
    (hlimit : 0 ≤ sc.limits.maxDepth.value) (hdepth : ctx.depth = 0)
    (htime : sc.InTime ctx.startTime st.clock) (hranges : st.ranges = []) :
    (sc.scanWithin (some room) ctx text st).1
      = .error (.scan (exhaustion sc.limits st.budget ctx.chain rule.name
          (sc.limits.maxDepth.value + 1).toNat)) := by
  have hscan : (sc.scan ctx text st).1
      = .error (exhaustion sc.limits st.budget ctx.chain rule.name
          (sc.limits.maxDepth.value + 1).toNat) :=
    h.scanAt_eq_error _ ctx st (by omega) htime (by simp [hranges])
  rw [Scanner.scanWithin_of_le sc text st (by omega), hscan]
  rfl

/-- 深さの上限まで積めなければ、枠を使い切らない限り、積む場所がなくなって止まる。 -/
theorem Recurs.scanWithin_of_lt (h : sc.Recurs text rule found group) {ctx : Context}
    {st : ScanState τ} {room : Nat} (hroom : room < sc.limits.maxDepth.value)
    (hdepth : ctx.depth = 0) (htime : sc.InTime ctx.startTime st.clock)
    (hranges : st.ranges = []) :
    (sc.scanWithin (some room) ctx text st).1
      = .error (if room + 1 ≤ st.budget.remaining then .exhausted
          else .scan (.budget ⟨st.budget.ceiling, some rule.name⟩)) := by
  have hlt : ctx.depth + room < sc.limits.maxDepth.value := by omega
  have hlimits : (sc.within (some (ctx.depth + room))).limits.maxDepth.value = ctx.depth + room :=
    congrArg (·.maxDepth.value) (Limits.within_of_lt hlt)
  -- 縮めた上限を越えるまでは、`room + 1` 段ある
  have hscan : ((sc.within (some (ctx.depth + room))).scan ctx text st).1
      = .error (exhaustion (sc.within (some (ctx.depth + room))).limits st.budget ctx.chain
          rule.name (room + 1)) :=
    (h.within _).scanAt_eq_error (room + 1) ctx st (by rw [hlimits]; omega) (htime.within _)
      (by simp [hranges])
  unfold scanWithin
  dsimp only [Option.map_some]
  rw [hscan, exhaustion]
  split
  · exact congrArg Except.error (StackError.ofScan_of_tooDeep hlt rfl)
  · rfl

/--
**文字列の全体を読んで、その全体をもう一度走査させる規則が始めで勝つと、走査は節を返さない。**

枠を深さの上限まで積めるなら、使える回数が深さの上限より一つ多く残っていれば、規則の名前がその回数だけ連なって
深さのために止まり、そうでなければ回数のために止まる。そこまで積めなければ、深さの上限に達することはなく、積む場所
がなくなるか、回数を使い切って止まる。
-/
theorem scanWithin_recurs {r : Registry} {limits : Limits} {read : ReadClock τ} {st : ScanState τ}
    {now : Number} (hr : r.Reachable) (hlimits : limits.Positive)
    (hfirst : r.FirstAt text 0 rule found) (hwhole : found.stop = text.length)
    (hhead : rule.definition.steps.head? = some (.processGroup group))
    (hspan : found.span? group = some (0, text.length)) (hstill : Still read now st.clock)
    (hranges : st.ranges = []) (room : Nat) :
    ((ofRegistry r limits read).scanWithin (some room) ((ofRegistry r limits read).newContext st).1
        text ((ofRegistry r limits read).newContext st).2).1
      = .error (
        if limits.maxDepth.value ≤ room then
          .scan (
            if limits.maxDepth.value + 1 ≤ st.budget.remaining then
              .tooDeep (limits.maxDepth.value + 1) limits.maxDepth
                (List.replicate (limits.maxDepth.value + 1).toNat rule.name)
            else .budget ⟨st.budget.ceiling, some rule.name⟩)
        else if room + 1 ≤ st.budget.remaining then .exhausted
        else .scan (.budget ⟨st.budget.ceiling, some rule.name⟩)) := by
  have hrecurs := recurs_of_firstAt hr limits read hfirst hwhole hhead hspan
  have hdepth := hlimits.depth
  -- 文脈を作るときに時計を一度読む
  have htime : (ofRegistry r limits read).InTime (read st.clock).1 (read st.clock).2 := by
    rw [hstill.now]
    exact inTime_of_positive hlimits.timeout hstill.next
  by_cases hroom : limits.maxDepth.value ≤ room
  · have hiff : (limits.maxDepth.value + 1).toNat ≤ st.budget.remaining
        ↔ limits.maxDepth.value + 1 ≤ st.budget.remaining := by omega
    rw [if_pos hroom, ← if_congr hiff rfl rfl]
    have hlimit : 0 ≤ limits.maxDepth.value := by omega
    exact hrecurs.scanWithin_of_le hroom hlimit rfl htime hranges
  · rw [if_neg hroom]
    exact hrecurs.scanWithin_of_lt (Int.not_le.mp hroom) rfl htime hranges

/-- 読んだ全体を、もう一度走査させる規則。 -/
def echoDefinition : Definition where
  name := "echo"
  expression := { source := "(.+)".toList }
  output := .text
  steps := [.processGroup 1]

/-- `echoDefinition` だけの登録簿。 -/
def echoRegistry : Registry :=
  (Registry.registerGroups [{ name := "g", basePriority := .ofInt 1, patterns := [echoDefinition] }]
    (.empty {})).2

/-- 深さの上限だけを設定に書いた上限。 -/
def depthFields (n : Int) : List (String × Json) := [("max_recursion_depth", .int n)]

/-- `echoRegistry` の規則で、深さの上限を `depth` として走査するもの。 -/
def echoScanner (depth : Int) : Scanner SteadyClock :=
  ofRegistry echoRegistry { maxDepth := .number depth } SteadyClock.read

/-- 上限が `ceiling` 回の枠を、`spent` 回だけ使った状態。 -/
def echoState (ceiling spent : Nat) : ScanState SteadyClock :=
  { freshState with shared := { ceiling := .number ceiling, count := spent } }

/-- `echoScanner` が、枠を `room` 段まで積めるところで `ab` を走査した結果。 -/
def echoScan (depth : Int) (room : Nat) (st : ScanState SteadyClock) :
    Except StackError (List Node) :=
  ((echoScanner depth).scanWithin (some room) ((echoScanner depth).newContext st).1 ['a', 'b']
    ((echoScanner depth).newContext st).2).1

/-- `ab` の始めで、`echoDefinition` の規則が勝ち、全体を読む。 -/
theorem exists_firstAt_echo : ∃ rule found, echoRegistry.FirstAt ['a', 'b'] 0 rule found ∧
    found.stop = 2 ∧ rule.definition.steps.head? = some (.processGroup 1) ∧
      found.span? 1 = some (0, 2) ∧ rule.name = "echo" := by
  have hwon : (echoRegistry.sortEnabled.findSome? fun x =>
      (x.matchAt #['a', 'b'] 0).map (x, ·)).any (fun won => won.2.stop == 2 &&
        won.1.definition.steps.head? == some (.processGroup 1) &&
        won.2.span? 1 == some (0, 2) && won.1.name == "echo") = true := by decide +kernel
  obtain ⟨⟨rule, found⟩, hfirst, hwon⟩ := (Option.any_eq_true _ _).mp hwon
  simp only [Bool.and_eq_true, beq_iff_eq] at hwon
  obtain ⟨⟨⟨hstop, hhead⟩, hspan⟩, hname⟩ := hwon
  exact ⟨rule, found, Registry.firstAt_iff.mpr hfirst, hstop, hhead, hspan, hname⟩

/--
深さの上限が二で、枠を二段まで積めるとき、三回使えれば深さのために、二回しか使えなければ回数のために止まる。一段しか
積めなければ、二回使えれば積む場所がなくなり、一回しか使えなければ回数のために止まる。
-/
theorem scanWithin_recurs_echo :
    echoRegistry.Reachable ∧ Limits.ofFields (depthFields 2) = .ok { maxDepth := .number 2 } ∧
      (∀ spent, Still SteadyClock.read (.int 0) (echoState 4 spent).clock) ∧
      ∃ rule found, echoRegistry.FirstAt ['a', 'b'] 0 rule found ∧ found.stop = 2 ∧
        rule.definition.steps.head? = some (.processGroup 1) ∧ found.span? 1 = some (0, 2) ∧
        echoScan 2 2 (echoState 4 1)
          = .error (.scan (.tooDeep 3 (.number 2) ["echo", "echo", "echo"])) ∧
        echoScan 2 2 (echoState 4 2) = .error (.scan (.budget ⟨.number 4, some "echo"⟩)) ∧
        echoScan 2 1 (echoState 4 2) = .error .exhausted ∧
        echoScan 2 1 (echoState 4 3) = .error (.scan (.budget ⟨.number 4, some "echo"⟩)) := by
  have hreachable : echoRegistry.Reachable := Registry.reachable_registerGroups _ (.empty {})
  have hfields : Limits.ofFields (depthFields 2) = .ok { maxDepth := .number 2 } := rfl
  have hstill : ∀ spent, Still SteadyClock.read (.int 0) (echoState 4 spent).clock :=
    fun _ => still_of_fixed (SteadyClock.read_still 0)
  obtain ⟨rule, found, hfirst, hstop, hhead, hspan, hname⟩ := exists_firstAt_echo
  have hlimits := Limits.positive_of_ofFields hfields
  have hscan (spent room : Nat) := scanWithin_recurs hreachable hlimits hfirst hstop hhead hspan
    (hstill spent) rfl room
  rw [hname] at hscan
  exact ⟨hreachable, hfields, hstill, rule, found, hfirst, hstop, hhead, hspan,
    hscan 1 2, hscan 2 2, hscan 2 1, hscan 3 1⟩

/--
深さの上限が三百で、使える回数が千回残っていれば、枠を何段まで積めるところでも、深さのために止まるか、積む場所が
なくなるかである。枠を千まで積める処理系では、深さの上限に達する前に積む場所がなくなる。
-/
theorem scanWithin_recurs_cramped :
    echoRegistry.Reachable ∧ Limits.ofFields (depthFields 300) = .ok { maxDepth := .number 300 } ∧
      Still SteadyClock.read (.int 0) (echoState 1000 0).clock ∧
      (echoState 1000 0).ranges = [] ∧ 301 ≤ (echoState 1000 0).budget.remaining ∧
      (∃ rule found, echoRegistry.FirstAt ['a', 'b'] 0 rule found ∧ found.stop = 2 ∧
        rule.definition.steps.head? = some (.processGroup 1) ∧ found.span? 1 = some (0, 2)) ∧
      (∀ room, echoScan 300 room (echoState 1000 0) = .error .exhausted ∨
        echoScan 300 room (echoState 1000 0)
          = .error (.scan (.tooDeep 301 (.number 300) (List.replicate 301 "echo")))) ∧
      echoScan 300 usualRoom (echoState 1000 0) = .error .exhausted ∧
      echoScan 300 usualRoom (echoState 1000 0)
        ≠ .error (.scan (.tooDeep 301 (.number 300) (List.replicate 301 "echo"))) := by
  have hreachable : echoRegistry.Reachable := Registry.reachable_registerGroups _ (.empty {})
  have hfields : Limits.ofFields (depthFields 300) = .ok { maxDepth := .number 300 } := rfl
  have hstill : Still SteadyClock.read (.int 0) (echoState 1000 0).clock :=
    still_of_fixed (SteadyClock.read_still 0)
  obtain ⟨rule, found, hfirst, hstop, hhead, hspan, hname⟩ := exists_firstAt_echo
  have hrecurs : (echoScanner 300).Recurs ['a', 'b'] rule found 1 :=
    recurs_of_firstAt hreachable _ _ hfirst hstop hhead hspan
  have htime : (echoScanner 300).InTime (.int 0) (SteadyClock.read (echoState 1000 0).clock).2 :=
    inTime_of_positive (Limits.positive_of_ofFields hfields).timeout hstill.next
  generalize hstart : (echoScanner 300).newContext (echoState 1000 0) = start
  obtain ⟨ctx, st⟩ := start
  have hwide : ((echoScanner 300).scan ctx ['a', 'b'] st).1
      = .error (.tooDeep 301 (.number 300) (List.replicate 301 "echo")) := by
    cases hstart
    rw [← hname]
    exact (hrecurs.scanAt_eq_error 301 _ _ rfl htime (List.forall_mem_nil _)).trans
      (congrArg Except.error (if_pos (by decide)))
  have hcases (room : Nat) : echoScan 300 room (echoState 1000 0) = .error .exhausted ∨
      echoScan 300 room (echoState 1000 0)
        = .error (.scan (.tooDeep 301 (.number 300) (List.replicate 301 "echo"))) := by
    unfold echoScan
    rw [hstart]
    refine ((echoScanner 300).scanWithin_cases room ctx ['a', 'b'] st).imp_right fun h => ?_
    rw [h, hwide]
    rfl
  have hscan : echoScan 300 usualRoom (echoState 1000 0) = .error .exhausted := by
    rw [echoScan, hrecurs.scanWithin_of_lt (by decide) rfl htime rfl]
    exact congrArg Except.error (if_pos (by decide))
  refine ⟨hreachable, hfields, hstill, rfl, by decide, ⟨rule, found, hfirst, hstop, hhead, hspan⟩,
    hcases, hscan, ?_⟩
  rw [hscan]
  nofun

end Scanner

end Tategaki
