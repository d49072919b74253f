import Tategaki.Proofs.Scanner.Guard

/-!
# 枠の位置

枠の中の位置は、深い枠でも、一番外側の文字列での位置に直して記録される。直すのは枠に入るときの一度ずつなので、
どこか一か所でも誤れば、二段より深いところで初めて現れる。

枠の走査が辿る位置（`Visits`）と、規則が勝つところ（`Wins`）、段の求めで入る内側の枠（`Calls`）を、走査が節を返すか
失敗するかに関わらず書き出すと、記録のない文脈から始めた走査について次が言える（`scan_located`）。

* 入ったどの枠の文字列も、一番外側の文字列の、枠の位置から始まる切れ端である。
* 記録したどの区間も空でなく、文字列の中にあり、その切れ端は、規則がその枠で読んだ文字列である。
* 一つの枠が自分で記録した区間は、左から順に並んで重ならない。
* 組の走査で記録した区間は、その組の読んだ区間の中にある。
-/

namespace Tategaki

/-- 切れ端の切れ端は、切れ端である。 -/
theorem Text.slice_slice (s : Text) {n len a b : Nat} (hb : b ≤ len) :
    slice (slice s n (n + len)) a b = slice s (n + a) (n + b) := by
  unfold slice
  rw [List.take_drop, List.take_take, List.drop_drop, Nat.min_eq_left (by omega)]

variable {σ ε : Type} {m : Matched} {patternName : Option String} {report : TransformError → ε}

/-- 求めた走査のどれでも保たれることは、並びの実行でも保たれる。 -/
theorem runSteps_keeps {f : Rescan σ ε} {P : σ → Prop} : ∀ (steps : List Step) (index : Nat)
    (v : Value) (s : σ), P s →
    (∀ segment start s', Asks m f steps v s segment start s' → P s' → P (f segment start s').2) →
    P (runSteps m patternName (some f) report steps index v s).2
  | [], _, _, _, hs, _ => hs
  | step :: rest, index, v, s, hs, hasks => by
    rw [runSteps]
    cases heval : step.eval m true v with
    | error reason =>
      simp only [Option.isSome_some, heval]
      exact hs
    | ok outcome =>
      cases outcome with
      | value w =>
        simp only [Option.isSome_some, heval]
        exact runSteps_keeps rest (index + 1) w s hs fun segment start s' ha =>
          hasks segment start s' (.value heval ha)
      | rescan segment start =>
        have hcall := hasks segment start s (.here heval) hs
        simp only [Option.isSome_some, heval, rescanWith]
        cases hf : f segment start s with
        | mk result s₁ =>
          rw [hf] at hcall
          cases result with
          | error e => exact hcall
          | ok ns =>
            exact runSteps_keeps rest (index + 1) (.nodes ns) s₁ hcall fun segment' start' s' ha =>
              hasks segment' start' s' (.answered heval hf ha)

/-- 段の並びを使った後の状態は、並びの実行の後の状態である。 -/
theorem applySteps_state {f : Option (Rescan σ ε)} (steps : List Step) (output : OutputKind)
    (s : σ) : (applySteps steps m output patternName f report s).2
      = (runSteps m patternName f report steps 0 (.string m.whole) s).2 := by
  unfold applySteps
  split
  · next heq => rw [heq]
  · next heq =>
    rw [heq]
    split <;> rfl

namespace Scanner

variable {τ : Type} {sc : Scanner τ}

/-! ## 走査の跡 -/

/-- 枠の走査の求め。 -/
structure Call (τ : Type) where
  ctx : Context
  text : Text
  offset : Int
  state : ScanState τ

/-- 走査する枠。 -/
def Call.frame (c : Call τ) : Frame := .of c.ctx c.text c.offset

/-- 走査した後の状態。節を返しても、失敗しても残る。 -/
def Call.after (sc : Scanner τ) (c : Call τ) : ScanState τ :=
  (sc.scanAt c.ctx c.text c.offset c.state).2

/-- 枠の走査が、`position` に状態 `st` で来た。`own` は、それまでに枠自身が記録した区間である。 -/
inductive Visits (sc : Scanner τ) (c : Call τ) :
    Nat → ScanState τ → List ProcessedRange → Prop
  | enter {st : ScanState τ} (h : sc.validate c.ctx c.state = (none, st)) : Visits sc c 0 st []
  | step {position : Nat} {st st' : ScanState τ} {own : List ProcessedRange}
      (h : Visits sc c position st own) (hlt : position < c.text.length)
      (ht : sc.turn c.frame position st = (.step, st')) : Visits sc c (position + 1) st' own
  | skip {position : Nat} {st st' : ScanState τ} {own : List ProcessedRange}
      {range : ProcessedRange} (h : Visits sc c position st own) (hlt : position < c.text.length)
      (ht : sc.turn c.frame position st = (.skip range, st')) :
      Visits sc c (c.frame.afterSkip range) st' own
  | win {position : Nat} {st st₁ st₂ : ScanState τ} {own : List ProcessedRange} {rule : Rule}
      {found : Regex.Match} {produced : List Node} (h : Visits sc c position st own)
      (hlt : position < c.text.length)
      (ht : sc.turn c.frame position st = (.win rule found, st₁))
      (hp : transform c.frame (sc.rescan c.ctx c.offset) rule found st₁ = (.ok produced, st₂)) :
      Visits sc c found.stop st₂ (own ++ [c.frame.range rule found])

/-- 枠の走査で規則が勝ち、状態 `st` に区間を書き足す。`own` は、それまでに枠自身が記録した区間である。 -/
inductive Wins (sc : Scanner τ) (c : Call τ) (own : List ProcessedRange) (rule : Rule)
    (found : Regex.Match) (st : ScanState τ) : Prop
  | intro {position : Nat} {st₀ : ScanState τ} (h : Visits sc c position st₀ own)
      (hlt : position < c.text.length) (ht : sc.turn c.frame position st₀ = (.win rule found, st))

/-- 枠の走査で勝った規則の段が、内側の枠の走査を求める。 -/
inductive Calls (sc : Scanner τ) (c : Call τ) : Call τ → Prop
  | intro {own : List ProcessedRange} {rule : Rule} {found : Regex.Match}
      {st before asked : ScanState τ} {segment : Text} {start : Nat}
      (hw : Wins sc c own rule found st)
      (hc : (st.record (c.frame.range rule found) (c.frame.win rule found)).charge rule.name
        = .ok before)
      (ha : Asks ⟨c.text, found, rule.pattern.groupCount⟩ (sc.rescan c.ctx c.offset rule.name)
        rule.definition.steps (.string (Matched.whole ⟨c.text, found, rule.pattern.groupCount⟩))
        before segment start asked) :
      Calls sc c ⟨c.ctx.child rule.name, segment, c.offset + start, asked⟩

/-- 走査は、内側の枠に入っていく。 -/
def Enters (sc : Scanner τ) : Call τ → Call τ → Prop := Relation.ReflTransGen (Calls sc)

/-! ## 一つの枠 -/

section Frame

variable {c c' : Call τ} {own : List ProcessedRange} {rule : Rule} {found : Regex.Match}
  {st : ScanState τ}

/-- 勝った規則は走査に使う規則で、枠の文字列の中の一文字以上を読む。 -/
theorem Wins.matches (h : Wins sc c own rule found st) : rule ∈ sc.rules ∧
    rule.matchAt c.text.toArray found.start = some found ∧ found.start < found.stop ∧
    found.stop ≤ c.text.length := by
  obtain ⟨-, hlt, ht⟩ := h
  obtain ⟨hrule, hmatch⟩ := mem_of_winner? (turn_win ht).2
  have hbounds := Rule.matchAt_bounds hmatch
  refine ⟨hrule, ?_, by omega, hbounds.2.2⟩
  rw [hbounds.1]
  exact hmatch

/-- 枠自身が記録した区間は、左から順に並び、いまの位置までに終わる。 -/
structure InLine (own : List ProcessedRange) (stop : Int) : Prop where
  apart : own.Pairwise fun a b => a.stop ≤ b.start
  nonempty : ∀ a ∈ own, a.start < a.stop
  done : ∀ a ∈ own, a.stop ≤ stop

theorem InLine.mono {stop stop' : Int} (h : InLine own stop) (hle : stop ≤ stop') :
    InLine own stop' :=
  ⟨h.apart, h.nonempty, fun a ha => Int.le_trans (h.done a ha) hle⟩

/-- 終わりより先の区間を後ろに置く。 -/
theorem InLine.push {stop : Int} {range : ProcessedRange} (h : InLine own stop)
    (hle : stop ≤ range.start) (hlt : range.start < range.stop) :
    InLine (own ++ [range]) range.stop where
  apart := by
    refine List.pairwise_append.mpr ⟨h.apart, List.pairwise_singleton _ _, fun a ha b hb => ?_⟩
    rw [List.mem_singleton.mp hb]
    exact Int.le_trans (h.done a ha) hle
  nonempty a ha := by
    rcases List.mem_append.mp ha with ha | ha
    · exact h.nonempty a ha
    · rw [List.mem_singleton.mp ha]
      exact hlt
  done a ha := by
    rcases List.mem_append.mp ha with ha | ha
    · have := h.done a ha
      omega
    · rw [List.mem_singleton.mp ha]

/-- 勝った規則の区間は、いまの位置から始まる。 -/
theorem InLine.win {position : Nat} {st' : ScanState τ} (h : InLine own (c.offset + position))
    (ht : sc.turn c.frame position st = (.win rule found, st')) :
    InLine (own ++ [c.frame.range rule found]) (c.offset + found.stop) := by
  obtain ⟨hstart, hstop, -⟩ :=
    Rule.matchAt_bounds (mem_of_winner? (turn_win ht).2).2
  refine h.push ?_ ?_
  · show c.offset + _ ≤ c.offset + _
    omega
  · show c.offset + _ < c.offset + _
    omega

/-- **枠の走査がどこへ進んでも、枠自身が記録した区間は、左から順に並んで重ならない。** -/
theorem Visits.inLine {position : Nat} (h : Visits sc c position st own) :
    InLine own (c.offset + position) := by
  induction h with
  | enter => exact ⟨.nil, nofun, nofun⟩
  | step _ _ _ ih => exact ih.mono (by omega)
  | skip _ hlt ht ih =>
    have hnext := (afterSkip_bounds hlt ht).1
    exact ih.mono (by omega)
  | win _ _ ht _ ih => exact ih.win ht

theorem Wins.inLine (h : Wins sc c own rule found st) :
    InLine (own ++ [c.frame.range rule found]) (c.offset + found.stop) := by
  obtain ⟨hvisit, -, ht⟩ := h
  exact hvisit.inLine.win ht

/-! ## 枠の走査の後 -/

/-- 枠の走査は、辿り着いた位置から続いている。 -/
theorem Visits.resumes {position : Nat} (h : Visits sc c position st own) :
    ∃ fuel last, c.text.length ≤ position + fuel ∧
      c.after sc = (sc.loop c.frame (sc.rescan c.ctx c.offset) fuel position last st).2 := by
  induction h with
  | enter hvalid =>
    refine ⟨c.text.length, 0, by omega, ?_⟩
    unfold Call.after
    rw [scanAt_eq, hvalid]
    rfl
  | step _ hlt ht ih =>
    obtain ⟨fuel, last, hfuel, hafter⟩ := ih
    obtain ⟨n, rfl⟩ := Nat.exists_eq_succ_of_ne_zero (by omega : fuel ≠ 0)
    refine ⟨n, last, by omega, hafter.trans ?_⟩
    rw [loop_succ sc c.frame _ hlt, ht]
  | @skip position st st' own range _ hlt ht ih =>
    obtain ⟨fuel, last, hfuel, hafter⟩ := ih
    obtain ⟨n, rfl⟩ := Nat.exists_eq_succ_of_ne_zero (by omega : fuel ≠ 0)
    have hnext := (afterSkip_bounds hlt ht).1
    refine ⟨n, c.frame.afterSkip range, by omega, hafter.trans ?_⟩
    rw [loop_succ sc c.frame _ hlt, ht]
    dsimp only
    split <;> next heq => rw [heq]
  | @win position st st₁ st₂ own rule found produced _ hlt ht hp ih =>
    obtain ⟨fuel, last, hfuel, hafter⟩ := ih
    obtain ⟨n, rfl⟩ := Nat.exists_eq_succ_of_ne_zero (by omega : fuel ≠ 0)
    obtain ⟨-, hstop, -⟩ :=
      Rule.matchAt_bounds (mem_of_winner? (turn_win ht).2).2
    refine ⟨n, found.stop, by omega, hafter.trans ?_⟩
    rw [loop_succ sc c.frame _ hlt, ht]
    dsimp only
    rw [hp]
    dsimp only
    split <;> next heq => rw [heq]

/-- 節を返しても失敗しても、区間は後ろに伸びるだけである。 -/
theorem prefix_of_growth {α : Type} {st : ScanState τ} {result : Result τ α}
    (h : (growth τ).Holds st result) : st.ranges <+: result.2.ranges := by
  obtain ⟨e | a, st'⟩ := result <;> exact h

/-- 勝った規則の段が終えた状態の区間は、枠の走査の後にも残る。 -/
theorem Wins.transform_prefix (h : Wins sc c own rule found st) :
    (transform c.frame (sc.rescan c.ctx c.offset) rule found st).2.ranges
      <+: (c.after sc).ranges := by
  obtain ⟨hvisit, hlt, ht⟩ := h
  obtain ⟨fuel, last, hfuel, hafter⟩ := hvisit.resumes
  obtain ⟨n, rfl⟩ := Nat.exists_eq_succ_of_ne_zero (by omega : fuel ≠ 0)
  rw [hafter, loop_succ sc c.frame _ hlt, ht]
  dsimp only
  cases transform c.frame (sc.rescan c.ctx c.offset) rule found st with
  | mk result st₂ =>
    cases result with
    | error e => exact List.prefix_rfl
    | ok produced =>
      have hrest : st₂.ranges
          <+: (sc.loop c.frame (sc.rescan c.ctx c.offset) n found.stop found.stop st₂).2.ranges :=
        prefix_of_growth ((growthLaws sc).loop ((growthLaws sc).rescan c.ctx c.offset) _ _ _ _)
      dsimp only
      split <;> next heq =>
        rw [heq] at hrest
        exact hrest

/-- 枠を使えたとき、段の終えた状態が、勝った規則の終えた状態である。 -/
theorem transform_of_charge {frame : Frame}
    {rescan : String → Rescan (ScanState τ) ScanError} {before : ScanState τ}
    (h : (st.record (frame.range rule found) (frame.win rule found)).charge rule.name
      = .ok before) :
    transform frame rescan rule found st
      = rule.process frame.text found (some (rescan rule.name)) .transform before := by
  unfold transform
  dsimp only
  rw [h]

/-- 勝った規則の区間は、それまでの区間の後ろに書き足される。 -/
theorem Wins.range_prefix (h : Wins sc c own rule found st) :
    st.ranges ++ [c.frame.range rule found] <+: (c.after sc).ranges := by
  refine List.IsPrefix.trans ?_ h.transform_prefix
  cases hcharge :
      (st.record (c.frame.range rule found) (c.frame.win rule found)).charge rule.name with
  | error e =>
    unfold transform
    dsimp only
    rw [hcharge]
    exact List.prefix_rfl
  | ok before =>
    have hranges : before.ranges = st.ranges ++ [c.frame.range rule found] := charge_ranges hcharge
    rw [transform_of_charge hcharge, ← hranges]
    refine prefix_of_growth (Law.applySteps (growth τ) (fun _ _ => List.prefix_rfl) ?_ before)
    intro segment start _ s
    exact (growthLaws sc).rescan c.ctx c.offset rule.name segment start s

/-- 枠自身が記録した区間は、その順に、状態の区間の中にある。 -/
theorem Visits.sublist {position : Nat} (h : Visits sc c position st own) :
    own.Sublist st.ranges := by
  induction h with
  | enter => exact List.nil_sublist _
  | step _ _ ht ih => rwa [ranges_of_turn ht]
  | skip _ _ ht ih => rwa [ranges_of_turn ht]
  | win h hlt ht hp ih =>
    obtain ⟨nested, hranges, -⟩ := transform_added hp
    rw [hranges, ranges_of_turn ht]
    exact ih.append ((List.nil_sublist nested).cons_cons _)

theorem Wins.sublist (h : Wins sc c own rule found st) :
    (own ++ [c.frame.range rule found]).Sublist (c.after sc).ranges := by
  refine List.Sublist.trans ?_ h.range_prefix.sublist
  obtain ⟨hvisit, -, ht⟩ := h
  rw [ranges_of_turn ht]
  exact hvisit.sublist.append_right _

/-! ## 内側の枠 -/

/-- 求めた走査の後の区間は、並びの実行の後にも残る。 -/
theorem prefix_of_asks {m : Matched} {f : Rescan (ScanState τ) ScanError}
    (hf : ∀ segment start s, (growth τ).Holds s (f segment start s)) {steps : List Step}
    {v : Value} {s s' : ScanState τ} {segment : Text} {start : Nat}
    (h : Asks m f steps v s segment start s') (patternName : Option String) (index : Nat) :
    (f segment start s').2.ranges
      <+: (runSteps m patternName (some f) .transform steps index v s).2.ranges := by
  have hrest : ∀ steps index v s, s.ranges
      <+: (runSteps m patternName (some f) .transform steps index v s).2.ranges := by
    intro steps index v s
    exact prefix_of_growth ((growth τ).runSteps patternName (fun _ _ => List.prefix_rfl) steps
      (fun segment start _ s => hf segment start s) index v s)
  induction h generalizing index with
  | here heval =>
    rw [runSteps]
    simp only [Option.isSome_some, heval, rescanWith]
    split
    · next heq => simp only [heq, List.prefix_rfl]
    · next heq =>
      rw [heq]
      exact hrest _ _ _ _
  | value heval _ ih =>
    rw [runSteps]
    simp only [Option.isSome_some, heval]
    exact ih (index + 1)
  | answered heval hcall _ ih =>
    rw [runSteps]
    simp only [Option.isSome_some, heval, rescanWith, hcall]
    exact ih (index + 1)

/-- 内側の枠の走査の後の区間は、外側の枠の走査の後にも残る。 -/
theorem Calls.after_prefix (h : Calls sc c c') : (c'.after sc).ranges <+: (c.after sc).ranges := by
  obtain ⟨hw, hc, ha⟩ := h
  refine List.IsPrefix.trans ?_ hw.transform_prefix
  rw [transform_of_charge hc, Rule.process, applySteps_state]
  exact prefix_of_asks ((growthLaws sc).rescan c.ctx c.offset _) ha _ 0

/-- 内側の枠は、勝った規則の走査を求める段の、組の文字列を、その位置から走査する。 -/
theorem Calls.segment (h : Calls sc c c') : ∃ own rule found st group a b,
    Wins sc c own rule found st ∧ Step.processGroup group ∈ rule.definition.steps ∧
      found.span? group = some (a, b) ∧ a ≤ b ∧ b ≤ c.text.length ∧
      c'.text = Text.slice c.text a b ∧ c'.offset = c.offset + a := by
  obtain ⟨hw, hc, ha⟩ := h
  obtain ⟨group, stop, hmem, hspan, hslice⟩ := ha.reprocesses
  have hmatch := (Rule.pattern_matchAt hw.matches.2.1).1
  refine ⟨_, _, _, _, group, _, stop, hw, hmem, hspan, ?_, ?_, hslice, rfl⟩
  · exact Regex.Match.span?_le_of_matchAt hmatch hspan
  · simpa using Regex.Match.span?_le_size hmatch hspan

/-- 内側の枠の文字列は、外側の枠の文字列の、その位置から始まる切れ端である。 -/
theorem Calls.slice (h : Calls sc c c') : ∃ a : Nat, c'.offset = c.offset + a ∧
    a + c'.text.length ≤ c.text.length ∧ c'.text = Text.slice c.text a (a + c'.text.length) := by
  obtain ⟨_, _, _, _, _, a, b, -, -, -, hab, hb, htext, hoffset⟩ := h.segment
  have hlength : c'.text.length = b - a := by
    rw [htext, Text.slice_length, Nat.min_eq_left hb]
  refine ⟨a, hoffset, by omega, ?_⟩
  rw [hlength, show a + (b - a) = b by omega]
  exact htext

end Frame

/-! ## 外側の枠の文字列での位置 -/

section Located

variable {c d top : Call τ}

/-- 枠の文字列は、枠 `top` の文字列の、枠の位置から始まる切れ端である。 -/
def Call.LiesIn (c top : Call τ) : Prop :=
  ∃ n : Nat, c.offset = top.offset + n ∧ n + c.text.length ≤ top.text.length ∧
    c.text = Text.slice top.text n (n + c.text.length)

theorem Call.liesIn_self (c : Call τ) : c.LiesIn c :=
  ⟨0, by omega, by omega, by simp [Text.slice]⟩

theorem Calls.liesIn (h : Calls sc c d) (hc : c.LiesIn top) : d.LiesIn top := by
  obtain ⟨n, hoffset, hle, hslice⟩ := hc
  obtain ⟨a, hoffset', hle', hslice'⟩ := h.slice
  refine ⟨n + a, by omega, by omega, ?_⟩
  calc d.text = Text.slice c.text a (a + d.text.length) := hslice'
    _ = Text.slice (Text.slice top.text n (n + c.text.length)) a (a + d.text.length) := by
      rw [← hslice]
    _ = Text.slice top.text (n + a) (n + a + d.text.length) := by
      rw [Text.slice_slice top.text hle', Nat.add_assoc]

/-- **どれだけ深い枠の文字列も、外側の枠の文字列の切れ端である。** -/
theorem Enters.liesIn (h : Enters sc top c) : c.LiesIn top := by
  induction h with
  | refl => exact top.liesIn_self
  | tail _ hcall ih => exact hcall.liesIn ih

/-- 深い枠で規則が読んだ文字列は、外側の枠の文字列の、区間の切れ端である。 -/
theorem Call.LiesIn.range (h : c.LiesIn top) {rule : Rule} {found : Regex.Match}
    (hlt : found.start < found.stop) (hle : found.stop ≤ c.text.length) :
    ∃ s e : Nat, c.frame.range rule found = ⟨top.offset + s, top.offset + e, rule.name⟩ ∧ s < e ∧
      e ≤ top.text.length ∧
      Text.slice top.text s e = Text.slice c.text found.start found.stop := by
  obtain ⟨n, hoffset, hfits, hslice⟩ := h
  refine ⟨n + found.start, n + found.stop, ?_, by omega, by omega, ?_⟩
  · unfold Frame.range
    rw [show c.frame.offset = c.offset from rfl, hoffset]
    push_cast
    rw [Int.add_assoc, Int.add_assoc]
  · rw [← Text.slice_slice top.text hle, ← hslice]

/-- 区間は、枠 `c` から入った枠のどれかで、規則が勝って記録した。 -/
def Recorded (sc : Scanner τ) (c : Call τ) (range : ProcessedRange) : Prop :=
  ∃ d own rule found st, Enters sc c d ∧ Wins sc d own rule found st ∧
    range = d.frame.range rule found

theorem Recorded.of_calls {range : ProcessedRange} (hcall : Calls sc c d)
    (h : Recorded sc d range) : Recorded sc c range := by
  obtain ⟨d', own, rule, found, st, henter, hrest⟩ := h
  exact ⟨d', own, rule, found, st, .head hcall henter, hrest⟩

/-- 枠の走査が書き足した区間は、どれも、入ったどこかの枠で記録された。 -/
def Call.Accounts (sc : Scanner τ) (c : Call τ) (st : ScanState τ) : Prop :=
  (adding τ (Recorded sc c)).ok c.state st

/-- 区間が変わらなければ、書き足した区間も変わらない。 -/
theorem Call.Accounts.congr {st st' : ScanState τ} (h : c.Accounts sc st)
    (heq : st'.ranges = st.ranges) : c.Accounts sc st' := by
  obtain ⟨added, hranges, hadded⟩ := h
  exact ⟨added, heq.trans hranges, hadded⟩

/-- 勝った規則の区間は、枠自身が記録する。 -/
theorem Call.Accounts.win {own : List ProcessedRange} {rule : Rule} {found : Regex.Match}
    {st : ScanState τ} (hst : c.Accounts sc st) (h : Wins sc c own rule found st) :
    c.Accounts sc (st.record (c.frame.range rule found) (c.frame.win rule found)) := by
  refine (adding τ (Recorded sc c)).trans hst ⟨[c.frame.range rule found], rfl, ?_⟩
  intro range hr
  exact ⟨c, own, rule, found, st, .refl, h, List.mem_singleton.mp hr⟩

/-- 内側の枠で書き足した区間は、入った枠で記録される。 -/
theorem Call.Accounts.call (hd : d.Accounts sc (d.after sc)) (hcall : Calls sc c d)
    (hst : c.Accounts sc d.state) : c.Accounts sc (d.after sc) := by
  obtain ⟨added, hranges, hadded⟩ := hd
  exact (adding τ (Recorded sc c)).trans hst
    ⟨added, hranges, fun range hr => (hadded range hr).of_calls hcall⟩

/-- 勝った規則の段が書き足す区間も、どこかの枠で記録される。 -/
theorem Wins.accounts {own : List ProcessedRange} {rule : Rule} {found : Regex.Match}
    {st : ScanState τ} (hinner : ∀ d : Call τ, d.ctx = c.ctx.child rule.name →
      d.Accounts sc (d.after sc)) (h : Wins sc c own rule found st) (hst : c.Accounts sc st) :
    c.Accounts sc (transform c.frame (sc.rescan c.ctx c.offset) rule found st).2 := by
  have hwon := hst.win h
  cases hcharge :
      (st.record (c.frame.range rule found) (c.frame.win rule found)).charge rule.name with
  | error e =>
    unfold transform
    dsimp only
    rw [hcharge]
    exact hwon
  | ok before =>
    rw [transform_of_charge hcharge, Rule.process, applySteps_state]
    refine runSteps_keeps rule.definition.steps 0 _ before (hwon.congr (charge_ranges hcharge)) ?_
    intro segment start asked hasks hasked
    exact (hinner ⟨_, segment, c.offset + start, asked⟩ rfl).call ⟨h, hcharge, hasks⟩ hasked

/-- 辿り着いた位置から先でも、区間はどこかの枠で記録される。 -/
theorem Visits.accounts (hinner : ∀ (d : Call τ) name, d.ctx = c.ctx.child name →
    d.Accounts sc (d.after sc)) (fuel : Nat) :
    ∀ (last : Nat) {position : Nat} {st : ScanState τ} {own : List ProcessedRange},
      Visits sc c position st own → c.Accounts sc st →
      c.Accounts sc (sc.loop c.frame (sc.rescan c.ctx c.offset) fuel position last st).2 := by
  induction fuel with
  | zero => exact fun _ _ _ _ _ hst => hst
  | succ fuel ih =>
    intro last position st own hvisit hst
    by_cases hlt : position < c.text.length
    · rw [loop_succ sc c.frame _ hlt]
      cases hturn : sc.turn c.frame position st with
      | mk t st₁ =>
        have hst₁ := hst.congr (ranges_of_turn hturn)
        cases t with
        | stop e => exact hst₁
        | skip range =>
          have hrest := ih (c.frame.afterSkip range) (hvisit.skip hlt hturn) hst₁
          dsimp only
          split <;> next heq => rw [heq] at hrest; exact hrest
        | step => exact ih last (hvisit.step hlt hturn) hst₁
        | win rule found =>
          have hwon := Wins.accounts (fun d hd => hinner d _ hd) ⟨hvisit, hlt, hturn⟩ hst₁
          dsimp only
          split
          · next heq => rw [heq] at hwon; exact hwon
          · next heq =>
            rw [heq] at hwon
            have hrest := ih found.stop (hvisit.win hlt hturn heq) hwon
            split <;> next heq' => rw [heq'] at hrest; exact hrest
    · rw [loop_done sc c.frame _ (Nat.not_lt.mp hlt)]
      exact hst

/-- **書き足された区間は、どれも、入ったどこかの枠で規則が勝って記録した。** -/
theorem Call.accounts_after (sc : Scanner τ) (c : Call τ) : c.Accounts sc (c.after sc) := by
  refine scanAt_induction sc (motive := fun ctx => ∀ c : Call τ, c.ctx = ctx →
    c.Accounts sc (c.after sc)) ?_ c.ctx c rfl
  rintro _ ih c rfl
  have hself : c.Accounts sc c.state := (adding τ (Recorded sc c)).refl c.state
  unfold Call.after
  rw [scanAt_eq]
  cases hvalid : sc.validate c.ctx c.state with
  | mk e st =>
    have hst := hself.congr (ranges_of_validate hvalid)
    cases e with
    | some e => exact hst
    | none =>
      have hdepth := depth_le_of_validate hvalid
      exact Visits.accounts (fun d name hd => ih hdepth name d hd) _ _ (.enter hvalid) hst

end Located

/-! ## 走査の全体 -/

/-- 一番外側の枠。 -/
def Call.top (ctx : Context) (text : Text) (st : ScanState τ) : Call τ := ⟨ctx, text, 0, st⟩

/-- 枠の位置と区間が、一番外側の枠 `top` の文字列での位置になっている。 -/
structure Located (sc : Scanner τ) (top : Call τ) : Prop where
  /-- 枠の文字列は、枠の位置から始まる切れ端である。 -/
  text : ∀ c, Enters sc top c → ∃ n : Nat, c.offset = n ∧
    n + c.text.length ≤ top.text.length ∧ c.text = Text.slice top.text n (n + c.text.length)
  /-- 記録された区間は空でなく、文字列の中にあり、規則がその枠で読んだ文字列を指す。 -/
  ranges : ∀ range ∈ (top.after sc).ranges, ∃ c own rule found st,
    Enters sc top c ∧ Wins sc c own rule found st ∧
      rule.matchAt c.text.toArray found.start = some found ∧
      ∃ s e : Nat, range = ⟨s, e, rule.name⟩ ∧ s < e ∧ e ≤ top.text.length ∧
        Text.slice top.text s e = Text.slice c.text found.start found.stop
  /-- 枠自身が記録した区間は、その順に記録に現れ、左から順に並んで重ならない。 -/
  own : ∀ c own rule found st, Enters sc top c → Wins sc c own rule found st →
    (own ++ [c.frame.range rule found]).Sublist (top.after sc).ranges ∧
      (∀ a ∈ own ++ [c.frame.range rule found], a.start < a.stop) ∧
      (own ++ [c.frame.range rule found]).Pairwise fun a b => a.stop ≤ b.start
  /-- 組の走査で記録した区間は、組の読んだ区間の中にある。 -/
  groups : ∀ c d, Enters sc top c → Calls sc c d → ∃ own rule found st group a b,
    Wins sc c own rule found st ∧ Step.processGroup group ∈ rule.definition.steps ∧
      found.span? group = some (a, b) ∧ d.text = Text.slice c.text a b ∧ d.offset = c.offset + a ∧
      ∃ added, (d.after sc).ranges = d.state.ranges ++ added ∧
        (d.after sc).ranges <+: (top.after sc).ranges ∧
        ∀ range ∈ added, c.offset + a ≤ range.start ∧ range.stop ≤ c.offset + b

/-- 入った枠の走査の後の区間は、一番外側の枠の走査の後にも残る。 -/
theorem Enters.after_prefix {top c : Call τ} (h : Enters sc top c) :
    (c.after sc).ranges <+: (top.after sc).ranges := by
  induction h with
  | refl => exact List.prefix_rfl
  | tail _ hcall ih => exact hcall.after_prefix.trans ih

/--
**記録のない文脈から始めた走査では、節を返しても失敗しても、どの枠の位置も区間も、一番外側の文字列での位置になっている。**
-/
theorem scan_located (sc : Scanner τ) (ctx : Context) (text : Text) {st : ScanState τ}
    (hst : st.ranges = []) : Located sc (.top ctx text st) where
  text c henter := by
    obtain ⟨n, hoffset, hrest⟩ := henter.liesIn
    exact ⟨n, by rw [hoffset]; exact Int.zero_add _, hrest⟩
  ranges range hr := by
    obtain ⟨added, hranges, hadded⟩ := Call.accounts_after sc (.top ctx text st)
    rw [hranges, show (Call.top ctx text st).state.ranges = [] from hst, List.nil_append] at hr
    obtain ⟨c, own, rule, found, st', henter, hwin, rfl⟩ := hadded range hr
    obtain ⟨-, hmatch, hlt, hle⟩ := hwin.matches
    obtain ⟨s, e, hrange, hrest⟩ := henter.liesIn.range hlt hle
    refine ⟨c, own, rule, found, st', henter, hwin, hmatch, s, e, ?_, hrest⟩
    rw [hrange]
    simp [Call.top]
  own c own rule found st' henter hwin :=
    ⟨hwin.sublist.trans henter.after_prefix.sublist, hwin.inLine.nonempty, hwin.inLine.apart⟩
  groups c d henter hcall := by
    obtain ⟨own, rule, found, st', group, a, b, hwin, hmem, hspan, hab, hb, htext, hoffset⟩ :=
      hcall.segment
    obtain ⟨added, hranges, hadded⟩ := Call.accounts_after sc d
    refine ⟨own, rule, found, st', group, a, b, hwin, hmem, hspan, htext, hoffset, added, hranges,
      hcall.after_prefix.trans henter.after_prefix, fun range hr => ?_⟩
    obtain ⟨d', own', rule', found', st'', henter', hwin', rfl⟩ := hadded range hr
    obtain ⟨-, -, hlt, hle⟩ := hwin'.matches
    obtain ⟨s, e, hrange, hse, he, -⟩ := henter'.liesIn.range hlt hle
    have hlength : d.text.length = b - a := by
      rw [htext, Text.slice_length, Nat.min_eq_left hb]
    rw [hrange, hoffset]
    constructor
    · show c.offset + a ≤ c.offset + a + s
      omega
    · show c.offset + a + e ≤ c.offset + b
      omega

/-- 印と引用符の中の数は、一番外側の文字列での位置で記録される。 -/
theorem scan_located_nested :
    freshState.ranges = [] ∧
      Located bundledScanner (.top { startTime := .int 0 } nestedText freshState) ∧
      ((Call.top { startTime := .int 0 } nestedText freshState).after bundledScanner).ranges
        = [⟨0, 8, "emphasis-markers"⟩, ⟨3, 5, "chapter-number"⟩, ⟨9, 12, "ascii-quotes"⟩,
          ⟨10, 11, "tcy-digits"⟩] := by
  refine ⟨rfl, scan_located bundledScanner _ nestedText rfl, ?_⟩
  rw [bundledScanner_eq]
  decide +kernel

end Scanner

end Tategaki
