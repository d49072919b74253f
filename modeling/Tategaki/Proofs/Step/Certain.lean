import Tategaki.Proofs.Step.Letters
import Tategaki.Proofs.Step.Check

/-!
# 必ず値を渡す段

段の失敗の理由（`Excused`）がどれも当たらない段は、受け取れる種類の値を渡せば必ず値を渡す
（`Step.eval_of_isSure`）。そのような段だけの並びは、状態を変えずに節を返す（`applySteps_of_isSure`）。縦中横にする
並びは、字幅を変えるだけなら文字列を空にしないので、やはり節を返す（`applySteps_of_isWiden`）。

数字だけの文字列は、桁の上限を越えなければ漢数字にできる（`isNumeral_of_isDecimal`）。組を走査し直して前後に書き
足すだけの並びは、走査が節を返せば節を返す（`applySteps_of_rescan`）。
-/

namespace Tategaki

/-! ## 失敗しない段 -/

/-- 桁の多すぎる番号は、上限より長い雛形にしか書けない。 -/
theorem LongReference.lt_length {lead : Char} {closing template : Text} {count : Nat}
    (h : LongReference lead closing template count) :
    Json.maxIntegerDigits < template.length := by
  obtain ⟨before, digits, after, rfl, -, hlength, hlt⟩ := h
  simp only [List.length_append, List.length_cons]
  omega

namespace Step

/-- どの値でも失敗しない段か。雛形は、桁の多すぎる番号を書けないほど短い。 -/
def isSure : Step → Bool
  | convertWidth (.known _) (.known _) => true
  | join none _ => true
  | join (some template) _ => decide (template.length ≤ Json.maxIntegerDigits)
  | wrap _ _ => true
  | replace _ _ replacement => decide (replacement.length ≤ Json.maxIntegerDigits)
  | splitBy _ => true
  | _ => false

/-- 知られた字幅の変換か。 -/
def isWiden : Step → Bool
  | convertWidth (.known _) (.known _) => true
  | _ => false

/-- 字幅を変える段を通した文字。 -/
def widenChar (c : Char) : Step → Char
  | convertWidth (.known target) (.known direction) => convertChar target direction c
  | _ => c

theorem usesKnownNames_of_isSure {s : Step} (h : s.isSure = true) : s.UsesKnownNames := by
  unfold isSure at h
  split at h
  · exact ⟨trivial, trivial⟩
  all_goals trivial

theorem groupsUsed_of_isSure {s : Step} (h : s.isSure = true) : s.groupsUsed = [] := by
  cases s with
  | convertGroups => cases h
  | processGroup => cases h
  | _ => rfl

/-- 失敗しない段に、失敗の理由は当たらない。 -/
theorem not_excused_of_isSure {m : Matched} {canRescan : Bool} {s : Step} {reason : RunError}
    (h : s.isSure = true) : ¬ Excused m canRescan s reason := by
  intro hexcused
  -- 理由は五つある。雛形の番号のほかは、失敗しない段の種類に合わない
  cases hexcused with
  | @notNumeral s _ _ hs _ _ =>
    cases s with
    | convertEach => cases h
    | convertGroups => cases h
    | _ => exact hs
  | absentGroup hg _ =>
    rw [groupsUsed_of_isSure h] at hg
    cases hg
  | noRescan _ => cases h
  | longDollar hl => exact absurd (of_decide_eq_true h) (Nat.not_le.mpr hl.lt_length)
  | longBrace hl => exact absurd (of_decide_eq_true h) (Nat.not_le.mpr hl.lt_length)

/-- **失敗しない段は、受け取れる種類の値なら、必ず値を渡す。** -/
theorem eval_of_isSure (m : Matched) (canRescan : Bool) {s : Step} {v : Value}
    (h : s.isSure = true) (ha : s.accepts v.kind = true) :
    ∃ w, s.eval m canRescan v = .ok (.value w) ∧ w.kind = s.outputKind v.kind := by
  cases heval : s.eval m canRescan v with
  | error reason =>
    refine absurd (excused_of_eval_error (usesKnownNames_of_isSure h) ha ?_ heval)
      (not_excused_of_isSure h)
    rw [groupsUsed_of_isSure h]
    exact fun group hg => nomatch hg
  | ok outcome =>
    cases outcome with
    | value w => exact ⟨w, rfl, (eval_value heval).2⟩
    | rescan segment start =>
      obtain ⟨group, stop, rfl, -⟩ := eval_rescan heval
      cases h

end Step

section Run

variable {σ ε : Type} (m : Matched) (patternName : Option String) (rescan : Option (Rescan σ ε))
  (report : TransformError → ε)

/-- 失敗しない段だけの並びは、検めを通れば、状態を変えずに最後まで動く。 -/
theorem runSteps_of_isSure (state : σ) : ∀ {steps : List Step} {index : Nat} {v : Value},
    steps.all Step.isSure = true → Step.checkFrom m.groupCount index v.kind steps = none →
    ∃ w, runSteps m patternName rescan report steps index v state = (.ok w, state)
  | [], _, v, _, _ => ⟨v, rfl⟩
  | s :: rest, index, v, hs, hcheck => by
    rw [List.all_cons, Bool.and_eq_true] at hs
    obtain ⟨w, heval, hkind⟩ := Step.eval_of_isSure m rescan.isSome hs.1
      (Step.accepts_of_checkFrom hcheck)
    have hrest := Step.checkFrom_tail hcheck
    rw [← hkind] at hrest
    obtain ⟨w', hrun⟩ := runSteps_of_isSure state hs.2 hrest
    refine ⟨w', ?_⟩
    rw [runSteps, heval]
    exact hrun

/-- 文字列の出力にする並びは、最後まで動けば節を返す。 -/
theorem applySteps_of_runSteps {state state' : σ} {steps : List Step} {w : Value}
    (hrun : runSteps m patternName rescan report steps 0 (.string m.whole) state
      = (.ok w, state')) :
    ∃ nodes, applySteps steps m .text patternName rescan report state = (.ok nodes, state') := by
  unfold applySteps
  rw [hrun]
  cases hfinal : finalize .text w with
  | ok nodes => exact ⟨nodes, by dsimp only; rw [hfinal]⟩
  | error reason => cases (finalize_error hfinal).2.1

/-- 文字列の出力にする並びは、失敗しない段だけなら、節を返す。 -/
theorem applySteps_of_isSure (state : σ) {steps : List Step}
    (hs : steps.all Step.isSure = true) (hcheck : Step.checkAll steps m.groupCount = none) :
    ∃ nodes, applySteps steps m .text patternName rescan report state = (.ok nodes, state) := by
  obtain ⟨w, hrun⟩ := runSteps_of_isSure m patternName rescan report state (v := .string m.whole)
    hs hcheck
  exact applySteps_of_runSteps m patternName rescan report hrun

/-- 字幅を変えるだけの並びは、文字列の一文字ずつを変える。 -/
theorem runSteps_of_isWiden (state : σ) : ∀ {steps : List Step} (index : Nat) (text : Text),
    steps.all Step.isWiden = true →
      runSteps m patternName rescan report steps index (.string text) state
        = (.ok (.string (text.map (steps.foldl Step.widenChar))), state)
  | [], _, text, _ => by
    show _ = (Except.ok (Value.string (text.map id)), state)
    rw [List.map_id]
    rfl
  | s :: rest, index, text, hs => by
    rw [List.all_cons, Bool.and_eq_true] at hs
    obtain ⟨hfirst, hrest⟩ := hs
    unfold Step.isWiden at hfirst
    split at hfirst
    · next target direction =>
      have hrun := runSteps_of_isWiden state (index + 1) (convertWidth target direction text) hrest
      rw [convertWidth, List.map_map] at hrun
      exact hrun
    · cases hfirst

/-- 字幅を変えるだけの並びは、空でない文字列から節を作る。 -/
theorem applySteps_of_isWiden (output : OutputKind) (state : σ) {steps : List Step}
    (hs : steps.all Step.isWiden = true) (hne : m.whole ≠ []) :
    ∃ nodes, applySteps steps m output patternName rescan report state = (.ok nodes, state) := by
  unfold applySteps
  rw [runSteps_of_isWiden m patternName rescan report state 0 m.whole hs]
  cases hfinal : finalize output (.string (m.whole.map (steps.foldl Step.widenChar))) with
  | ok nodes => exact ⟨nodes, by dsimp only; rw [hfinal]⟩
  | error reason =>
    have hempty := (finalize_error hfinal).2.2.2
    exact absurd (by simpa [Step.asParts] using hempty) hne

end Run

/-! ## 漢数字 -/

theorem digitValues_of_isDecimal {text : Text} (h : ∀ c ∈ text, Unicode.isDecimal c = true) :
    ∃ digits, digitValues text = some digits := by
  induction text with
  | nil => exact ⟨[], rfl⟩
  | cons c rest ih =>
    obtain ⟨d, hd⟩ := Option.isSome_iff_exists.mp (h c List.mem_cons_self)
    obtain ⟨digits, hdigits⟩ := ih fun x hx => h x (List.mem_cons_of_mem c hx)
    exact ⟨d :: digits, digitValues_eq_some_iff.mpr (.cons hd (digitValues_eq_some_iff.mp hdigits))⟩

/-- **桁の上限を越えない数字だけの文字列は、整数として読める。** -/
theorem isNumeral_of_isDecimal {text : Text} (hne : text ≠ [])
    (hdigits : ∀ c ∈ text, Unicode.isDecimal c = true)
    (hlength : text.length ≤ Json.maxIntegerDigits) : IsNumeral text := by
  obtain ⟨digits, hd⟩ := digitValues_of_isDecimal hdigits
  have hsame := digitValues_length hd
  refine ⟨digits, ?_, ?_, hsame ▸ hlength⟩
  · rw [Unicode.strip_eq_self fun c hc => Unicode.isBlank_of_isDecimal (hdigits c hc)]
    exact hd
  · rintro rfl
    exact hne (List.length_eq_zero_iff.mp hsame.symm)

/-- 合ったところの全体か、全体を読む組を、漢数字にするだけの段か。 -/
def Step.spells (groups : List Nat) : Step → Bool
  | convertEach rules => rules == [.known .toKanji]
  | convertGroups [rule] => rule.rule == .toKanji && groups.contains rule.group
  | _ => false

/-- 合ったところを漢数字にする段は、漢数字にした文字列を渡すか、それと同じ理由で失敗する。 -/
theorem Step.eval_of_spells {m : Matched} (canRescan : Bool) {groups : List Nat} {s : Step}
    (hs : s.spells groups = true) (hcount : ∀ group ∈ groups, group ≤ m.groupCount)
    (hgroups : ∀ group ∈ groups, m.group? group = some m.whole) :
    s.eval m canRescan (.string m.whole)
      = (applyRule (.known .toKanji) m.whole).map fun out => .value (.string out) := by
  unfold spells at hs
  split at hs
  · rw [beq_iff_eq] at hs
    rw [hs, eval, if_neg (by simp [accepts, Value.kind]), mapStrings, applyRules,
      List.foldlM_cons]
    cases applyRule (.known .toKanji) m.whole with
    | error e => rfl
    | ok out => rfl
  · next rule =>
    rw [Bool.and_eq_true, beq_iff_eq, List.contains_iff_mem] at hs
    have htext : groupText m rule.group = .ok m.whole := by
      rw [groupText, if_neg (Nat.not_lt.mpr (hcount _ hs.2)), hgroups _ hs.2]
    rw [eval, if_neg (by simp [accepts, Value.kind]), convertGroupTexts, List.mapM_cons, htext]
    dsimp only
    rw [hs.1]
    cases applyRule (.known .toKanji) m.whole with
    | error e => rfl
    | ok out =>
      show Except.ok (Outcome.value (.string [out].flatten)) = _
      rw [List.flatten_singleton]
      rfl
  · cases hs

section Run

variable {σ ε : Type} {m : Matched} (patternName : Option String) (report : TransformError → ε)

/-- 合ったところが整数として読めれば、それを漢数字にするだけの並びは節を作る。 -/
theorem applySteps_of_spells (rescan : Option (Rescan σ ε)) (state : σ) {groups : List Nat}
    {s : Step} (hs : s.spells groups = true) (hcount : ∀ group ∈ groups, group ≤ m.groupCount)
    (hgroups : ∀ group ∈ groups, m.group? group = some m.whole) (hn : IsNumeral m.whole) :
    ∃ nodes, applySteps [s] m .text patternName rescan report state = (.ok nodes, state) := by
  obtain ⟨out, hout⟩ := hn.toKanji
  have hrun : runSteps m patternName rescan report [s] 0 (.string m.whole) state
      = (.ok (.string out), state) := by
    rw [runSteps, Step.eval_of_spells rescan.isSome hs hcount hgroups, applyRule, hout]
    rfl
  exact applySteps_of_runSteps m patternName rescan report hrun

/-- 合ったところを漢数字にするだけの並びの節は、漢数字にした文字列である。 -/
theorem contents_of_spells {rescan : Option (Rescan σ ε)} {state state' : σ} {groups : List Nat}
    {s : Step} {output : OutputKind} {nodes : List Node} (hs : s.spells groups = true)
    (hcount : ∀ group ∈ groups, group ≤ m.groupCount)
    (hgroups : ∀ group ∈ groups, m.group? group = some m.whole)
    (h : applySteps [s] m output patternName rescan report state = (.ok nodes, state')) :
    numeralToKanji m.whole = .ok (Node.contents nodes) := by
  unfold applySteps at h
  rw [runSteps, Step.eval_of_spells rescan.isSome hs hcount hgroups, applyRule] at h
  cases hout : numeralToKanji m.whole with
  | error e =>
    rw [hout] at h
    cases h
  | ok out =>
    rw [hout] at h
    cases hfinal : finalize output (.string out) with
    | error reason =>
      simp only [Except.map, runSteps, hfinal] at h
      cases h
    | ok produced =>
      simp only [Except.map, runSteps, hfinal] at h
      cases h
      rw [finalize_contents hfinal, Value.letters]

/-! ## 走査し直す並び -/

/-- 組を走査し直す段は、合った組の文字列を、その始まりの位置から走査するように求める。 -/
theorem Step.eval_processGroup {m : Matched} {group a b : Nat} (hcount : group ≤ m.groupCount)
    (hspan : m.found.span? group = some (a, b)) :
    (processGroup group).eval m true (.string m.whole)
      = .ok (.rescan (Text.slice m.input a b) a) := by
  have htext : groupText m group = .ok (Text.slice m.input a b) := by
    rw [groupText, if_neg (Nat.not_lt.mpr hcount), Matched.group?, hspan]
    rfl
  rw [eval, if_neg (by simp [accepts]), if_neg (by simp), htext, hspan]
  rfl

/-- **組を走査し直して書き足すだけの並びは、走査が節を返せば節を返し、状態は走査の残したものである。** -/
theorem applySteps_of_rescan {f : Rescan σ ε} {group a b : Nat} {rest : List Step}
    (output : OutputKind) {state state' : σ} {ns : List Node} (hw : rest.all Step.isWrap = true)
    (hcount : group ≤ m.groupCount) (hspan : m.found.span? group = some (a, b))
    (hf : f (Text.slice m.input a b) a state = (.ok ns, state')) :
    ∃ nodes, applySteps (.processGroup group :: rest) m output patternName (some f) report state
      = (.ok nodes, state') := by
  obtain ⟨before, after, hrun, -⟩ :=
    @runSteps_wraps σ ε m patternName report (some f) state' rest hw 1 ns
  refine ⟨before ++ ns ++ after, ?_⟩
  unfold applySteps
  rw [runSteps, Option.isSome_some, Step.eval_processGroup hcount hspan]
  dsimp only [rescanWith]
  rw [hf]
  dsimp only
  rw [hrun]
  rfl

/-- 組を走査し直す段から始まる並びは、走査が失敗すれば、同じ失敗で終わる。 -/
theorem applySteps_of_rescan_error {f : Rescan σ ε} {group a b : Nat} {rest : List Step}
    (output : OutputKind) {state state' : σ} {e : ε} (hcount : group ≤ m.groupCount)
    (hspan : m.found.span? group = some (a, b))
    (hf : f (Text.slice m.input a b) a state = (.error e, state')) :
    applySteps (.processGroup group :: rest) m output patternName (some f) report state
      = (.error e, state') := by
  unfold applySteps
  rw [runSteps, Option.isSome_some, Step.eval_processGroup hcount hspan]
  dsimp only [rescanWith]
  rw [hf]

end Run

end Tategaki
