import Tategaki.Proofs.Step.Cause
import Tategaki.Step.Check

/-!
# 段の検めと実行の一致

設定から読んだ段の並びについて、検め（`Step.checkAll`）と実行（`applySteps`）は食い違わない。

* 検めを通れば、実行は節を返すか、検めでは分からない理由（`Excused`）か、縦中横にする文字列が空で
  あることによって失敗する。値の種類や、式にない組のために失敗することはない。
* 検めが `i` 番目の段を断れば、実行は遅くとも `i` 番目の段で失敗する。

どちらも、段の間を流れる値の種類が、検めの追うとおりに変わること（`Step.eval_value`）による。
並びについての帰納法で、種類を合わせながら検めと実行を一段ずつ進める。
-/

namespace Tategaki

/-! ## 一段の検めと実行 -/

/-- 検めの誤りが指す段の番号。 -/
def CheckError.index? : CheckError → Option Nat
  | notStep _ => none
  | wrongKind index .. => some index
  | missingGroup index .. => some index

namespace Step

theorem groups_le_of_check {groupCount index : Nat} {kind : ValueKind} {s : Step}
    (h : s.check groupCount index kind = none) : ∀ group ∈ s.groupsUsed, group ≤ groupCount := by
  unfold check at h
  split at h
  · cases h
  · intro group hg
    have := List.find?_eq_none.mp (Option.map_eq_none_iff.mp h) group hg
    exact Nat.not_lt.mp (by simpa using this)

/-- 検めを通った並びの先頭の段は、式にある組だけを指す。 -/
theorem groups_le_of_checkFrom {groupCount index : Nat} {kind : ValueKind} {s : Step}
    {rest : List Step} (h : checkFrom groupCount index kind (s :: rest) = none) :
    ∀ group ∈ s.groupsUsed, group ≤ groupCount := by
  rw [checkFrom] at h
  split at h
  · cases h
  · next hs => exact groups_le_of_check hs

theorem accepts_of_check {groupCount index : Nat} {kind : ValueKind} {s : Step}
    (h : s.check groupCount index kind = none) : s.accepts kind = true := by
  unfold check at h
  split at h
  · cases h
  · next ha => simpa using ha

/-- 断られた段は、断られた番号で、受け取れない値か、式にない組を扱う。 -/
theorem cause_of_check {groupCount index : Nat} {kind : ValueKind} {s : Step} {error : CheckError}
    (h : s.check groupCount index kind = some error) :
    error.index? = some index ∧
      (s.accepts kind = false ∨ ∃ group ∈ s.groupsUsed, groupCount < group) := by
  unfold check at h
  split at h
  · next ha =>
    cases h
    exact ⟨rfl, .inl (by simpa using ha)⟩
  · obtain ⟨group, hf, rfl⟩ := Option.map_eq_some_iff.mp h
    have hlt := List.find?_some hf
    exact ⟨rfl, .inr ⟨group, List.mem_of_find?_eq_some hf, by simpa using hlt⟩⟩

theorem groupText_missing {m : Matched} {number : Nat} (h : m.groupCount < number) :
    groupText m number = .error .missingGroup := by
  unfold groupText
  rw [if_pos h]

theorem convertGroupTexts_missing {m : Matched} {rules : List GroupRule} {r : GroupRule}
    (hr : r ∈ rules) (h : m.groupCount < r.group) :
    ∃ reason, convertGroupTexts m rules = .error reason := by
  unfold convertGroupTexts
  exact mapM_error_of_mem hr (by rw [groupText_missing h])

/-- **検めが断った段は、どの合い方でも失敗する。** -/
theorem eval_error_of_check {m : Matched} (canRescan : Bool) {index : Nat} {s : Step}
    {v : Value} {error : CheckError} (h : s.check m.groupCount index v.kind = some error) :
    ∃ reason, s.eval m canRescan v = .error reason := by
  obtain ⟨-, hcause⟩ := cause_of_check h
  by_cases ha : s.accepts v.kind = true
  · -- 値は受け取れるので、断られたのは組のためである。組を指す段は二つしかない
    obtain ⟨group, hg, hlt⟩ := hcause.resolve_left (by simp [ha])
    cases s with
    | convertGroups rules =>
      obtain ⟨r, hr, rfl⟩ := List.mem_map.mp hg
      obtain ⟨reason, hreason⟩ := convertGroupTexts_missing hr hlt
      refine ⟨reason, ?_⟩
      unfold eval
      rw [if_neg (by simp [ha])]
      dsimp only
      rw [hreason]
      rfl
    | processGroup number =>
      obtain rfl := List.mem_singleton.mp hg
      unfold eval
      rw [if_neg (by simp [ha])]
      dsimp only
      split
      · exact ⟨_, rfl⟩
      · rw [groupText_missing hlt]
        exact ⟨_, rfl⟩
    | _ => cases hg
  · exact ⟨_, eval_not_accepts (by simpa using ha)⟩

/-- 並びの検めが断る番号は、始めの番号より前ではない。 -/
theorem index_of_checkFrom {groupCount : Nat} {error : CheckError} :
    ∀ {steps : List Step} {index : Nat} {kind : ValueKind},
      checkFrom groupCount index kind steps = some error →
        ∃ i, error.index? = some i ∧ index ≤ i
  | [], _, _, h => by cases h
  | s :: rest, index, kind, h => by
    rw [checkFrom] at h
    split at h
    · next hs =>
      cases h
      exact ⟨index, (cause_of_check hs).1, Nat.le_refl _⟩
    · obtain ⟨i, hi, hle⟩ := index_of_checkFrom h
      exact ⟨i, hi, by omega⟩

end Step

/-! ## 並びの検めと実行 -/

section

variable {σ ε : Type}

/-- 走査するものは、求めにいつも節を返す。 -/
def Answers (rescan : Option (Rescan σ ε)) : Prop :=
  ∀ f, rescan = some f → ∀ segment start state, ∃ nodes state',
    f segment start state = (.ok nodes, state')

theorem Answers.rescanWith {rescan : Option (Rescan σ ε)} (h : Answers rescan) (segment : Text)
    (start : Nat) (state : σ) :
    ∃ nodes state', Tategaki.rescanWith rescan segment start state = (.ok nodes, state') := by
  cases rescan with
  | none => exact ⟨[], state, rfl⟩
  | some f => exact h f rfl segment start state

variable {rescan : Option (Rescan σ ε)} (m : Matched) (patternName : Option String)
  (report : TransformError → ε)

/-- 求めに節が返るなら、一段の後は、渡すはずの種類の値で残りの段が動く。 -/
theorem runSteps_cons (hanswers : Answers rescan) (s : Step) (rest : List Step) (index : Nat)
    (v : Value) (state : σ) :
    (∃ reason, s.eval m rescan.isSome v = .error reason ∧
        runSteps m patternName rescan report (s :: rest) index v state
          = (.error (report ⟨reason, patternName, some (index, s.action)⟩), state)) ∨
      ∃ w state', w.kind = s.outputKind v.kind ∧
        runSteps m patternName rescan report (s :: rest) index v state
          = runSteps m patternName rescan report rest (index + 1) w state' := by
  rw [runSteps]
  cases heval : s.eval m rescan.isSome v with
  | error reason => exact .inl ⟨reason, rfl, rfl⟩
  | ok outcome =>
    right
    cases outcome with
    | value w => exact ⟨w, state, (Step.eval_value heval).2, rfl⟩
    | rescan segment start =>
      obtain ⟨nodes, state', hnodes⟩ := hanswers.rescanWith segment start state
      obtain ⟨group, -, rfl, -⟩ := Step.eval_rescan heval
      exact ⟨.nodes nodes, state', rfl, by dsimp only; rw [hnodes]⟩

/-- 検めを通った並びは、最後まで動くか、どれかの段が検めでは分からない理由で失敗する。 -/
theorem runSteps_of_checkFrom_none (hanswers : Answers rescan) :
    ∀ {steps : List Step} {index : Nat} {v : Value} (state : σ),
      (∀ s ∈ steps, s.UsesKnownNames) →
      Step.checkFrom m.groupCount index v.kind steps = none →
      (∃ w state', runSteps m patternName rescan report steps index v state = (.ok w, state')) ∨
        ∃ k s reason state', steps[k]? = some s ∧ Excused m rescan.isSome s reason ∧
          runSteps m patternName rescan report steps index v state
            = (.error (report ⟨reason, patternName, some (index + k, s.action)⟩), state')
  | [], index, v, state, _, _ => .inl ⟨v, state, rfl⟩
  | s :: rest, index, v, state, hknown, hcheck => by
    rw [Step.checkFrom] at hcheck
    split at hcheck
    · cases hcheck
    · next hs =>
      rcases runSteps_cons m patternName report hanswers s rest index v state with
        ⟨reason, heval, hrun⟩ | ⟨w, state', hkind, hrun⟩
      · have hexcused := excused_of_eval_error (hknown s List.mem_cons_self)
          (Step.accepts_of_check hs) (Step.groups_le_of_check hs) heval
        exact .inr ⟨0, s, reason, state, rfl, hexcused, hrun⟩
      · rw [hrun]
        rcases runSteps_of_checkFrom_none hanswers state'
          (fun x hx => hknown x (List.mem_cons_of_mem _ hx)) (hkind ▸ hcheck) with
          hok | ⟨k, x, reason, state'', hx, hexcused, hrest⟩
        · exact .inl hok
        · refine .inr ⟨k + 1, x, reason, state'', by simpa using hx, hexcused, ?_⟩
          rw [hrest, Nat.add_right_comm, Nat.add_assoc]

/-- 断られた並びは、断られた段までに失敗する。 -/
theorem runSteps_of_checkFrom_some (hanswers : Answers rescan) {error : CheckError} :
    ∀ {steps : List Step} {index : Nat} {v : Value} (state : σ),
      Step.checkFrom m.groupCount index v.kind steps = some error →
      ∃ i, error.index? = some i ∧ ∃ reason j action state', j ≤ i ∧
        runSteps m patternName rescan report steps index v state
          = (.error (report ⟨reason, patternName, some (j, action)⟩), state')
  | [], _, _, _, hcheck => by cases hcheck
  | s :: rest, index, v, state, hcheck => by
    obtain ⟨i, hi, hle⟩ := Step.index_of_checkFrom hcheck
    rw [Step.checkFrom] at hcheck
    rcases runSteps_cons m patternName report hanswers s rest index v state with
      ⟨reason, heval, hrun⟩ | ⟨w, state', hkind, hrun⟩
    · exact ⟨i, hi, reason, index, s.action, state, hle, hrun⟩
    · split at hcheck
      · next hs =>
        -- 断られた段は値を返さないので、残りへは進まない
        obtain ⟨reason, heval⟩ := Step.eval_error_of_check rescan.isSome hs
        rw [runSteps, heval]
        exact ⟨i, hi, reason, index, s.action, state, hle, rfl⟩
      · rw [hrun]
        exact runSteps_of_checkFrom_some hanswers state' (hkind ▸ hcheck)

/-- 検めを通った段の並びの失敗。`run` は段の並びの結果である。 -/
inductive LateFailure (steps : List Step) (m : Matched) (canRescan : Bool) (output : OutputKind)
    (patternName : Option String) (run : Except ε Value) : TransformError → Prop
  /-- 段が、検めでは分からない理由で失敗した。 -/
  | step {i : Nat} {s : Step} {reason : RunError} (hs : steps[i]? = some s)
      (hr : Excused m canRescan s reason) :
      LateFailure steps m canRescan output patternName run
        ⟨reason, patternName, some (i, s.action)⟩
  /-- 縦中横にする文字列が空である。 -/
  | empty {v : Value} (hv : run = .ok v) (hkind : v.kind ≠ .nodes)
      (htext : (Step.asParts v).flatten = []) (ho : output = .upright) :
      LateFailure steps m canRescan output patternName run ⟨.emptyGrouped, patternName, none⟩

theorem finalize_error {output : OutputKind} {v : Value} {reason : RunError}
    (h : finalize output v = .error reason) :
    reason = .emptyGrouped ∧ output = .upright ∧ v.kind ≠ .nodes ∧
      (Step.asParts v).flatten = [] := by
  unfold finalize at h
  split at h
  · cases h
  · next hnodes =>
    have hkind : v.kind ≠ .nodes := by
      cases v with
      | nodes ns => exact absurd rfl (hnodes ns)
      | _ => simp [Value.kind]
    dsimp only at h
    split at h
    · split at h
      · next hempty =>
        cases h
        exact ⟨rfl, rfl, hkind, List.isEmpty_iff.mp hempty⟩
      · cases h
    · cases h

/--
**段の検めと実行は一致する。**

検めを通った段の並びは、どの合い方でも、節を返すか、検めでは分からない理由で失敗する。断られた
並びは、どの合い方でも、断られた段までに失敗する。
-/
theorem checkAll_agrees_applySteps {steps : List Step}
    (hparsed : ∀ s ∈ steps, ∃ value, Step.parse value = .ok s) (output : OutputKind)
    (hanswers : Answers rescan) (state : σ) :
    (Step.checkAll steps m.groupCount = none →
      (∃ nodes state',
        applySteps steps m output patternName rescan report state = (.ok nodes, state')) ∨
      ∃ e state', applySteps steps m output patternName rescan report state
          = (.error (report e), state') ∧
        LateFailure steps m rescan.isSome output patternName
          (runSteps m patternName rescan report steps 0 (.string m.whole) state).1 e ∧
        ¬ e.reason.IsForeseeable) ∧
    ∀ error, Step.checkAll steps m.groupCount = some error →
      ∃ i, error.index? = some i ∧ ∃ e j action state', j ≤ i ∧ e.step = some (j, action) ∧
        applySteps steps m output patternName rescan report state
          = (.error (report e), state') := by
  refine ⟨fun hcheck => ?_, fun error hcheck => ?_⟩
  · have hknown : ∀ s ∈ steps, s.UsesKnownNames := by
      intro s hs
      obtain ⟨value, hvalue⟩ := hparsed s hs
      exact Step.usesKnownNames_parse hvalue
    rcases runSteps_of_checkFrom_none m patternName report hanswers state hknown
      (v := .string m.whole) hcheck with
      ⟨w, state', hrun⟩ | ⟨k, s, reason, state', hs, hexcused, hrun⟩
    · unfold applySteps
      rw [hrun]
      cases hfinal : finalize output w with
      | ok nodes => exact .inl ⟨nodes, state', by dsimp only; rw [hfinal]⟩
      | error reason =>
        obtain ⟨rfl, rfl, hkind, htext⟩ := finalize_error hfinal
        refine .inr ⟨⟨.emptyGrouped, patternName, none⟩, state', ?_,
          .empty rfl hkind htext rfl, id⟩
        dsimp only
        rw [hfinal]
    · refine .inr ⟨⟨reason, patternName, some (k, s.action)⟩, state', ?_, .step hs hexcused,
        hexcused.not_isForeseeable⟩
      unfold applySteps
      rw [hrun, Nat.zero_add]
  · obtain ⟨i, hi, reason, j, action, state', hle, hrun⟩ :=
      runSteps_of_checkFrom_some m patternName report hanswers state (v := .string m.whole) hcheck
    refine ⟨i, hi, ⟨reason, patternName, some (j, action)⟩, j, action, state', hle, rfl, ?_⟩
    unfold applySteps
    rw [hrun]

end

/-- 二つの数を漢字にして間に「年」を挟み、組を走査する段。 -/
def yearSteps (group : Nat) : List Step :=
  [.splitBy [['-']], .convertEach [.known .toKanji], .join (some "{1}年{2}".toList) [],
    .processGroup group]

/-- `12-34` に合ったところ。組は二つある。 -/
def yearMatch : Matched := ⟨"12-34".toList, ⟨0, 5, [some (0, 2), some (3, 5)]⟩, 2⟩

/-- 求められた回数を数え、文字列をそのまま返す走査。 -/
def echo : Rescan Nat TransformError := fun segment _ count => (.ok [.text segment], count + 1)

theorem parse_yearSteps (group : Nat) (h : 1 ≤ group) :
    ∀ s ∈ yearSteps group, ∃ value, Step.parse value = .ok s := by
  simp only [yearSteps, List.forall_mem_cons, List.not_mem_nil, false_imp_iff, implies_true,
    and_true]
  refine ⟨?_, ?_, ?_, ?_⟩
  · exact ⟨.obj [("action", .str "splitBy"), ("separator", .str "-")], rfl⟩
  · exact ⟨.obj [("action", .str "numeralToKanji")], rfl⟩
  · exact ⟨.obj [("action", .str "join"), ("template", .str "{1}年{2}")], rfl⟩
  · refine ⟨.obj [("action", .str "processGroup"), ("group", .int group)], ?_⟩
    show (do return Step.processGroup (← Step.groupField _)) = _
    rw [show Step.groupField [("action", .str "processGroup"), ("group", .int (group : Int))]
      = .ok group from if_pos (by omega)]
    rfl

theorem answers_echo : Answers (some echo) := by
  intro f hf segment start state
  cases hf
  exact ⟨_, _, rfl⟩

/-- 二番の組を指す並びは検めを通り、三番の組を指す並びは、四番目の段までに失敗する。 -/
theorem checkAll_agrees_applySteps_year :
    (Step.checkAll (yearSteps 2) yearMatch.groupCount = none ∧
      ((∃ nodes state',
        applySteps (yearSteps 2) yearMatch .text none (some echo) id 0 = (.ok nodes, state')) ∨
      ∃ e state', applySteps (yearSteps 2) yearMatch .text none (some echo) id 0
          = (.error e, state') ∧
        LateFailure (yearSteps 2) yearMatch true .text none
          (runSteps yearMatch none (some echo) id (yearSteps 2) 0 (.string yearMatch.whole) 0).1
          e ∧
        ¬ e.reason.IsForeseeable)) ∧
    Step.checkAll (yearSteps 3) yearMatch.groupCount
        = some (.missingGroup 3 "processGroup" 3 2) ∧
      ∃ i, (CheckError.missingGroup 3 "processGroup" 3 2).index? = some i ∧
        ∃ e j action state', j ≤ i ∧ e.step = some (j, action) ∧
          applySteps (yearSteps 3) yearMatch .text none (some echo) id 0
            = (.error (id e), state') :=
  ⟨⟨rfl, (checkAll_agrees_applySteps yearMatch none id (parse_yearSteps 2 (by decide)) .text
      answers_echo 0).1 rfl⟩,
    rfl, (checkAll_agrees_applySteps yearMatch none id (parse_yearSteps 3 (by decide)) .text
      answers_echo 0).2 _ rfl⟩

end Tategaki
