import Tategaki.Proofs.Step.Outcome

/-!
# 段の求める走査

段の並びの結果は、求めた走査への答えだけで決まる（`applySteps_congr`）。走査を求める段が高々一つなら、
走査は並びが始まったときの状態で行われ（`Asks.once`）、状態を持たずに答えを返すだけの走査
（`recite`）に替えても、並びの結果は変わらない（`applySteps_once`）。
-/

namespace Tategaki

variable {σ ε : Type} {m : Matched} {patternName : Option String} {report : TransformError → ε}

/-! ## 答えが同じなら結果も同じ -/

/-- 求めへの答えが同じなら、並びの実行の結果は同じである。 -/
theorem runSteps_congr {f g : Rescan σ ε} : ∀ (steps : List Step),
    (∀ segment start, Reprocesses steps m segment start → f segment start = g segment start) →
    ∀ (index : Nat) (v : Value) (s : σ),
      runSteps m patternName (some f) report steps index v s
        = runSteps m patternName (some g) report steps index v s
  | [], _, _, _, _ => rfl
  | step :: rest, h, index, v, s => by
    have hrest := runSteps_congr (f := f) (g := g) rest fun segment start hr =>
      h segment start hr.of_tail
    rw [runSteps, runSteps]
    cases heval : step.eval m true v with
    | error reason => simp only [Option.isSome_some, heval]
    | ok outcome =>
      cases outcome with
      | value w =>
        simp only [Option.isSome_some, heval]
        exact hrest _ _ _
      | rescan segment start =>
        simp only [Option.isSome_some, heval, rescanWith,
          h segment start (reprocesses_of_eval heval), hrest]

theorem applySteps_congr {f g : Rescan σ ε} {steps : List Step} (output : OutputKind)
    (h : ∀ segment start, Reprocesses steps m segment start → f segment start = g segment start)
    (s : σ) : applySteps steps m output patternName (some f) report s
      = applySteps steps m output patternName (some g) report s := by
  unfold applySteps
  rw [runSteps_congr steps h]

/-! ## 走査を求める段が高々一つの並び -/

/-- 走査を求める段が高々一つである。 -/
def ReprocessesOnce (steps : List Step) : Prop := steps.countP Step.isReprocess ≤ 1

instance : DecidablePred ReprocessesOnce :=
  fun steps => inferInstanceAs (Decidable (steps.countP Step.isReprocess ≤ 1))

theorem ReprocessesOnce.of_tail {s : Step} {rest : List Step}
    (h : ReprocessesOnce (s :: rest)) : ReprocessesOnce rest := by
  unfold ReprocessesOnce at h ⊢
  rw [List.countP_cons] at h
  omega

/-- 求める段が先頭にあれば、残りは走査を求めない。 -/
theorem ReprocessesOnce.not_reprocesses {group : Nat} {rest : List Step}
    (h : ReprocessesOnce (.processGroup group :: rest)) (segment : Text) (start : Nat) :
    ¬ Reprocesses rest m segment start := by
  rintro ⟨other, stop, hmem, -, -⟩
  have hpos : 0 < rest.countP Step.isReprocess := List.countP_pos_iff.mpr ⟨_, hmem, rfl⟩
  unfold ReprocessesOnce at h
  rw [List.countP_cons_of_pos rfl] at h
  omega

/-- 求める段が先頭になければ、求めるのは残りの段である。 -/
theorem Reprocesses.tail {s : Step} {rest : List Step} {segment : Text} {start : Nat}
    (hs : s.isReprocess = false) (h : Reprocesses (s :: rest) m segment start) :
    Reprocesses rest m segment start := by
  obtain ⟨group, stop, hmem, hspan, hslice⟩ := h
  rcases List.mem_cons.mp hmem with rfl | hmem
  · cases hs
  · exact ⟨group, stop, hmem, hspan, hslice⟩

/-- 求める段が先頭にしかなければ、求めは一通りである。 -/
theorem Reprocesses.eq_of_once {group : Nat} {rest : List Step} {segment segment' : Text}
    {start start' : Nat} (honce : ReprocessesOnce (.processGroup group :: rest))
    (h : Reprocesses (.processGroup group :: rest) m segment start)
    (h' : Reprocesses (.processGroup group :: rest) m segment' start') :
    segment = segment' ∧ start = start' := by
  have key : ∀ {a : Text} {p : Nat}, Reprocesses (.processGroup group :: rest) m a p →
      ∃ stop, m.found.span? group = some (p, stop) ∧ a = Text.slice m.input p stop := by
    rintro a p ⟨other, stop, hmem, hspan, hslice⟩
    rcases List.mem_cons.mp hmem with heq | hmem
    · cases heq
      exact ⟨stop, hspan, hslice⟩
    · exact absurd ⟨other, stop, hmem, hspan, hslice⟩ (honce.not_reprocesses a p)
  obtain ⟨stop, hspan, rfl⟩ := key h
  obtain ⟨stop', hspan', rfl⟩ := key h'
  cases hspan.symm.trans hspan'
  exact ⟨rfl, rfl⟩

/-- 状態を変えない法則。 -/
def Law.still (σ ε : Type) : Law σ ε where
  ok a b := a = b
  bad _ _ _ := True
  refl _ := rfl
  trans := Eq.trans
  andThen _ _ := trivial

/-- 走査を求めない並びは、状態を変えない。 -/
theorem runSteps_state {f : Rescan σ ε} {steps : List Step}
    (h : ∀ segment start, ¬ Reprocesses steps m segment start) {index : Nat} {v w : Value}
    {s s' : σ} (hrun : runSteps m patternName (some f) report steps index v s = (.ok w, s')) :
    s' = s := by
  have hlaw : (Law.still σ ε).Holds s
      (runSteps m patternName (some f) report steps index v s) :=
    (Law.still σ ε).runSteps patternName (fun _ _ => trivial) steps
      (fun segment start hr => absurd hr (h segment start)) index v s
  rw [hrun] at hlaw
  exact hlaw.symm

/-- 状態を持たず、いつも同じ節を答える走査。 -/
def recite (answers : Text → List Node) : Rescan Unit TransformError :=
  fun segment _ state => (.ok (answers segment), state)

/-- **走査を求める段が高々一つなら、走査は始めの状態で行われ、答えだけで結果が決まる。** -/
theorem runSteps_once {f : Rescan σ ε} : ∀ {steps : List Step}, ReprocessesOnce steps →
    ∀ {index : Nat} {v w : Value} {s s' : σ},
      runSteps m patternName (some f) report steps index v s = (.ok w, s') →
      ∃ nodes, (∀ segment start, Reprocesses steps m segment start →
          f segment start s = (.ok nodes, s')) ∧
        runSteps m patternName (some (recite fun _ => nodes)) id steps index v () = (.ok w, ())
  | [], _, index, v, w, s, s', hrun => by
    cases hrun
    exact ⟨[], (fun _ _ ⟨_, _, hmem, _⟩ => by cases hmem), rfl⟩
  | step :: rest, honce, index, v, w, s, s', hrun => by
    rw [runSteps] at hrun
    cases heval : step.eval m true v with
    | error reason =>
      simp only [Option.isSome_some, heval] at hrun
      cases hrun
    | ok outcome =>
      cases outcome with
      | value u =>
        simp only [Option.isSome_some, heval] at hrun
        obtain ⟨nodes, hcalls, hpure⟩ := runSteps_once honce.of_tail hrun
        refine ⟨nodes, fun segment start hr => ?_, ?_⟩
        · exact hcalls segment start (hr.tail (Step.eval_value heval).1)
        · rw [runSteps]
          simp only [Option.isSome_some, heval]
          exact hpure
      | rescan segment start =>
        simp only [Option.isSome_some, heval, rescanWith] at hrun
        have hreprocess : Reprocesses (step :: rest) m segment start := reprocesses_of_eval heval
        obtain ⟨group, -, rfl, -⟩ := Step.eval_rescan heval
        have hnone := honce.not_reprocesses (m := m)
        split at hrun
        · cases hrun
        · next ns s₁ hcall =>
          obtain ⟨nodes, -, hpure⟩ := runSteps_once honce.of_tail hrun
          obtain rfl := runSteps_state hnone hrun
          refine ⟨ns, fun segment' start' hr => ?_, ?_⟩
          · obtain ⟨rfl, rfl⟩ := hr.eq_of_once honce hreprocess
            exact hcall
          · -- 残りは走査を求めないので、答えを替えても変わらない
            rw [runSteps]
            simp only [Option.isSome_some, heval, rescanWith, recite]
            rw [← hpure]
            exact runSteps_congr rest (fun a p hr => absurd hr (hnone a p)) _ _ _

theorem applySteps_once {f : Rescan σ ε} {steps : List Step} {output : OutputKind}
    (honce : ReprocessesOnce steps) {s s' : σ} {produced : List Node}
    (h : applySteps steps m output patternName (some f) report s = (.ok produced, s')) :
    ∃ nodes, (∀ segment start, Reprocesses steps m segment start →
        f segment start s = (.ok nodes, s')) ∧
      applySteps steps m output patternName (some (recite fun _ => nodes)) id ()
        = (.ok produced, ()) := by
  unfold applySteps at h
  split at h
  · cases h
  · next w s₁ hrun =>
    split at h
    · next ns hfinal =>
      cases h
      obtain ⟨nodes, hcalls, hpure⟩ := runSteps_once honce hrun
      refine ⟨nodes, hcalls, ?_⟩
      unfold applySteps
      rw [hpure]
      dsimp only
      rw [hfinal]
    · cases h

/-! ## 求めの起こる状態 -/

/-- 状態 `s` で始まる並びは、状態 `s'` で、`start` から始まる `segment` の走査を求める。 -/
inductive Asks (m : Matched) (f : Rescan σ ε) :
    List Step → Value → σ → Text → Nat → σ → Prop
  /-- 先頭の段が求める。 -/
  | here {s : Step} {rest : List Step} {v : Value} {state : σ} {segment : Text} {start : Nat}
      (h : s.eval m true v = .ok (.rescan segment start)) :
      Asks m f (s :: rest) v state segment start state
  /-- 先頭の段が値を渡した後で、残りの段が求める。 -/
  | value {s : Step} {rest : List Step} {v w : Value} {state state' : σ} {segment : Text}
      {start : Nat} (h : s.eval m true v = .ok (.value w))
      (hr : Asks m f rest w state segment start state') :
      Asks m f (s :: rest) v state segment start state'
  /-- 先頭の段の求めに答えた後で、残りの段が求める。 -/
  | answered {s : Step} {rest : List Step} {v : Value} {state state₁ state' : σ}
      {asked segment : Text} {at_ start : Nat} {ns : List Node}
      (h : s.eval m true v = .ok (.rescan asked at_)) (hf : f asked at_ state = (.ok ns, state₁))
      (hr : Asks m f rest (.nodes ns) state₁ segment start state') :
      Asks m f (s :: rest) v state segment start state'

theorem Asks.reprocesses {f : Rescan σ ε} {steps : List Step} {v : Value} {s s' : σ}
    {segment : Text} {start : Nat} (h : Asks m f steps v s segment start s') :
    Reprocesses steps m segment start := by
  induction h with
  | here h => exact reprocesses_of_eval h
  | value _ _ ih => exact ih.of_tail
  | answered _ _ _ ih => exact ih.of_tail

/-- **走査を求める段が高々一つなら、求めは始めの状態で起こる。** -/
theorem Asks.once {f : Rescan σ ε} {steps : List Step} {v : Value} {s s' : σ}
    {segment : Text} {start : Nat} (h : Asks m f steps v s segment start s')
    (honce : ReprocessesOnce steps) : s' = s := by
  induction h with
  | here => rfl
  | value _ _ ih => exact ih honce.of_tail
  | answered h _ hr =>
    obtain ⟨group, -, rfl, -⟩ := Step.eval_rescan h
    exact absurd hr.reprocesses (honce.not_reprocesses _ _)

end Tategaki
