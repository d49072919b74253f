import Tategaki.Proofs.Step.Outcome

/-!
# 二つの実行の足並み

同じ並びを、二つの走査でそれぞれ実行する。状態の組と失敗の組の条件（`Pairing`）を決めておくと、求めの
たびに二つの走査の足並みが揃うなら、並びの実行の足並みも揃う（`Pairing.runSteps`）。

一つ目が大目に見る失敗（`Pairing.excused`）で終わったときは、二つ目の終わり方は何でもよい。
-/

namespace Tategaki

/-- 並べて比べる二つの実行の、状態の組と失敗の組の条件。 -/
structure Pairing (σ σ' ε : Type) where
  ok : σ → σ' → Prop
  bad : ε → σ → ε → σ' → Prop
  /-- 一つ目がこの失敗で終われば、二つ目は問わない。 -/
  excused : ε → Prop

namespace Pairing

variable {σ σ' ε α : Type}

/-- 二つの結果の足並みが揃う。 -/
inductive Holds (P : Pairing σ σ' ε) : Except ε α × σ → Except ε α × σ' → Prop
  /-- 同じ値を返す。 -/
  | ok {a : α} {s : σ} {s' : σ'} (h : P.ok s s') : Holds P (.ok a, s) (.ok a, s')
  /-- どちらも失敗する。 -/
  | error {e e' : ε} {s : σ} {s' : σ'} (h : P.bad e s e' s') : Holds P (.error e, s) (.error e', s')
  /-- 一つ目が大目に見る失敗をする。 -/
  | excused {e : ε} {s : σ} {result : Except ε α × σ'} (h : P.excused e) :
      Holds P (.error e, s) result

variable {m : Matched} {patternName : Option String} {f : Rescan σ ε} {f' : Rescan σ' ε}
  {report : TransformError → ε}

/-- **走査の足並みが揃えば、並びの実行の足並みも揃う。** -/
theorem runSteps (P : Pairing σ σ' ε)
    (hreport : ∀ e {s s'}, P.ok s s' → P.bad (report e) s (report e) s') (steps : List Step)
    (hcall : ∀ segment start, Reprocesses steps m segment start →
      ∀ {s s'}, P.ok s s' → P.Holds (f segment start s) (f' segment start s')) :
    ∀ (index : Nat) (v : Value) {s : σ} {s' : σ'}, P.ok s s' →
      P.Holds (Tategaki.runSteps m patternName (some f) report steps index v s)
        (Tategaki.runSteps m patternName (some f') report steps index v s') := by
  induction steps with
  | nil => intro index v s s' hs; exact .ok hs
  | cons step rest ih =>
    intro index v s s' hs
    have hrest := ih fun segment start h => hcall segment start h.of_tail
    rw [Tategaki.runSteps, Tategaki.runSteps]
    simp only [Option.isSome_some]
    cases heval : step.eval m true v with
    | error reason => exact .error (hreport _ hs)
    | ok outcome =>
      cases outcome with
      | value w => exact hrest _ w hs
      | rescan segment start =>
        have hf := hcall segment start (reprocesses_of_eval heval) hs
        simp only [rescanWith]
        generalize f segment start s = result at hf ⊢
        generalize f' segment start s' = result' at hf ⊢
        cases hf with
        | ok h => exact hrest _ _ h
        | error h => exact .error h
        | excused h => exact .excused h

/-- 走査の足並みが揃えば、段の並びを使うことの足並みも揃う。 -/
theorem applySteps (P : Pairing σ σ' ε)
    (hreport : ∀ e {s s'}, P.ok s s' → P.bad (report e) s (report e) s') {steps : List Step}
    (hcall : ∀ segment start, Reprocesses steps m segment start →
      ∀ {s s'}, P.ok s s' → P.Holds (f segment start s) (f' segment start s'))
    (output : OutputKind) {s : σ} {s' : σ'} (hs : P.ok s s') :
    P.Holds (Tategaki.applySteps steps m output patternName (some f) report s)
      (Tategaki.applySteps steps m output patternName (some f') report s') := by
  have h : P.Holds (Tategaki.runSteps m patternName (some f) report steps 0 (.string m.whole) s)
      (Tategaki.runSteps m patternName (some f') report steps 0 (.string m.whole) s') :=
    P.runSteps hreport steps hcall 0 (.string m.whole) hs
  unfold Tategaki.applySteps
  generalize Tategaki.runSteps m patternName (some f) report steps 0 (.string m.whole) s
    = result at h ⊢
  generalize Tategaki.runSteps m patternName (some f') report steps 0 (.string m.whole) s'
    = result' at h ⊢
  cases h with
  | @ok v _ _ h =>
    dsimp only
    cases finalize output v with
    | ok nodes => exact .ok h
    | error reason => exact .error (hreport _ h)
  | error h => exact .error h
  | excused h => exact .excused h

end Pairing

end Tategaki
