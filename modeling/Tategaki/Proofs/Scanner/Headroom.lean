import Tategaki.Proofs.Number.Order
import Tategaki.Proofs.Scanner.Guard
import Tategaki.Proofs.Scanner.Tandem

/-!
# 上限のゆとり

上限は走査を途中で止めるだけで、結果を変えない。深さ、枠の残り、経過時間のどれも小さくない上限で走査し直せば、
上限のために止まらなかった走査は、同じ節か同じ失敗で終わり、同じ区間を同じ順に記録し、枠を同じだけ使い、時計を
同じ回数だけ読む（`scanAt_headroom`）。

二つの走査の状態は、枠のほかは同じである（`Abreast`）。一つ目が上限のために止まらない限り、どの一歩でもそうで
ある。
-/

namespace Tategaki

/-! ## 枠の残り -/

namespace Budget

/-- まだ使える回数。 -/
def remaining (b : Budget) : Nat := (b.ceiling.value - b.count).toNat

theorem isSpent_iff {b : Budget} : b.isSpent = true ↔ b.remaining = 0 := by
  unfold isSpent remaining
  rw [decide_eq_true_eq]
  omega

/-- 使えるのは、残りがあるときである。 -/
theorem remaining_pos_of_charge {b b' : Budget} {name : Option String}
    (h : b.charge name = .ok b') : 0 < b.remaining := by
  unfold charge at h
  split at h
  · cases h
  · next hspent => exact Nat.pos_of_ne_zero fun hzero => hspent (isSpent_iff.mpr hzero)

/-- 残りがあれば使えて、残りがちょうど一つ減る。 -/
theorem charge_of_remaining_pos {b : Budget} (name : Option String) (h : 0 < b.remaining) :
    ∃ b', b.charge name = .ok b' ∧ b'.count = b.count + 1 ∧ b'.remaining + 1 = b.remaining := by
  have hfree : ¬ b.isSpent = true := fun hspent => by
    rw [isSpent_iff.mp hspent] at h
    exact Nat.lt_irrefl 0 h
  refine ⟨{ b with count := b.count + 1 }, ?_, rfl, ?_⟩
  · unfold charge
    rw [if_neg hfree]
  · unfold remaining at h ⊢
    dsimp only
    omega

end Budget

namespace ScanState

variable {τ : Type}

/-- 効いている枠を替える。 -/
def setBudget (st : ScanState τ) (b : Budget) : ScanState τ :=
  match st.own with
  | some _ => { st with own := some b }
  | none => { st with shared := b }

@[simp] theorem budget_setBudget (st : ScanState τ) (b : Budget) : (st.setBudget b).budget = b := by
  obtain ⟨ranges, own, shared, clock, reads, wins⟩ := st
  cases own <;> rfl

/-- 使うのは、効いている枠である。 -/
theorem charge_eq (st : ScanState τ) (name : String) :
    st.charge name = (st.budget.charge (some name)).map st.setBudget := by
  obtain ⟨ranges, own, shared, clock, reads, wins⟩ := st
  cases own <;> rfl

/-! ## 枠のほかは同じ状態 -/

/-- 枠のほかは同じ状態である。 -/
structure Alike (st st' : ScanState τ) : Prop where
  ranges : st'.ranges = st.ranges
  clock : st'.clock = st.clock
  reads : st'.reads = st.reads
  wins : st'.wins = st.wins

theorem alike_setBudget (st : ScanState τ) (b : Budget) : Alike st (st.setBudget b) := by
  unfold setBudget
  cases st.own <;> exact ⟨rfl, rfl, rfl, rfl⟩

namespace Alike

variable {st st' : ScanState τ}

theorem symm (h : Alike st st') : Alike st' st :=
  ⟨h.ranges.symm, h.clock.symm, h.reads.symm, h.wins.symm⟩

theorem trans {st'' : ScanState τ} (h : Alike st st') (h' : Alike st' st'') : Alike st st'' :=
  ⟨h'.ranges.trans h.ranges, h'.clock.trans h.clock, h'.reads.trans h.reads,
    h'.wins.trans h.wins⟩

theorem readClock (h : Alike st st') (read : ReadClock τ) :
    (st'.readClock read).1 = (st.readClock read).1 ∧
      Alike (st.readClock read).2 (st'.readClock read).2 := by
  unfold ScanState.readClock
  rw [h.clock]
  exact ⟨rfl, h.ranges, rfl, congrArg (· + 1) h.reads, h.wins⟩

theorem record (h : Alike st st') (range : ProcessedRange) (win : Win) :
    Alike (st.record range win) (st'.record range win) :=
  ⟨congrArg (· ++ [range]) h.ranges, h.clock, h.reads, congrArg (win :: ·) h.wins⟩

end Alike

end ScanState

/-- 上限のために止まった失敗か。 -/
def ScanError.isExhausted : ScanError → Bool
  | timeout _ _ => true
  | tooDeep _ _ _ => true
  | budget _ => true
  | transform _ => false

namespace Scanner

variable {τ : Type}

/-! ## 並んだ二つの走査 -/

/-- 枠のほかは同じ状態で、二つ目の枠の残りは少なくない。使った回数の差は `a` と `b` の差である。 -/
structure Abreast (a b : Nat) (st st' : ScanState τ) : Prop where
  alike : st.Alike st'
  remaining : st.budget.remaining ≤ st'.budget.remaining
  charged : st'.budget.count + a = st.budget.count + b

/-- 枠を使えないのは、使い切ったときだけである。 -/
theorem exhausted_of_spend {st s : ScanState τ} {range : ProcessedRange} {win : Win}
    {e : ScanError} (h : spend range win st = (.error e, s)) : e.isExhausted = true := by
  unfold spend at h
  split at h
  · cases h
    rfl
  · cases h

/-- 一つ目が枠を使えたら、二つ目も使えて、並んだままである。 -/
theorem Abreast.spend {a b : Nat} {st st' s : ScanState τ} {range : ProcessedRange} {win : Win}
    (h : Abreast a b st st') (hspend : spend range win st = (.ok (), s)) :
    ∃ s', Scanner.spend range win st' = (.ok (), s') ∧ Abreast a b s s' := by
  unfold Scanner.spend at hspend ⊢
  rw [ScanState.charge_eq] at hspend ⊢
  have hbudget : ∀ st : ScanState τ, (st.record range win).budget = st.budget := fun _ => rfl
  rw [hbudget] at hspend ⊢
  split at hspend
  · cases hspend
  · next hcharge =>
    cases hspend
    obtain ⟨b₁, hb₁, rfl⟩ := exists_of_map_ok hcharge
    have hpos := Budget.remaining_pos_of_charge hb₁
    obtain ⟨b₂, hb₂, hcount, hremaining⟩ := Budget.charge_of_remaining_pos (some win.patternName)
      hpos
    obtain ⟨b₁', hb₁', hcount', hremaining'⟩ := Budget.charge_of_remaining_pos
      (some win.patternName) (Nat.lt_of_lt_of_le hpos h.remaining)
    cases hb₁.symm.trans hb₂
    rw [hb₁']
    refine ⟨(st'.record range win).setBudget b₁', rfl, ?_, ?_, ?_⟩
    · exact ((ScanState.alike_setBudget _ _).symm.trans (h.alike.record range win)).trans
        (ScanState.alike_setBudget _ _)
    · have hle := h.remaining
      simp only [ScanState.budget_setBudget]
      omega
    · have hcharged := h.charged
      simp only [ScanState.budget_setBudget]
      omega

/-- ゆとりのある上限での走査は、元の上限での走査と足並みが揃う。 -/
def headroom (r : Registry) {limits limits' : Limits} (read : ReadClock τ)
    (hdepth : limits.maxDepth.value ≤ limits'.maxDepth.value)
    (htimeout : limits.timeout.value.le limits'.timeout.value = true) (a b : Nat) :
    Tandem (ofRegistry r limits read) (ofRegistry r limits' read) where
  pairing := {
    ok := Abreast a b
    bad := fun e st e' st' => e' = e ∧ Abreast a b st st'
    excused := fun e => e.isExhausted = true }
  rules_eq := rfl
  ranges_eq h := h.alike.ranges
  transform _ _ _ h := ⟨rfl, h⟩
  check ctx st st' h := by
    obtain ⟨hnow, hread⟩ := h.alike.readClock read
    unfold check validate ofRegistry
    dsimp only
    rw [hnow]
    split
    · next heq =>
      split at heq
      · cases heq
        exact .excused rfl
      · split at heq
        · cases heq
          exact .excused rfl
        · cases heq
    · next heq =>
      split at heq
      · cases heq
      · next htime =>
        split at heq
        · cases heq
        · next hdeep =>
          cases heq
          rw [if_neg fun hlate => htime (Number.lt_of_le_of_lt htimeout hlate),
            if_neg fun hover => hdeep (Int.lt_of_le_of_lt hdepth hover)]
          exact .ok ⟨hread, h.remaining, h.charged⟩
  spend range win st st' h := by
    generalize hspend : spend range win st = result
    obtain ⟨e | u, s⟩ := result
    · exact .excused (exhausted_of_spend hspend)
    · obtain ⟨s', hspend', habreast⟩ := h.spend hspend
      rw [hspend']
      exact .ok habreast

/--
**ゆとりのある上限で走査しても、上限のために止まらなかった走査の結果は変わらない。**

枠のほかは同じ状態から始めれば、枠のほかは同じ状態で終わり、枠を使った回数も同じである。
-/
theorem scanAt_headroom (r : Registry) {limits limits' : Limits} {read : ReadClock τ}
    {ctx : Context} {text : Text} {offset : Int} {st st' st₁ : ScanState τ}
    {result : Except ScanError (List Node)}
    (hdepth : limits.maxDepth.value ≤ limits'.maxDepth.value)
    (htimeout : limits.timeout.value.le limits'.timeout.value = true)
    (halike : st.Alike st') (hbudget : st.budget.remaining ≤ st'.budget.remaining)
    (h : (ofRegistry r limits read).scanAt ctx text offset st = (result, st₁))
    (hresult : ∀ e, result = .error e → e.isExhausted = false) :
    ∃ st₁', (ofRegistry r limits' read).scanAt ctx text offset st' = (result, st₁') ∧
      st₁.Alike st₁' ∧
      st₁'.budget.count + st.budget.count = st₁.budget.count + st'.budget.count := by
  have hstart : Abreast st.budget.count st'.budget.count st st' :=
    ⟨halike, hbudget, Nat.add_comm _ _⟩
  have hpaired := (headroom r read hdepth htimeout _ _).scanAt ctx text offset hstart
  rw [h] at hpaired
  generalize (ofRegistry r limits' read).scanAt ctx text offset st' = result' at hpaired ⊢
  cases hpaired with
  | ok hok => exact ⟨_, rfl, hok.alike, hok.charged⟩
  | error hbad =>
    obtain ⟨rfl, hok⟩ := hbad
    exact ⟨_, rfl, hok.alike, hok.charged⟩
  | excused he => exact absurd ((hresult _ rfl).symm.trans he) Bool.false_ne_true

/-- 入れ子の走査にちょうど足りる上限。 -/
def tightLimits : Limits := { maxDepth := .number 1, timeout := .number (.int 1) }

/-- 残りが四回の枠を持つ状態。 -/
def tightState : ScanState SteadyClock :=
  { freshState with own := some { ceiling := .number 6, count := 2 } }

/-- ちょうど足りる上限でも、既定の上限でも、同じ節が返る。 -/
theorem scanAt_headroom_nested :
    tightLimits.maxDepth.value ≤ ({} : Limits).maxDepth.value ∧
      tightLimits.timeout.value.le ({} : Limits).timeout.value = true ∧
      tightState.Alike freshState ∧ tightState.budget.remaining ≤ freshState.budget.remaining ∧
      ∃ st₁ st₁', (ofRegistry (.bundled {}) tightLimits SteadyClock.read).scanAt
          { startTime := .int 0 } nestedText 0 tightState = (.ok nestedNodes, st₁) ∧
        bundledScanner.scanAt { startTime := .int 0 } nestedText 0 freshState
          = (.ok nestedNodes, st₁') ∧
        st₁.Alike st₁' ∧
        st₁'.budget.count + tightState.budget.count
          = st₁.budget.count + freshState.budget.count := by
  have htimeout : tightLimits.timeout.value.le ({} : Limits).timeout.value = true := by
    decide +kernel
  have halike : tightState.Alike freshState := ⟨rfl, rfl, rfl, rfl⟩
  have hscan : ((ofRegistry (.bundled {}) tightLimits SteadyClock.read).scanAt
      { startTime := .int 0 } nestedText 0 tightState).1.toOption = some nestedNodes := by
    rw [ofRegistry, Registry.activeRules_bundled]
    decide +kernel
  obtain ⟨st₁', hwide, hsame⟩ := scanAt_headroom (.bundled {}) (by decide) htimeout halike
    (by decide) (eq_ok_of_toOption hscan) (by simp)
  exact ⟨by decide, htimeout, halike, by decide, _, st₁', eq_ok_of_toOption hscan, hwide, hsame⟩

end Scanner

end Tategaki
