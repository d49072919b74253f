import Tategaki.Limits

/-!
# 適用回数の枠

規則を適用するたびに一つ使い、上限に達した後の適用は断られる。断られても数は増えない。
-/

namespace Tategaki

/-- 適用回数の枠。 -/
structure Budget where
  ceiling : Whole
  count : Nat := 0
  deriving DecidableEq, Repr

/-- 枠を使い切ったこと。 -/
structure BudgetExceeded where
  ceiling : Whole
  /-- 適用しようとした規則。 -/
  patternName : Option String
  deriving DecidableEq, Repr

/-- 使い切ったときの文面。 -/
def BudgetExceeded.message (e : BudgetExceeded) : String :=
  let ceiling := e.ceiling.text
  let head := s!"Maximum pattern iterations exceeded ({ceiling})"
  match e.patternName with
  | some name => if name.isEmpty then head else head ++ " while applying " ++ name
  | none => head

namespace Budget

/-- 上限に達したか。 -/
def isSpent (b : Budget) : Bool := b.ceiling.value ≤ b.count

/-- 一つ使う。 -/
def charge (b : Budget) (patternName : Option String) : Except BudgetExceeded Budget :=
  if b.isSpent then .error ⟨b.ceiling, patternName⟩ else .ok { b with count := b.count + 1 }

/-- 数を零に戻す。 -/
def reset (b : Budget) : Budget := { b with count := 0 }

/-- 使えたときは、ちょうど一つ増える。 -/
theorem charge_count {b b' : Budget} {name : Option String} (h : b.charge name = .ok b') :
    b'.count = b.count + 1 ∧ b'.ceiling = b.ceiling := by
  unfold charge at h
  split at h
  · cases h
  · cases h; exact ⟨rfl, rfl⟩

/-- 使えたなら、数は上限を越えない。 -/
theorem count_le_of_charge {b b' : Budget} {name : Option String} (h : b.charge name = .ok b') :
    (b'.count : Int) ≤ b'.ceiling.value := by
  unfold charge at h
  split at h
  · cases h
  · rename_i hs
    cases h
    simp only [isSpent, decide_eq_true_eq] at hs
    simp only []
    omega

end Budget

end Tategaki
