/-!
# 二と十の冪

二進と十進の桁を動かすときに掛ける冪。
-/

namespace Tategaki

/-- 二の冪。 -/
def twoPow (n : Nat) : Nat := Nat.pow 2 n

/-- 十の冪。 -/
def tenPow (n : Nat) : Nat := Nat.pow 10 n

@[simp] theorem twoPow_zero : twoPow 0 = 1 := rfl

theorem twoPow_succ (n : Nat) : twoPow (n + 1) = twoPow n * 2 := rfl

end Tategaki
