import Mathlib.Algebra.Order.Field.Power
import Mathlib.Data.Rat.Cast.Order
import Mathlib.Order.WithBot
import Tategaki.Number.Basic

/-!
# 倍精度の数の順序

非数を除けば、倍精度の数の大小（`Binary64.lt`）と等しさ（`Binary64.eq`）は、値の大小と等しさで
ある。値は有理数の両端に無限大を加えたものなので、順序は全順序になる。

以下である（`Binary64.le`、`Number.le`）とは、小さいか等しいことをいう。非数は何とも比べられない。
-/

namespace Tategaki

namespace Binary64

/-- 数の値。非数の値は零とする。 -/
def value : Binary64 → WithBot (WithTop ℚ)
  | nan => ((0 : ℚ) : WithTop ℚ)
  | infinite true => ⊥
  | infinite false => ((⊤ : WithTop ℚ) : WithBot (WithTop ℚ))
  | finite s m e => ((signed s m * (2 : ℚ) ^ e : ℚ) : WithTop ℚ)

/-- 有限の数の値は有理数である。 -/
theorem value_finite (s : Bool) (m : Nat) (e : Int) :
    ∃ q : ℚ, (finite s m e).value = ((q : WithTop ℚ) : WithBot (WithTop ℚ)) := ⟨_, rfl⟩

theorem twoPow_cast (n : Nat) : (twoPow n : ℚ) = 2 ^ n := by
  induction n with
  | zero => rw [twoPow_zero, Nat.cast_one, pow_zero]
  | succ n ih => rw [twoPow_succ, Nat.cast_mul, ih, pow_succ]; norm_num

/-- 低い方の指数に揃えても、値は変わらない。 -/
theorem aligned_mul (n e low : Int) (h : low ≤ e) :
    ((n * (twoPow (e - low).toNat : Int) : Int) : ℚ) * (2 : ℚ) ^ low = n * (2 : ℚ) ^ e := by
  have hpow : (2 : ℚ) ^ (e - low).toNat = (2 : ℚ) ^ (e - low) := by
    rw [← zpow_natCast, Int.toNat_of_nonneg (by omega)]
  have hcast : ((twoPow (e - low).toNat : Int) : ℚ) = (2 : ℚ) ^ (e - low) := by
    rw [Int.cast_natCast, twoPow_cast, hpow]
  rw [Int.cast_mul, hcast, mul_assoc, ← zpow_add₀ (by norm_num : (2 : ℚ) ≠ 0)]
  congr 2
  omega

/-- 揃えた仮数の大小は、値の大小である。 -/
theorem aligned_lt_iff (s t : Bool) (m n : Nat) (e f : Int) :
    (aligned s m e t n f).1 < (aligned s m e t n f).2 ↔
      signed s m * (2 : ℚ) ^ e < signed t n * (2 : ℚ) ^ f := by
  have hpos : (0 : ℚ) < (2 : ℚ) ^ min e f := zpow_pos (by norm_num) _
  rw [← aligned_mul (signed s m) e (min e f) (min_le_left e f),
    ← aligned_mul (signed t n) f (min e f) (min_le_right e f), mul_lt_mul_iff_left₀ hpos,
    Int.cast_lt]
  rfl

/-- 揃えた仮数が等しいのは、値が等しいときである。 -/
theorem aligned_eq_iff (s t : Bool) (m n : Nat) (e f : Int) :
    (aligned s m e t n f).1 = (aligned s m e t n f).2 ↔
      signed s m * (2 : ℚ) ^ e = signed t n * (2 : ℚ) ^ f := by
  have hpos : (0 : ℚ) < (2 : ℚ) ^ min e f := zpow_pos (by norm_num) _
  rw [← aligned_mul (signed s m) e (min e f) (min_le_left e f),
    ← aligned_mul (signed t n) f (min e f) (min_le_right e f), mul_left_inj' hpos.ne',
    Int.cast_inj]
  rfl

/-- **非数でなければ、小さいのは値が小さいときである。** -/
theorem lt_iff_value {x y : Binary64} (hx : x ≠ nan) (hy : y ≠ nan) :
    x.lt y = true ↔ x.value < y.value := by
  match x, y, hx, hy with
  | infinite s, infinite t, _, _ => cases s <;> cases t <;> simp [lt, value]
  | infinite s, finite t n f, _, _ =>
    obtain ⟨q, hq⟩ := value_finite t n f
    rw [hq]
    cases s <;> simp [lt, value]
  | finite s m e, infinite true, _, _ =>
    obtain ⟨q, hq⟩ := value_finite s m e
    rw [hq]
    simp [lt, value]
  | finite s m e, infinite false, _, _ =>
    obtain ⟨q, hq⟩ := value_finite s m e
    rw [hq]
    simp only [lt, Bool.not_false, value, WithBot.coe_lt_coe, WithTop.coe_lt_top]
  | finite s m e, finite t n f, _, _ =>
    simp only [lt, decide_eq_true_eq, value, WithBot.coe_lt_coe, WithTop.coe_lt_coe]
    exact aligned_lt_iff s t m n e f

/-- **非数でなければ、等しいのは値が等しいときである。** -/
theorem eq_iff_value {x y : Binary64} (hx : x ≠ nan) (hy : y ≠ nan) :
    x.eq y = true ↔ x.value = y.value := by
  match x, y, hx, hy with
  | infinite s, infinite t, _, _ => cases s <;> cases t <;> simp [eq, value]
  | infinite s, finite t n f, _, _ =>
    obtain ⟨q, hq⟩ := value_finite t n f
    rw [hq]
    cases s <;> simp [eq, value]
  | finite s m e, infinite t, _, _ =>
    obtain ⟨q, hq⟩ := value_finite s m e
    rw [hq]
    cases t <;> simp [eq, value]
  | finite s m e, finite t n f, _, _ =>
    simp only [eq, beq_iff_eq, value, WithBot.coe_inj, WithTop.coe_inj]
    exact aligned_eq_iff s t m n e f

/-! ## 以下 -/

/-- 小さいか等しい。 -/
def le (x y : Binary64) : Bool := x.lt y || x.eq y

theorem ne_nan_of_lt {x y : Binary64} (h : x.lt y = true) : x ≠ nan ∧ y ≠ nan := by
  constructor
  · rintro rfl
    cases h
  · rintro rfl
    cases x <;> cases h

theorem ne_nan_of_eq {x y : Binary64} (h : x.eq y = true) : x ≠ nan ∧ y ≠ nan := by
  constructor
  · rintro rfl
    cases h
  · rintro rfl
    cases x <;> cases h

/-- 小さいか等しいなら、どちらも非数でなく、値も以下である。 -/
theorem value_le_of_le {x y : Binary64} (h : x.le y = true) :
    (x ≠ nan ∧ y ≠ nan) ∧ x.value ≤ y.value := by
  rcases Bool.or_eq_true_iff.mp h with hlt | heq
  · have hne := ne_nan_of_lt hlt
    exact ⟨hne, le_of_lt ((lt_iff_value hne.1 hne.2).mp hlt)⟩
  · have hne := ne_nan_of_eq heq
    exact ⟨hne, le_of_eq ((eq_iff_value hne.1 hne.2).mp heq)⟩

theorem lt_of_le_of_lt {x y z : Binary64} (hxy : x.le y = true) (hyz : y.lt z = true) :
    x.lt z = true := by
  obtain ⟨⟨hx, hy⟩, hle⟩ := value_le_of_le hxy
  have hz := (ne_nan_of_lt hyz).2
  rw [lt_iff_value hx hz]
  exact hle.trans_lt ((lt_iff_value hy hz).mp hyz)

end Binary64

namespace Number

/-- 小さいか等しい。丸めずに比べる。 -/
def le (x y : Number) : Bool := x.exact.le y.exact

/-- 大きい方より大きければ、小さい方よりも大きい。 -/
theorem lt_of_le_of_lt {x y z : Number} (hxy : x.le y = true) (hyz : y.lt z = true) :
    x.lt z = true := Binary64.lt_of_le_of_lt hxy hyz

end Number

/-! ## 同じ数どうしの差 -/

theorem Binary64.ofDyadic_zero (e : Int) : ofDyadic false 0 e = zero := by
  unfold ofDyadic scale
  split <;> simp [ofRatio, zero]

/-- 同じ数どうしの差は、零か、非数である。 -/
theorem Binary64.sub_self (x : Binary64) : x.sub x = nan ∨ x.sub x = zero := by
  cases x with
  | nan => exact .inl rfl
  | infinite s => cases s <;> exact .inl rfl
  | finite s m e =>
    right
    have htotal : signed s m + signed (!s) m = 0 := by cases s <;> simp [signed]
    simp only [sub, neg, add, Int.min_self, Int.sub_self, Bool.and_not_self, ← Int.add_mul, htotal,
      Int.zero_mul, ofDyadic_zero]

namespace Number

/-- 一以上の整数は、零以下でない。 -/
theorem isNonpositive_int {n : Int} (h : 1 ≤ n) : (int n).isNonpositive = false := by
  by_contra hle
  obtain ⟨-, hvalue⟩ := Binary64.value_le_of_le ((Bool.not_eq_false _).mp hle)
  simp only [exact, Binary64.value, Binary64.zero, signed_natAbs, WithBot.coe_le_coe,
    WithTop.coe_le_coe, zpow_zero, mul_one] at hvalue
  simp only [Binary64.signed, if_neg Bool.false_ne_true, Nat.cast_zero, Int.cast_zero, zero_mul,
    Int.cast_nonpos] at hvalue
  omega

/-- **正の数は、同じ数どうしの差より小さくない。** -/
theorem not_lt_sub_self {x : Number} (hx : x.isNonpositive = false) (now : Number) :
    x.lt (now.sub now) = false := by
  by_contra hlt
  rw [Bool.not_eq_false, lt] at hlt
  obtain ⟨hne, hnan⟩ := Binary64.ne_nan_of_lt hlt
  have hzero : (now.sub now).exact.value = Binary64.zero.value := by
    cases now with
    | int n => simp [sub, exact, Binary64.value, Binary64.zero, Binary64.signed]
    | float y =>
      rcases y.sub_self with h | h
      · exact absurd h hnan
      · exact congrArg Binary64.value h
  have hneg : x.exact.lt .zero = true := by
    rw [Binary64.lt_iff_value hne (by simp [Binary64.zero]), ← hzero]
    exact (Binary64.lt_iff_value hne hnan).mp hlt
  simp [isNonpositive, hneg] at hx

end Number

end Tategaki
