import Mathlib.Data.List.Forall2
import Tategaki.Width

/-!
# 漢数字の桁

桁を読んで書き直すと、先頭の零だけが消える（`decimalDigits_decimalValue`）。桁が零ばかりなら、零が一つ残る。

だから、数字の続きを漢数字にしても、零でない数字の並びは変わらない。

漢数字にできる文字列とその結果は、数字の値の並びで決まる（`numeralToKanji_eq_ok_iff`）。
-/

namespace Tategaki

open Unicode

/-- 一桁の数の桁は、その数である。 -/
theorem decimalDigits_of_lt {d : Nat} (h : d < 10) : decimalDigits d = [d] := by
  have hall : ∀ e < 10, (Nat.digitChar e).toNat - 0x30 = e := by decide
  rw [decimalDigits, digitsOf, Nat.toDigits_of_lt_base h, List.map_singleton, hall d h]

theorem lt_of_mem_decimalDigits {n d : Nat} (h : d ∈ decimalDigits n) : d < 10 := by
  obtain ⟨c, hc, rfl⟩ := List.mem_map.mp h
  have hdigit := Nat.isDigit_of_mem_toDigits (by decide) (by decide) hc
  simp only [Char.isDigit, Bool.and_eq_true, decide_eq_true_eq, ge_iff_le,
    UInt32.le_iff_toNat_le] at hdigit
  have hcodes : '0'.val.toNat = 0x30 ∧ '9'.val.toNat = 0x39 := by decide
  have hval : c.toNat = c.val.toNat := rfl
  omega

/-- 一桁を書き足すと、桁が一つ増える。 -/
theorem decimalDigits_append {n d : Nat} (hn : 0 < n) (hd : d < 10) :
    decimalDigits (10 * n + d) = decimalDigits n ++ [d] := by
  rw [← decimalDigits_of_lt hd, decimalDigits, decimalDigits, decimalDigits, ← List.map_append]
  exact congrArg _ (Nat.toDigits_append_toDigits (by decide) hn hd).symm

/-- 零でない数に桁を読み足すと、その桁が並ぶ。 -/
theorem decimalDigits_foldl {ds : List Nat} (hds : ∀ d ∈ ds, d < 10) {n : Nat} (hn : 0 < n) :
    decimalDigits (ds.foldl (fun n d => 10 * n + d) n) = decimalDigits n ++ ds := by
  induction ds generalizing n with
  | nil => exact (List.append_nil _).symm
  | cons d ds ih =>
    rw [List.foldl_cons, ih (fun e he => hds e (List.mem_cons_of_mem d he)) (by omega),
      decimalDigits_append hn (hds d List.mem_cons_self), List.append_assoc, List.singleton_append]

/-- **桁を読んで書き直すと、先頭の零だけが消える。零ばかりなら一つ残る。** -/
theorem decimalDigits_decimalValue {ds : List Nat} (hds : ∀ d ∈ ds, d < 10) :
    decimalDigits (decimalValue ds) = if ds.all (· == 0) then [0] else ds.dropWhile (· == 0) := by
  induction ds with
  | nil => rfl
  | cons d ds ih =>
    have htail : ∀ e ∈ ds, e < 10 := fun e he => hds e (List.mem_cons_of_mem d he)
    cases d with
    | zero => exact ih htail
    | succ d =>
      have hd : d + 1 < 10 := hds _ List.mem_cons_self
      show decimalDigits (ds.foldl (fun n d => 10 * n + d) (10 * 0 + (d + 1))) = _
      rw [Nat.mul_zero, Nat.zero_add, decimalDigits_foldl htail d.succ_pos, decimalDigits_of_lt hd]
      rfl

/-- 読んで書き直しても、零でない桁の並びは変わらない。 -/
theorem filter_decimalDigits {ds : List Nat} (hds : ∀ d ∈ ds, d < 10) :
    (decimalDigits (decimalValue ds)).filter (· ≠ 0) = ds.filter (· ≠ 0) := by
  rw [decimalDigits_decimalValue hds]
  split
  · next hzeros =>
    have hnone : ds.filter (· ≠ 0) = [] := by
      rw [List.filter_eq_nil_iff]
      intro d hd
      simpa using List.all_eq_true.mp hzeros d hd
    rw [hnone]
    rfl
  · have hnone : (ds.takeWhile (· == 0)).filter (· ≠ 0) = [] := by
      rw [List.filter_eq_nil_iff]
      intro d hd
      simpa using List.all_eq_true.mp List.all_takeWhile d hd
    have hcut := congrArg (List.filter (· ≠ 0))
      (List.takeWhile_append_dropWhile (p := (· == 0)) (l := ds))
    rwa [List.filter_append, hnone, List.nil_append] at hcut

/-! ## 数字の値 -/

theorem digitValues_eq_some_iff {text : Text} {ds : List Nat} :
    digitValues text = some ds ↔ List.Forall₂ (fun c d => digitValue c = some d) text ds := by
  induction text generalizing ds with
  | nil => simp [digitValues, eq_comm]
  | cons c rest ih =>
    have hcons : digitValues (c :: rest)
        = (digitValue c).bind fun d => (digitValues rest).map (d :: ·) := by
      rw [digitValues, List.mapM_cons, digitValues]
      cases digitValue c with
      | none => rfl
      | some d => cases rest.mapM digitValue <;> rfl
    rw [hcons, List.forall₂_cons_left_iff]
    simp only [Option.bind_eq_some_iff, Option.map_eq_some_iff, ih]
    tauto

/-- 十進数字だけの文字列の値は、数字の値を並べたものである。 -/
theorem digitValues_eq_filterMap {text : Text} {ds : List Nat} (h : digitValues text = some ds) :
    text.filterMap digitValue = ds := by
  induction digitValues_eq_some_iff.mp h with
  | nil => rfl
  | cons hd hrest ih =>
    rw [List.filterMap_cons_some hd, ih (digitValues_eq_some_iff.mpr hrest)]

theorem lt_of_mem_digitValues {text : Text} {ds : List Nat} (h : digitValues text = some ds)
    {d : Nat} (hd : d ∈ ds) : d < 10 := by
  rw [← digitValues_eq_filterMap h] at hd
  obtain ⟨c, -, hc⟩ := List.mem_filterMap.mp hd
  exact digitValue_lt hc

/-- **漢数字にできるのは、両端の空白を除けば、上限を越えない個数の数字の並びだけであり、その値の桁が一字ずつ書かれる。** -/
theorem numeralToKanji_eq_ok_iff {text out : Text} :
    numeralToKanji text = .ok out ↔ ∃ ds, digitValues (strip text) = some ds ∧ ds ≠ [] ∧
      ds.length ≤ Json.maxIntegerDigits ∧ out = (decimalDigits (decimalValue ds)).map kanjiDigit := by
  unfold numeralToKanji
  dsimp only
  split
  · next hnone => simp [hnone]
  · next ds hds =>
    simp only [hds, Option.some.injEq, exists_eq_left']
    split
    · next hempty => simp [List.isEmpty_iff.mp hempty]
    · next hne =>
      have hne' : ds ≠ [] := fun hnil => hne (List.isEmpty_iff.mpr hnil)
      split
      · next hlong => simp [Nat.not_le.mpr hlong]
      · next hshort => simp [hne', Nat.not_lt.mp hshort, eq_comm]

end Tategaki
