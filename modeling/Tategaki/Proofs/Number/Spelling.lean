import Tategaki.Proofs.Number.Kanji
import Tategaki.Proofs.Unicode.Blank

/-!
# 漢数字の読み書き

漢数字にできるのは、前後の空白を除けば、どの文字体系のものでもよい十進数字だけが、上限を越えない個数並ぶ文字列である
（`Spells`）。できた漢数字は、数字の値から先頭の零を除いて（`withoutLeadingZeros`）一字ずつ書いたもので、桁として読み戻せば
（`readKanji`）、元の数字の表す数になる（`numeralToKanji_spells`）。

半角と全角の数字は値が同じで、どちらも空白ではない（`digitValue_convertChar`、`isBlank_convertChar`）。だから、数字の
字幅を変えてから漢数字にしても、結果は変わらない。
-/

namespace Tategaki

open Unicode

/-! ## 空白で囲まれた数字 -/

/-- 空白で囲まれた十進数字の列。`ds` は数字の値を順に並べたもの。 -/
inductive Spells : Text → List Nat → Prop
  | intro {lead digits trail : Text} {ds : List Nat}
      (hlead : ∀ c ∈ lead, isBlank c = true) (htrail : ∀ c ∈ trail, isBlank c = true)
      (h : List.Forall₂ (fun c d => digitValue c = some d) digits ds) :
      Spells (lead ++ digits ++ trail) ds

theorem isBlank_of_mem_digits {digits : Text} {ds : List Nat} (h : digitValues digits = some ds)
    {c : Char} (hc : c ∈ digits) : isBlank c = false := by
  induction digitValues_eq_some_iff.mp h with
  | nil => cases hc
  | cons hd hrest ih =>
    rcases List.mem_cons.mp hc with rfl | hc
    · exact isBlank_of_isDecimal (Option.isSome_iff_exists.mpr ⟨_, hd⟩)
    · exact ih (digitValues_eq_some_iff.mpr hrest) hc

/-- 空白で囲まれた数字の値は、空白を落とせば読める。 -/
theorem spells_iff {text : Text} {ds : List Nat} :
    Spells text ds ↔ digitValues (strip text) = some ds := by
  constructor
  · rintro ⟨hlead, htrail, h⟩
    have hdigits := digitValues_eq_some_iff.mpr h
    -- 数字は空白でないので、落ちるのは囲んだ空白だけである
    rw [strip_append_blank htrail, strip_blank_append hlead,
      strip_eq_self fun c hc => isBlank_of_mem_digits hdigits hc]
    exact hdigits
  · intro h
    obtain ⟨lead, trail, htext, hlead, htrail⟩ := exists_strip text
    rw [htext]
    exact .intro hlead htrail (digitValues_eq_some_iff.mp h)

/-! ## 漢数字の値 -/

/-- 先頭の零を除いた桁。零ばかりなら、零が一つ残る。 -/
def withoutLeadingZeros (ds : List Nat) : List Nat :=
  if ds.all (· == 0) then [0] else ds.dropWhile (· == 0)

/-- 数字を表す漢字の値。 -/
def kanjiValue? (c : Char) : Option Nat := kanjiDigits.idxOf? c

/-- 漢数字を、桁を並べた数として読む。数字を表す漢字でない字があれば `none`。 -/
def readKanji (text : Text) : Option Nat := (text.mapM kanjiValue?).map decimalValue

theorem kanjiValue?_kanjiDigit {d : Nat} (h : d < 10) : kanjiValue? (kanjiDigit d) = some d := by
  have hall : ∀ d < 10, kanjiValue? (kanjiDigit d) = some d := by decide +kernel
  exact hall d h

theorem readKanji_map_kanjiDigit {ds : List Nat} (hds : ∀ d ∈ ds, d < 10) :
    readKanji (ds.map kanjiDigit) = some (decimalValue ds) := by
  have hread : (ds.map kanjiDigit).mapM kanjiValue? = some ds := by
    induction ds with
    | nil => rfl
    | cons d ds ih =>
      rw [List.map_cons, List.mapM_cons, kanjiValue?_kanjiDigit (hds d List.mem_cons_self),
        ih fun e he => hds e (List.mem_cons_of_mem d he)]
      rfl
  rw [readKanji, hread, Option.map_some]

/-- 先頭の零を除いても、表す数は変わらない。 -/
theorem decimalValue_withoutLeadingZeros (ds : List Nat) :
    decimalValue (withoutLeadingZeros ds) = decimalValue ds := by
  induction ds with
  | nil => rfl
  | cons d ds ih =>
    cases d with
    | zero => exact ih
    | succ d => rfl

/-! ## 字幅 -/

/-- 半角の数字を全角に、全角の数字を半角に替えるとき、替わるのは同じ値の数字だけである。 -/
theorem convertChar_numbers_cases (direction : WidthDirection) (c : Char) :
    convertChar .numbers direction c = c ∨
      ∃ z ∈ [0x30, 0xFF10], ∃ w ∈ [0x30, 0xFF10], ∃ i < 10,
        c = Char.ofNat (z + i) ∧ convertChar .numbers direction c = Char.ofNat (w + i) := by
  have hcodes : '0'.val.toNat = 0x30 ∧ '9'.val.toNat = 0x39 ∧ '０'.val.toNat = 0xFF10 ∧
      '９'.val.toNat = 0xFF19 := by decide
  have hval : c.toNat = c.val.toNat := rfl
  have hoffset : fullwidthOffset = 0xFEE0 := rfl
  have hsplit : ∀ {z}, z ≤ c.toNat → c = Char.ofNat (z + (c.toNat - z)) := by
    intro z hz
    rw [Nat.add_sub_cancel' hz, Char.ofNat_toNat]
  cases direction with
  | fullwidth =>
    by_cases hc : isHalfDigit c = true
    · refine .inr ⟨0x30, by simp, 0xFF10, by simp, c.toNat - 0x30, ?_⟩
      rw [convertChar, if_pos hc]
      simp only [isHalfDigit, between, Bool.and_eq_true, decide_eq_true_eq, Char.le_def,
        UInt32.le_iff_toNat_le] at hc
      exact ⟨by omega, hsplit (by omega), congrArg Char.ofNat (by omega)⟩
    · exact .inl (by rw [convertChar, if_neg hc])
  | halfwidth =>
    by_cases hc : isFullDigit c = true
    · refine .inr ⟨0xFF10, by simp, 0x30, by simp, c.toNat - 0xFF10, ?_⟩
      rw [convertChar, if_pos hc]
      simp only [isFullDigit, between, Bool.and_eq_true, decide_eq_true_eq, Char.le_def,
        UInt32.le_iff_toNat_le] at hc
      exact ⟨by omega, hsplit (by omega), congrArg Char.ofNat (by omega)⟩
    · exact .inl (by rw [convertChar, if_neg hc])

theorem digitValue_convertChar (direction : WidthDirection) (c : Char) :
    digitValue (convertChar .numbers direction c) = digitValue c := by
  have hall : ∀ z ∈ [0x30, 0xFF10], ∀ i < 10, digitValue (Char.ofNat (z + i)) = some i := by
    decide +kernel
  rcases convertChar_numbers_cases direction c with hsame | ⟨z, hz, w, hw, i, hi, hc, hconv⟩
  · rw [hsame]
  · rw [hconv, hc, hall w hw i hi, hall z hz i hi]

theorem isBlank_convertChar (direction : WidthDirection) (c : Char) :
    isBlank (convertChar .numbers direction c) = isBlank c := by
  have hall : ∀ z ∈ [0x30, 0xFF10], ∀ i < 10, isBlank (Char.ofNat (z + i)) = false := by
    decide +kernel
  rcases convertChar_numbers_cases direction c with hsame | ⟨z, hz, w, hw, i, hi, hc, hconv⟩
  · rw [hsame]
  · rw [hconv, hc, hall w hw i hi, hall z hz i hi]

/-- 数字の字幅を変えても、読める数字の値は変わらない。 -/
theorem digitValues_strip_convertWidth (direction : WidthDirection) (text : Text) :
    digitValues (strip (convertWidth .numbers direction text)) = digitValues (strip text) := by
  have hvalue : digitValue ∘ convertChar .numbers direction = digitValue :=
    funext (digitValue_convertChar direction)
  rw [convertWidth, strip_map (isBlank_convertChar direction), digitValues, digitValues,
    List.mapM_map, hvalue]

/-! ## 漢数字 -/

/-- **漢数字にできるのは、空白で囲まれた、上限を越えない個数の十進数字だけである。先頭の零を除いた値が一字ずつ書かれ、読み戻せば
元の数になる。数字の字幅を先に変えても、結果は変わらない。** -/
theorem numeralToKanji_spells (text : Text) :
    ((∃ out, numeralToKanji text = .ok out) ↔
      ∃ ds, Spells text ds ∧ ds ≠ [] ∧ ds.length ≤ Json.maxIntegerDigits) ∧
    (∀ ds out, Spells text ds → numeralToKanji text = .ok out →
      out = (withoutLeadingZeros ds).map kanjiDigit ∧ readKanji out = some (decimalValue ds)) ∧
    ∀ direction out, numeralToKanji (convertWidth .numbers direction text) = .ok out ↔
      numeralToKanji text = .ok out := by
  refine ⟨⟨?_, ?_⟩, ?_, ?_⟩
  · rintro ⟨out, hout⟩
    obtain ⟨ds, hds, hne, hle, -⟩ := numeralToKanji_eq_ok_iff.mp hout
    exact ⟨ds, spells_iff.mpr hds, hne, hle⟩
  · rintro ⟨ds, hspells, hne, hle⟩
    exact ⟨_, numeralToKanji_eq_ok_iff.mpr ⟨ds, spells_iff.mp hspells, hne, hle, rfl⟩⟩
  · intro ds out hspells hout
    obtain ⟨ds', hds', -, -, rfl⟩ := numeralToKanji_eq_ok_iff.mp hout
    obtain rfl : ds' = ds := Option.some.inj (hds'.symm.trans (spells_iff.mp hspells))
    have hdigits : decimalDigits (decimalValue ds') = withoutLeadingZeros ds' :=
      decimalDigits_decimalValue fun d hd => lt_of_mem_digitValues hds' hd
    refine ⟨by rw [hdigits], ?_⟩
    rw [readKanji_map_kanjiDigit fun d hd => lt_of_mem_decimalDigits hd, hdigits,
      decimalValue_withoutLeadingZeros]
  · intro direction out
    rw [numeralToKanji_eq_ok_iff, numeralToKanji_eq_ok_iff, digitValues_strip_convertWidth]

/-- 三つの文字体系の数字が空白に囲まれていても、漢数字になる。先頭の零は消える。 -/
theorem numeralToKanji_spells_mixed :
    Spells "　0０٣४ ".toList [0, 0, 3, 4] ∧
      numeralToKanji "　0０٣४ ".toList = .ok "三四".toList ∧
      readKanji "三四".toList = some (decimalValue [0, 0, 3, 4]) ∧
      numeralToKanji (convertWidth .numbers .fullwidth "　0０٣४ ".toList) = .ok "三四".toList := by
  have hspells : Spells "　0０٣४ ".toList [0, 0, 3, 4] := by
    show Spells (['　'] ++ "0０٣४".toList ++ [' ']) [0, 0, 3, 4]
    exact .intro (by simp; decide) (by simp; decide)
      (.cons (by decide) (.cons (by decide) (.cons (by decide) (.cons (by decide) .nil))))
  obtain ⟨hiff, hread, hwidth⟩ := numeralToKanji_spells "　0０٣४ ".toList
  obtain ⟨out, hout⟩ := hiff.mpr ⟨_, hspells, by decide, by decide⟩
  obtain ⟨hglyphs, hvalue⟩ := hread _ _ hspells hout
  have hkanji : out = "三四".toList := hglyphs.trans (by decide)
  rw [hkanji] at hout hvalue
  exact ⟨hspells, hout, hvalue, (hwidth .fullwidth _).mpr hout⟩

end Tategaki
