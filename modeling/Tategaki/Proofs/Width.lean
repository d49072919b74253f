import Tategaki.Width

/-!
# 字幅の変換の組み合わせ

文字の種類（数字・英字・記号）と幅（半角・全角）の組は六つあり、どの文字もたかだか一つの組に入る
（`WidthTarget.has_unique`）。変換で替わるのは、同じ種類で幅が逆の字だけである。替わった字は、同じ種類で求める幅の字になる
（`has_convertChar`）。この二つから、変換を続けて行ったときの法則が一文字ずつ決まり、文字列の法則になる
（`convertWidth_composes`）。

半角から全角へ替えて半角に戻すと、どの種類でも元の字になる。逆の往復は記号では成り立たない。半角の記号一つに落ちる全角の記号が
いくつもあるからである。
-/

namespace Tategaki

namespace WidthDirection

/-- 逆の幅。 -/
def opposite : WidthDirection → WidthDirection
  | fullwidth => halfwidth
  | halfwidth => fullwidth

@[simp] theorem opposite_opposite (d : WidthDirection) : d.opposite.opposite = d := by
  cases d <;> rfl

theorem ne_opposite (d : WidthDirection) : d ≠ d.opposite := by cases d <;> decide

end WidthDirection

namespace WidthTarget

/-- その種類の字で、その幅のものか。記号は、逆の幅へ替える表に載っているものをいう。 -/
def has : WidthTarget → WidthDirection → Char → Bool
  | numbers, .halfwidth => isHalfDigit
  | numbers, .fullwidth => isFullDigit
  | alphabet, .halfwidth => isHalfLetter
  | alphabet, .fullwidth => isFullLetter
  | symbols, .halfwidth => fun c => symbolWidenings.any (·.1 == c)
  | symbols, .fullwidth => fun c => symbolNarrowings.any (·.1 == c)

/-! ## 六つの組の字 -/

/-- `lo` から `hi` までの文字を並べる。 -/
def charsBetween (lo hi : Char) : Text :=
  (List.range (hi.toNat + 1 - lo.toNat)).map fun i => Char.ofNat (lo.toNat + i)

/-- その種類の、その幅の字を並べたもの。六つの組はどれも有限なので、組の字についての事実は並べて確かめられる。 -/
def chars : WidthTarget → WidthDirection → Text
  | numbers, .halfwidth => charsBetween '0' '9'
  | numbers, .fullwidth => charsBetween '０' '９'
  | alphabet, .halfwidth => charsBetween 'A' 'Z' ++ charsBetween 'a' 'z'
  | alphabet, .fullwidth => charsBetween 'Ａ' 'Ｚ' ++ charsBetween 'ａ' 'ｚ'
  | symbols, .halfwidth => symbolWidenings.map Prod.fst
  | symbols, .fullwidth => symbolNarrowings.map Prod.fst

theorem mem_charsBetween {lo hi c : Char} (h : between lo hi c = true) :
    c ∈ charsBetween lo hi := by
  simp only [between, Bool.and_eq_true, decide_eq_true_eq, Char.le_def,
    UInt32.le_iff_toNat_le] at h
  have hlo : lo.toNat ≤ c.toNat := h.1
  have hhi : c.toNat ≤ hi.toNat := h.2
  refine List.mem_map.mpr ⟨c.toNat - lo.toNat, List.mem_range.mpr (by omega), ?_⟩
  rw [Nat.add_sub_cancel' hlo, Char.ofNat_toNat]

theorem mem_charsBetween_append {lo hi lo' hi' c : Char}
    (h : (between lo hi c || between lo' hi' c) = true) :
    c ∈ charsBetween lo hi ++ charsBetween lo' hi' :=
  List.mem_append.mpr ((Bool.or_eq_true_iff.mp h).imp mem_charsBetween mem_charsBetween)

/-- 表に載っている字は、見出しの列にある。 -/
theorem mem_map_fst {table : List (Char × Char)} {c : Char}
    (h : table.any (·.1 == c) = true) : c ∈ table.map Prod.fst := by
  obtain ⟨entry, hentry, heq⟩ := List.any_eq_true.mp h
  exact List.mem_map.mpr ⟨entry, hentry, eq_of_beq heq⟩

theorem mem_chars {t : WidthTarget} {d : WidthDirection} {c : Char} (h : t.has d c = true) :
    c ∈ t.chars d := by
  cases t with
  | numbers => cases d <;> exact mem_charsBetween h
  | alphabet => cases d <;> exact mem_charsBetween_append h
  | symbols => cases d <;> exact mem_map_fst h

/-- 並べた字のすべてで調べたことは、その種類のその幅の字について成り立つ。 -/
theorem of_all_chars {t : WidthTarget} {d : WidthDirection} {p : Char → Bool} {c : Char}
    (h : (t.chars d).all p = true) (hc : t.has d c = true) : p c = true :=
  List.all_eq_true.mp h c (mem_chars hc)

/-- **どの文字も、たかだか一つの種類と幅の組に入る。** -/
theorem has_unique {t t' : WidthTarget} {d d' : WidthDirection} {c : Char}
    (h : t.has d c = true) (h' : t'.has d' c = true) : t = t' ∧ d = d' := by
  have hall : (t.chars d).all
      (fun c => !t'.has d' c || decide (t = t' ∧ d = d')) = true := by
    cases t <;> cases d <;> cases t' <;> cases d' <;> decide +kernel
  have hc := of_all_chars hall h
  rw [h'] at hc
  exact of_decide_eq_true hc

end WidthTarget

/-! ## 一文字の変換 -/

variable {t t' : WidthTarget} {d : WidthDirection} {c : Char}

/-- 見出しにない字は、表を引いてもそのままである。 -/
theorem lookUp_of_not_any {table : List (Char × Char)} (h : ¬ table.any (·.1 == c) = true) :
    lookUp table c = c := by
  have hnone : table.find? (·.1 == c) = none :=
    List.find?_eq_none.mpr fun entry hentry heq => h (List.any_eq_true.mpr ⟨entry, hentry, heq⟩)
  rw [lookUp, hnone]

/-- 種類が違うか、すでに求める幅の字なら、替わらない。 -/
theorem convertChar_of_not_has (h : ¬ t.has d.opposite c = true) : convertChar t d c = c := by
  cases t with
  | symbols => cases d <;> exact lookUp_of_not_any h
  | _ => cases d <;> exact if_neg h

/-- 替わった字は、同じ種類で求める幅の字である。 -/
theorem has_convertChar (h : t.has d.opposite c = true) :
    t.has d (convertChar t d c) = true := by
  have hall : (t.chars d.opposite).all (fun c => t.has d (convertChar t d c)) = true := by
    cases t <;> cases d <;> decide +kernel
  exact (WidthTarget.of_all_chars hall h :)

/-- 半角の字を全角に替えて戻すと、元の字になる。 -/
theorem convertChar_widened (h : t.has .halfwidth c = true) :
    convertChar t .halfwidth (convertChar t .fullwidth c) = c := by
  have hall : (t.chars .halfwidth).all
      (fun c => convertChar t .halfwidth (convertChar t .fullwidth c) == c) = true := by
    cases t <;> decide +kernel
  exact eq_of_beq (WidthTarget.of_all_chars hall h :)

/-- 全角の数字と英字は、半角に替えて戻すと元の字になる。 -/
theorem convertChar_narrowed (ht : t ≠ .symbols) (h : t.has .fullwidth c = true) :
    convertChar t .fullwidth (convertChar t .halfwidth c) = c := by
  have hall : (t.chars .fullwidth).all
      (fun c => convertChar t .fullwidth (convertChar t .halfwidth c) == c) = true := by
    cases t with
    | numbers | alphabet => decide +kernel
    | symbols => exact absurd rfl ht
  exact eq_of_beq (WidthTarget.of_all_chars hall h :)

/-! ## 一文字の変換を続ける -/

/-- 一度替えれば、もう替わる字ではない。 -/
theorem not_has_convertChar (t : WidthTarget) (d : WidthDirection) (c : Char) :
    ¬ t.has d.opposite (convertChar t d c) = true := by
  by_cases h : t.has d.opposite c = true
  · intro hback
    exact d.ne_opposite (WidthTarget.has_unique (has_convertChar h) hback).2
  · rw [convertChar_of_not_has h]
    exact h

/-- 替わらないのは、ちょうど、その種類で逆の幅の字でないときである。 -/
theorem convertChar_eq_self_iff : convertChar t d c = c ↔ ¬ t.has d.opposite c = true := by
  constructor
  · intro h
    have hafter := not_has_convertChar t d c
    rwa [h] at hafter
  · exact convertChar_of_not_has

theorem convertChar_convertChar (t : WidthTarget) (d : WidthDirection) (c : Char) :
    convertChar t d (convertChar t d c) = convertChar t d c :=
  convertChar_of_not_has (not_has_convertChar t d c)

/-- 逆の幅に替えて戻せる字ばかりなら、逆の幅への変換を先に行っても結果は変わらない。 -/
theorem convertChar_opposite
    (hback : t.has d c = true → convertChar t d (convertChar t d.opposite c) = c) :
    convertChar t d (convertChar t d.opposite c) = convertChar t d c := by
  by_cases h : t.has d c = true
  · have hstays : ¬ t.has d.opposite c = true := fun hother =>
      d.ne_opposite (WidthTarget.has_unique h hother).2
    rw [hback h, convertChar_of_not_has hstays]
  · have hstays : ¬ t.has d.opposite.opposite c = true := by
      rwa [WidthDirection.opposite_opposite]
    rw [convertChar_of_not_has hstays]

/-- ほかの種類の変換で、その種類の字になることも、その種類の字でなくなることもない。 -/
theorem has_convertChar_iff_of_ne (h : t ≠ t') (e d : WidthDirection) (c : Char) :
    t.has e (convertChar t' d c) = true ↔ t.has e c = true := by
  have hexclude : ∀ {f : WidthDirection} {x : Char}, t'.has f x = true → ¬ t.has e x = true :=
    fun hx hx' => h (WidthTarget.has_unique hx' hx).1
  by_cases hc : t'.has d.opposite c = true
  · exact iff_of_false (hexclude (has_convertChar hc)) (hexclude hc)
  · rw [convertChar_of_not_has hc]

/-- **種類の違う変換は、順を入れ替えてよい。** -/
theorem convertChar_comm (h : t ≠ t') (d d' : WidthDirection) (c : Char) :
    convertChar t d (convertChar t' d' c) = convertChar t' d' (convertChar t d c) := by
  by_cases hc : t.has d.opposite c = true
  · -- `t` の字は `t'` の変換では替わらない。`t` の変換で替わった後も同じである
    have hother : ¬ t'.has d'.opposite c = true := fun hc' =>
      h (WidthTarget.has_unique hc hc').1
    have hafter : ¬ t'.has d'.opposite (convertChar t d c) = true :=
      mt (has_convertChar_iff_of_ne h.symm _ _ _).mp hother
    rw [convertChar_of_not_has hother, convertChar_of_not_has hafter]
  · have hafter : ¬ t.has d.opposite (convertChar t' d' c) = true :=
      mt (has_convertChar_iff_of_ne h _ _ _).mp hc
    rw [convertChar_of_not_has hc, convertChar_of_not_has hafter]

/-! ## 文字列の変換を続ける -/

/-- 続けた変換は、一文字ずつ続けて変換する。 -/
theorem convertWidth_convertWidth (t t' : WidthTarget) (d d' : WidthDirection) (s : Text) :
    convertWidth t d (convertWidth t' d' s)
      = s.map fun c => convertChar t d (convertChar t' d' c) := by
  rw [convertWidth, convertWidth, List.map_map]
  rfl

/-- 全角に替えてから半角に替えるのは、半角に替えるのと同じである。 -/
theorem convertWidth_halfwidth_fullwidth (t : WidthTarget) (s : Text) :
    convertWidth t .halfwidth (convertWidth t .fullwidth s) = convertWidth t .halfwidth s := by
  rw [convertWidth_convertWidth]
  exact List.map_congr_left fun c _ => convertChar_opposite (d := .halfwidth) convertChar_widened

/--
**字幅の変換を続けて行ったときの法則。**

全角に替えてから半角に替えるのは、半角に替えるのと同じである。数字と英字では、半角と全角を入れ替えてもよい。同じ変換は
二度行っても変わらず、種類の違う変換は順を入れ替えてよい。変換は長さを変えず、その種類で逆の幅の字だけを替える。だから、
半角に替えても変わらない文字列は、全角に替えて半角に戻せば元に戻る。
-/
theorem convertWidth_composes (s : Text) :
    (∀ t, convertWidth t .halfwidth (convertWidth t .fullwidth s) = convertWidth t .halfwidth s) ∧
    (∀ t d, convertWidth t d (convertWidth t d s) = convertWidth t d s) ∧
    (∀ t, t ≠ .symbols →
      convertWidth t .fullwidth (convertWidth t .halfwidth s) = convertWidth t .fullwidth s) ∧
    (∀ t t' d d', t ≠ t' →
      convertWidth t d (convertWidth t' d' s) = convertWidth t' d' (convertWidth t d s)) ∧
    (∀ t d, (convertWidth t d s).length = s.length) ∧
    (∀ t d (i : Nat) c, s[i]? = some c →
      ((convertWidth t d s)[i]? = some c ↔ ¬ t.has d.opposite c = true)) ∧
    ∀ t, convertWidth t .halfwidth s = s →
      convertWidth t .halfwidth (convertWidth t .fullwidth s) = s := by
  refine ⟨fun t => convertWidth_halfwidth_fullwidth t s, ?_, ?_, ?_,
    fun t d => convertWidth_length t d s, ?_, ?_⟩
  · intro t d
    rw [convertWidth_convertWidth]
    exact List.map_congr_left fun c _ => convertChar_convertChar t d c
  · intro t ht
    rw [convertWidth_convertWidth]
    exact List.map_congr_left fun c _ =>
      convertChar_opposite (d := .fullwidth) (convertChar_narrowed ht)
  · intro t t' d d' hne
    rw [convertWidth_convertWidth, convertWidth_convertWidth]
    exact List.map_congr_left fun c _ => convertChar_comm hne d d' c
  · intro t d i c hc
    rw [convertWidth, List.getElem?_map, hc, Option.map_some, Option.some.injEq]
    exact convertChar_eq_self_iff
  · intro t hs
    rw [convertWidth_halfwidth_fullwidth, hs]

/-- 三つの種類の半角と全角の字が混じる文字列。波線は、半角に替えて戻すと別の字になる。 -/
theorem convertWidth_composes_mixed :
    WidthTarget.alphabet ≠ .symbols ∧
      convertWidth .alphabet .halfwidth "第1話Ａb〜!".toList = "第1話Ab〜!".toList ∧
      convertWidth .alphabet .fullwidth "第1話Ab〜!".toList = "第1話Ａｂ〜!".toList ∧
      convertWidth .alphabet .fullwidth "第1話Ａb〜!".toList = "第1話Ａｂ〜!".toList ∧
      convertWidth .symbols .halfwidth (convertWidth .alphabet .fullwidth "第1話Ａb〜!".toList)
        = convertWidth .alphabet .fullwidth "第1話Ａb~!".toList ∧
      ¬ WidthTarget.symbols.has .halfwidth '〜' = true ∧
      (convertWidth .symbols .fullwidth "第1話Ａb〜!".toList)[5]? = some '〜' ∧
      convertWidth .numbers .halfwidth "第1話Ａb〜!".toList = "第1話Ａb〜!".toList ∧
      convertWidth .numbers .halfwidth (convertWidth .numbers .fullwidth "第1話Ａb〜!".toList)
        = "第1話Ａb〜!".toList := by
  obtain ⟨-, -, hnarrowed, hcomm, -, hkept, hback⟩ := convertWidth_composes "第1話Ａb〜!".toList
  have hletters : WidthTarget.alphabet ≠ .symbols := by decide
  have hsymbols : WidthTarget.symbols ≠ .alphabet := by decide
  have hhalf : convertWidth .alphabet .halfwidth "第1話Ａb〜!".toList = "第1話Ab〜!".toList := by
    decide +kernel
  have hfull : convertWidth .alphabet .fullwidth "第1話Ab〜!".toList = "第1話Ａｂ〜!".toList := by
    decide +kernel
  have hwave : convertWidth .symbols .halfwidth "第1話Ａb〜!".toList = "第1話Ａb~!".toList := by
    decide +kernel
  have hother : ¬ WidthTarget.symbols.has .halfwidth '〜' = true := by decide +kernel
  have hdigits : convertWidth .numbers .halfwidth "第1話Ａb〜!".toList = "第1話Ａb〜!".toList := by
    decide +kernel
  have hfull' := hnarrowed _ hletters
  rw [hhalf, hfull] at hfull'
  have hswapped := hcomm _ _ .halfwidth .fullwidth hsymbols
  rw [hwave] at hswapped
  exact ⟨hletters, hhalf, hfull, hfull'.symm, hswapped, hother,
    (hkept .symbols .fullwidth 5 '〜' (by decide)).mpr hother, hdigits, hback _ hdigits⟩

-- 記号では、半角に替えてから全角に替えると、別の字になることがある。
example : convertWidth .symbols .fullwidth (convertWidth .symbols .halfwidth ['〜']) = ['～'] ∧
    convertWidth .symbols .fullwidth ['〜'] = ['〜'] := by decide +kernel

end Tategaki
