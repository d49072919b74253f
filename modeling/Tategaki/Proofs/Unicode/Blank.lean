import Tategaki.Unicode.Blank
import Tategaki.Unicode.Digit

/-!
# 空白と行

両端の空白を落とした文字列は、空白だけなら空であり、そうでなければ空白でない文字で始まる（`strip_cases`）。落ちるのは
両端の空白だけで（`exists_strip`）、端に空白がなければ何も落ちない（`strip_of_isTrimmed`）。

行に分けても、行末の文字のほかは失われない（`mem_lines_iff`）。行末の文字は空白なので、空白でない文字のある
文字列には、空白だけでない行がある（`exists_line_of_strip_ne_nil`）。
-/

namespace Tategaki.Unicode

/-- 印付けの空白は空白である。 -/
theorem isBlank_of_isAsciiBlank {c : Char} (h : isAsciiBlank c = true) : isBlank c = true := by
  simp only [isAsciiBlank, Bool.or_eq_true, beq_iff_eq] at h
  rcases h with (((rfl | rfl) | rfl) | rfl) | rfl <;> decide

/-- 行末の文字は空白である。 -/
theorem isBlank_of_isLineEnd {c : Char} (h : isLineEnd c = true) : isBlank c = true := by
  simp only [isLineEnd, isBlank, Bool.or_eq_true, Bool.and_eq_true, decide_eq_true_eq,
    beq_iff_eq] at h ⊢
  omega

/-- 十進数字は空白でない。 -/
theorem isBlank_of_isDecimal {c : Char} (h : isDecimal c = true) : isBlank c = false := by
  have hall : ∀ z ∈ digitZeros, ∀ i < 10, isBlank (Char.ofNat (z + i)) = false := by
    decide +kernel
  unfold isDecimal digitValue at h
  rw [Option.isSome_map] at h
  obtain ⟨z, hz⟩ := Option.isSome_iff_exists.mp h
  have hrange := List.find?_some hz
  simp only [Bool.and_eq_true, decide_eq_true_eq] at hrange
  have hblank := hall z (List.mem_of_find?_eq_some hz) (c.toNat - z) (by omega)
  rwa [Nat.add_sub_cancel' hrange.1, Char.ofNat_toNat] at hblank

/-! ## 両端の空白 -/

theorem stripRight_subset (s : List Char) : stripRight s ⊆ s := by
  induction s with
  | nil => exact List.Subset.refl _
  | cons c rest ih =>
    cases hrest : stripRight rest with
    | nil =>
      simp only [stripRight, hrest]
      split
      · exact List.nil_subset _
      · exact List.cons_subset_cons c (List.nil_subset rest)
    | cons d kept =>
      simp only [stripRight, hrest]
      exact List.cons_subset_cons c (hrest ▸ ih)

theorem strip_subset (s : List Char) : strip s ⊆ s :=
  List.Subset.trans (stripRight_subset _) (List.dropWhile_sublist _).subset

/-- 空白でない先頭は、末尾の空白を落としても残る。 -/
theorem exists_stripRight_cons {c : Char} (hc : isBlank c = false) (rest : List Char) :
    ∃ tail, stripRight (c :: rest) = c :: tail := by
  rw [stripRight]
  split
  · rw [hc]
    exact ⟨[], rfl⟩
  · exact ⟨_, rfl⟩

/-- **両端の空白を落とした文字列は、空か、空白でない文字で始まる。** -/
theorem strip_cases (s : List Char) : (strip s = [] ∧ ∀ c ∈ s, isBlank c = true) ∨
    ∃ c tail, strip s = c :: tail ∧ isBlank c = false := by
  induction s with
  | nil => exact .inl ⟨rfl, by simp⟩
  | cons c rest ih =>
    by_cases hc : isBlank c = true
    · have hstrip : strip (c :: rest) = strip rest := by
        unfold strip stripLeft
        rw [List.dropWhile_cons_of_pos hc]
      rw [hstrip]
      refine ih.imp_left fun ⟨hnil, hall⟩ => ⟨hnil, ?_⟩
      simpa [hc] using hall
    · obtain ⟨tail, htail⟩ := exists_stripRight_cons (Bool.eq_false_iff.mpr hc) rest
      refine .inr ⟨c, tail, ?_, Bool.eq_false_iff.mpr hc⟩
      unfold strip stripLeft
      rw [List.dropWhile_cons_of_neg hc, htail]

/-- 空白でない文字があれば、両端の空白を落としても空にならない。 -/
theorem strip_ne_nil {c : Char} {s : List Char} (hc : c ∈ s) (hblank : isBlank c = false) :
    strip s ≠ [] := by
  intro hnil
  rcases strip_cases s with ⟨-, hall⟩ | ⟨d, tail, hcons, -⟩
  · rw [hall c hc] at hblank
    cases hblank
  · rw [hnil] at hcons
    cases hcons

/-- 端に空白がない。 -/
structure IsTrimmed (s : List Char) : Prop where
  head : ∀ c, s.head? = some c → isBlank c = false
  last : ∀ c, s.getLast? = some c → isBlank c = false

theorem stripRight_of_blank {s : List Char} (h : ∀ c ∈ s, isBlank c = true) :
    stripRight s = [] := by
  induction s with
  | nil => rfl
  | cons c rest ih =>
    rw [stripRight, ih fun d hd => h d (List.mem_cons_of_mem c hd)]
    exact if_pos (h c List.mem_cons_self)

theorem stripRight_append_blank {trail : List Char} (h : ∀ c ∈ trail, isBlank c = true)
    (s : List Char) : stripRight (s ++ trail) = stripRight s := by
  induction s with
  | nil => exact stripRight_of_blank h
  | cons c rest ih => rw [List.cons_append, stripRight, stripRight, ih]

/-- 先頭に足した空白は落ちる。 -/
theorem strip_blank_append {lead : List Char} (h : ∀ c ∈ lead, isBlank c = true)
    (s : List Char) : strip (lead ++ s) = strip s := by
  rw [strip, strip, stripLeft, stripLeft, List.dropWhile_append_of_pos h]

/-- 末尾に足した空白は落ちる。 -/
theorem strip_append_blank {trail : List Char} (h : ∀ c ∈ trail, isBlank c = true)
    (s : List Char) : strip (s ++ trail) = strip s := by
  rw [strip, strip, stripLeft, stripLeft, List.dropWhile_append]
  split
  · next hempty =>
    have hblank : (trail ++ []).dropWhile isBlank = [] := List.dropWhile_append_of_pos h
    rw [List.append_nil] at hblank
    rw [hblank, List.isEmpty_iff.mp hempty]
  · exact stripRight_append_blank h _

/-- 末尾から落ちるのは空白だけであり、残りは空白で終わらない。 -/
theorem exists_stripRight (s : List Char) :
    (∃ trail, s = stripRight s ++ trail ∧ ∀ c ∈ trail, isBlank c = true) ∧
      ∀ c, (stripRight s).getLast? = some c → isBlank c = false := by
  induction s with
  | nil => exact ⟨⟨[], rfl, by simp⟩, by simp [stripRight]⟩
  | cons c rest ih =>
    obtain ⟨⟨trail, hrest, htrail⟩, hlast⟩ := ih
    rw [stripRight]
    split
    · next hnil =>
      rw [hnil, List.nil_append] at hrest
      rw [hrest]
      split
      · next hc => exact ⟨⟨c :: trail, rfl, by simpa [hc] using htrail⟩, by simp⟩
      · next hc => exact ⟨⟨trail, rfl, htrail⟩, by simpa using hc⟩
    · next hne =>
      refine ⟨⟨trail, by rw [List.cons_append, ← hrest], htrail⟩, ?_⟩
      rwa [List.getLast?_cons_of_ne_nil hne]

/-- **両端の空白を落とすと、両端の空白だけが落ちる。** -/
theorem exists_strip (s : List Char) : ∃ lead trail, s = lead ++ strip s ++ trail ∧
    (∀ c ∈ lead, isBlank c = true) ∧ ∀ c ∈ trail, isBlank c = true := by
  obtain ⟨⟨trail, hright, htrail⟩, -⟩ := exists_stripRight (stripLeft s)
  refine ⟨s.takeWhile isBlank, trail, ?_, fun c hc => ?_, htrail⟩
  · rw [List.append_assoc, strip, ← hright, stripLeft, List.takeWhile_append_dropWhile]
  · exact List.all_eq_true.mp List.all_takeWhile c hc

theorem isTrimmed_strip (s : List Char) : IsTrimmed (strip s) where
  head c hc := by
    rcases strip_cases s with ⟨hnil, -⟩ | ⟨d, tail, hcons, hd⟩
    · rw [hnil] at hc
      cases hc
    · rw [hcons] at hc
      cases hc
      exact hd
  last := (exists_stripRight (stripLeft s)).2

/-- 端に空白がなければ、何も落ちない。 -/
theorem strip_of_isTrimmed {s : List Char} (h : IsTrimmed s) : strip s = s := by
  obtain ⟨lead, trail, hs, hlead, htrail⟩ := exists_strip s
  -- 落ちたものがあれば、その端の一字は空白である
  have hlead' : lead = [] := by
    cases lead with
    | nil => rfl
    | cons c lead =>
      have hc := h.head c (by rw [hs]; rfl)
      rw [hlead c List.mem_cons_self] at hc
      cases hc
  have htrail' : trail = [] := by
    rcases List.eq_nil_or_concat trail with hnil | ⟨before, c, rfl⟩
    · exact hnil
    · have hc := h.last c (by rw [hs]; simp)
      rw [htrail c (by simp)] at hc
      cases hc
  rw [hlead', htrail', List.append_nil, List.nil_append] at hs
  exact hs.symm

/-- 空白のない文字列の端に、落とす空白はない。 -/
theorem strip_eq_self {s : List Char} (h : ∀ c ∈ s, isBlank c = false) : strip s = s :=
  strip_of_isTrimmed ⟨fun c hc => h c (List.mem_of_head? hc),
    fun c hc => h c (List.mem_of_getLast? hc)⟩

/-- 空白かどうかを変えない書き換えは、両端の空白を落とすのと順を入れ替えられる。 -/
theorem strip_map {f : Char → Char} (hf : ∀ c, isBlank (f c) = isBlank c) (s : List Char) :
    strip (s.map f) = (strip s).map f := by
  have hright : ∀ s : List Char, stripRight (s.map f) = (stripRight s).map f := by
    intro s
    induction s with
    | nil => rfl
    | cons c rest ih =>
      rw [List.map_cons, stripRight, stripRight, ih]
      cases stripRight rest with
      | nil =>
        rw [List.map_nil]
        dsimp only
        rw [hf]
        split <;> rfl
      | cons d kept => rfl
  have hcomp : isBlank ∘ f = isBlank := funext hf
  rw [strip, strip, stripLeft, stripLeft, List.dropWhile_map, hcomp, hright]

/-! ## 行 -/

/-- 読みかけの行に続けて行に分けても、行末の文字のほかは失われない。 -/
theorem mem_lines_go_iff {c : Char} (current s : List Char) :
    (∃ line ∈ lines.go current s, c ∈ line) ↔ c ∈ current ∨ c ∈ s ∧ isLineEnd c = false := by
  -- 行末の後ろが空なら、次の行はない
  have hnext : ∀ current rest : List Char,
      ((∃ line ∈ lines.go [] rest, c ∈ line) ↔ c ∈ [] ∨ c ∈ rest ∧ isLineEnd c = false) →
      ((∃ line ∈ current.reverse :: (if rest.isEmpty then [] else lines.go [] rest), c ∈ line) ↔
        c ∈ current ∨ c ∈ rest ∧ isLineEnd c = false) := by
    intro current rest ih
    cases rest with
    | nil => simp
    | cons d rest =>
      simp only [List.isEmpty_cons, Bool.false_eq_true, if_false, List.mem_cons, or_and_right,
        exists_or, exists_eq_left, List.mem_reverse, List.not_mem_nil, false_or] at ih ⊢
      rw [ih]
  have hskip : ∀ {d : Char} (rest : List Char), isLineEnd d = true →
      (c ∈ d :: rest ∧ isLineEnd c = false ↔ c ∈ rest ∧ isLineEnd c = false) := by
    intro d rest hd
    constructor
    · rintro ⟨hmem, hc⟩
      rcases List.mem_cons.mp hmem with rfl | hmem
      · rw [hd] at hc
        cases hc
      · exact ⟨hmem, hc⟩
    · exact fun ⟨hmem, hc⟩ => ⟨List.mem_cons_of_mem d hmem, hc⟩
  fun_induction lines.go current s with
  | case1 current => simp
  | case2 current rest ih =>
    rw [hnext current rest ih, hskip _ (by decide), hskip _ (by decide)]
  | case3 current d rest _ hend ih => rw [hnext current rest ih, hskip _ hend]
  | case4 current d rest _ hend ih =>
    refine ih.trans ?_
    constructor
    · rintro (hmem | hmem)
      · rcases List.mem_cons.mp hmem with rfl | hmem
        · exact .inr ⟨by simp, Bool.eq_false_iff.mpr hend⟩
        · exact .inl hmem
      · exact .inr ⟨List.mem_cons_of_mem d hmem.1, hmem.2⟩
    · rintro (hmem | ⟨hmem, hc⟩)
      · exact .inl (List.mem_cons_of_mem d hmem)
      · rcases List.mem_cons.mp hmem with rfl | hmem
        · exact .inl (by simp)
        · exact .inr ⟨hmem, hc⟩

/-- **行に分けると、行末の文字だけが失われる。** -/
theorem mem_lines_iff {c : Char} (s : List Char) :
    (∃ line ∈ lines s, c ∈ line) ↔ c ∈ s ∧ isLineEnd c = false := by
  cases s with
  | nil => simp [lines]
  | cons d s =>
    show (∃ line ∈ lines.go [] (d :: s), c ∈ line) ↔ _
    rw [mem_lines_go_iff]
    simp

/-- 空白だけでない文字列には、空白だけでない行がある。 -/
theorem exists_line_of_strip_ne_nil {s : List Char} (h : strip s ≠ []) :
    ∃ line ∈ lines s, strip line ≠ [] := by
  rcases strip_cases s with ⟨hnil, -⟩ | ⟨c, tail, hcons, hc⟩
  · exact absurd hnil h
  · have hmem : c ∈ s := strip_subset s (by rw [hcons]; simp)
    have hend : isLineEnd c = false := Bool.eq_false_iff.mpr fun hend => by
      rw [isBlank_of_isLineEnd hend] at hc
      cases hc
    obtain ⟨line, hline, hcline⟩ := (mem_lines_iff s).mpr ⟨hmem, hend⟩
    exact ⟨line, hline, strip_ne_nil hcline hc⟩

end Tategaki.Unicode
