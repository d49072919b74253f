import Tategaki.Proofs.Text.Split
import Tategaki.Step.Run

/-!
# 区切りで分ける段

区切りで分けると、空でなく、端に空白がなく、どの区切りも含まない部品ができる（`IsPart`）。部品は元の文字列の中に順に
並び、その前後と間で捨てたのは、空白と、区切りの全体だけである（`Parted`）。

切るたびに、端の空白を落とし、空のものを除く（`trimmedParts`）。落とした後で切っても、落とさずに切ってから落としても
結果は変わらない（`trimmedParts_flatMap`）。だから、一文字の区切りで順に分けることは、それらの字のところで一度に切ることと
同じであり（`splitParts_chars`）、区切りの順や重なりによらない。
-/

namespace Tategaki

open Unicode

/-! ## 端の空白を落とした切れ端 -/

/-- 端の空白を落とし、空になったものを除く。 -/
def trimmedParts (pieces : List Text) : List Text := (pieces.map strip).filter (!·.isEmpty)

@[simp] theorem trimmedParts_nil : trimmedParts [] = [] := rfl

@[simp] theorem trimmedParts_append (a b : List Text) :
    trimmedParts (a ++ b) = trimmedParts a ++ trimmedParts b := by
  rw [trimmedParts, List.map_append, List.filter_append]
  rfl

theorem trimmedParts_cons (piece : Text) (pieces : List Text) :
    trimmedParts (piece :: pieces) = trimmedParts [piece] ++ trimmedParts pieces :=
  trimmedParts_append [piece] pieces

theorem trimmedParts_singleton (piece : Text) :
    trimmedParts [piece] = if strip piece = [] then [] else [strip piece] := by
  unfold trimmedParts
  split <;> simp [*]

/-- 端の空白の違いは、結果に現れない。 -/
theorem trimmedParts_cons_congr {piece piece' : Text} (h : strip piece = strip piece')
    (pieces : List Text) : trimmedParts (piece :: pieces) = trimmedParts (piece' :: pieces) := by
  rw [trimmedParts_cons, trimmedParts_cons piece', trimmedParts_singleton, h,
    ← trimmedParts_singleton]

theorem mem_trimmedParts_iff {pieces : List Text} {part : Text} :
    part ∈ trimmedParts pieces ↔ part ≠ [] ∧ ∃ piece ∈ pieces, strip piece = part := by
  simp [trimmedParts, and_comm]

theorem trimmedParts_eq_self {parts : List Text}
    (h : ∀ part ∈ parts, part ≠ [] ∧ IsTrimmed part) : trimmedParts parts = parts := by
  have hmap : parts.map strip = parts :=
    (List.map_congr_left fun part hpart => strip_of_isTrimmed (h part hpart).2).trans (List.map_id _)
  rw [trimmedParts, hmap, List.filter_eq_self]
  intro part hpart
  simpa using (h part hpart).1

/-- 区切りを一つ増やすと、どの部品もその区切りで切られる。 -/
theorem splitParts_append_singleton (separators : List Text) (sep text : Text) :
    splitParts (separators ++ [sep]) text
      = trimmedParts ((splitParts separators text).flatMap (Text.splitOn sep)) := by
  rw [splitParts, List.foldl_append, List.foldl_cons, List.foldl_nil, trimmedParts,
    List.map_flatMap]
  rfl

/-! ## 部品 -/

/-- 区切りで分けた部品として正しい。 -/
structure IsPart (separators : List Text) (part : Text) : Prop where
  ne_nil : part ≠ []
  trimmed : IsTrimmed part
  lacks : ∀ sep ∈ separators, ¬ sep <:+: part

/-- 落とした残りは、元の文字列の一続きである。 -/
theorem isInfix_strip (s : Text) : strip s <:+: s := by
  obtain ⟨lead, trail, hs, -, -⟩ := exists_strip s
  exact ⟨lead, trail, hs.symm⟩

/-- 部品は、どの区切りも含まない。先の区切りを含まないものを切っても、それは現れない。 -/
theorem lacks_of_mem_splitParts {separators : List Text} (hsep : ∀ sep ∈ separators, sep ≠ [])
    {text part : Text} (h : part ∈ splitParts separators text) :
    ∀ sep ∈ separators, ¬ sep <:+: part := by
  induction separators using List.reverseRecOn generalizing part with
  | nil => simp
  | append_singleton separators last ih =>
    rw [splitParts_append_singleton] at h
    obtain ⟨-, piece, hpiece, rfl⟩ := mem_trimmedParts_iff.mp h
    obtain ⟨whole, hwhole, hpiece⟩ := List.mem_flatMap.mp hpiece
    have hsplits := Text.splits_splitOn (hsep last (by simp)) whole
    intro sep hs
    rcases List.mem_append.mp hs with hs | hs
    · have hlacks := ih (fun sep hs => hsep sep (List.mem_append_left _ hs)) hwhole sep hs
      exact fun hin => hlacks ((hin.trans (isInfix_strip piece)).trans (hsplits.isInfix piece hpiece))
    · rw [List.mem_singleton.mp hs]
      exact fun hin => hsplits.not_isInfix piece hpiece (hin.trans (isInfix_strip piece))

theorem isPart_of_mem_splitParts {separators : List Text} (hne : separators ≠ [])
    (hsep : ∀ sep ∈ separators, sep ≠ []) {text part : Text}
    (h : part ∈ splitParts separators text) : IsPart separators part := by
  have hlacks := lacks_of_mem_splitParts hsep h
  obtain ⟨before, last, rfl⟩ := (List.eq_nil_or_concat separators).resolve_left hne
  rw [List.concat_eq_append, splitParts_append_singleton] at h
  obtain ⟨hpart, piece, -, rfl⟩ := mem_trimmedParts_iff.mp h
  exact ⟨hpart, isTrimmed_strip piece, hlacks⟩

/-! ## 部品の並び -/

/-- 空白と、区切りの全体だけからなる文字列。 -/
inductive Waste (separators : List Text) : Text → Prop
  | nil : Waste separators []
  | blank {c : Char} {rest : Text} (hc : isBlank c = true) (h : Waste separators rest) :
      Waste separators (c :: rest)
  | separator {sep rest : Text} (hm : sep ∈ separators) (h : Waste separators rest) :
      Waste separators (sep ++ rest)

/-- 文字列は、部品を順に並べ、その前後と間に、捨てた文字列を挟んだものである。 -/
inductive Parted (separators : List Text) : Text → List Text → Prop
  | last {gap : Text} (hg : Waste separators gap) : Parted separators gap []
  | part {gap part rest : Text} {parts : List Text} (hg : Waste separators gap)
      (h : Parted separators rest parts) : Parted separators (gap ++ (part ++ rest)) (part :: parts)

section Parted

variable {separators others : List Text} {s t : Text} {parts parts' : List Text}

theorem Waste.append (hs : Waste separators s) (ht : Waste separators t) :
    Waste separators (s ++ t) := by
  induction hs with
  | nil => exact ht
  | blank hc _ ih => exact .blank hc ih
  | separator hm _ ih =>
    rw [List.append_assoc]
    exact .separator hm ih

theorem waste_of_blank (h : ∀ c ∈ s, isBlank c = true) : Waste separators s := by
  induction s with
  | nil => exact .nil
  | cons c s ih =>
    exact .blank (h c List.mem_cons_self) (ih fun d hd => h d (List.mem_cons_of_mem c hd))

theorem Waste.mono (hsub : separators ⊆ others) (h : Waste separators s) : Waste others s := by
  induction h with
  | nil => exact .nil
  | blank hc _ ih => exact .blank hc ih
  | separator hm _ ih => exact .separator (hsub hm) ih

theorem Parted.mono (hsub : separators ⊆ others) (h : Parted separators s parts) :
    Parted others s parts := by
  induction h with
  | last hg => exact .last (hg.mono hsub)
  | part hg _ ih => exact .part (hg.mono hsub) ih

/-- 前に捨てた文字列を加える。 -/
theorem Parted.prepend (hs : Waste separators s) (h : Parted separators t parts) :
    Parted separators (s ++ t) parts := by
  cases h with
  | last hg => exact .last (hs.append hg)
  | part hg h =>
    rw [← List.append_assoc]
    exact .part (hs.append hg) h

theorem Parted.append (h : Parted separators s parts) (h' : Parted separators t parts') :
    Parted separators (s ++ t) (parts ++ parts') := by
  induction h with
  | last hg => exact h'.prepend hg
  | part hg _ ih =>
    rw [List.append_assoc, List.append_assoc]
    exact .part hg ih

theorem parted_singleton (separators : List Text) (s : Text) : Parted separators s [s] := by
  have h : Parted separators ([] ++ (s ++ [])) [s] := .part .nil (.last .nil)
  rwa [List.nil_append, List.append_nil] at h

/-- 端の空白は捨てたものである。 -/
theorem parted_trimmedParts (separators : List Text) (s : Text) :
    Parted separators s (trimmedParts [s]) := by
  obtain ⟨lead, trail, hs, hlead, htrail⟩ := exists_strip s
  rw [trimmedParts_singleton]
  split
  · next hnil =>
    rw [hs, hnil, List.append_nil]
    exact .last ((waste_of_blank hlead).append (waste_of_blank htrail))
  · have h : Parted separators (lead ++ (strip s ++ trail)) [strip s] :=
      .part (waste_of_blank hlead) (.last (waste_of_blank htrail))
    rwa [← List.append_assoc, ← hs] at h

/-- 区切りで切った切れ端の、端の空白を落とす。 -/
theorem parted_of_splits {sep : Text} (hm : sep ∈ separators) {pieces : List Text}
    (h : Text.Splits sep s pieces) : Parted separators s (trimmedParts pieces) := by
  induction h with
  | last _ => exact parted_trimmedParts separators _
  | cut _ _ ih =>
    rw [trimmedParts_cons]
    have hgap : Waste separators (sep ++ []) := .separator hm .nil
    rw [List.append_nil] at hgap
    exact (parted_trimmedParts separators _).append (ih.prepend hgap)

/-- 部品をさらに分ける。 -/
theorem Parted.flatMap {f : Text → List Text} (h : Parted separators s parts)
    (hf : ∀ part ∈ parts, Parted separators part (f part)) :
    Parted separators s (parts.flatMap f) := by
  induction h with
  | last hg => exact .last hg
  | part hg _ ih =>
    rw [List.flatMap_cons]
    refine .prepend hg (.append (hf _ List.mem_cons_self) (ih fun part hpart => ?_))
    exact hf part (List.mem_cons_of_mem _ hpart)

end Parted

/-- **部品は順に並び、捨てたのは空白と区切りだけである。** -/
theorem parted_splitParts {separators : List Text} (hsep : ∀ sep ∈ separators, sep ≠ [])
    (text : Text) : Parted separators text (splitParts separators text) := by
  induction separators using List.reverseRecOn with
  | nil => exact parted_singleton [] text
  | append_singleton separators last ih =>
    have hparts := (ih fun sep hs => hsep sep (List.mem_append_left _ hs)).mono
      (List.subset_append_left separators [last])
    have hmap : splitParts (separators ++ [last]) text
        = (splitParts separators text).flatMap fun part => trimmedParts (Text.splitOn last part) := by
      rw [splitParts_append_singleton]
      simp only [trimmedParts, List.map_flatMap, List.filter_flatMap]
    rw [hmap]
    exact hparts.flatMap fun part _ =>
      parted_of_splits (by simp) (Text.splits_splitOn (hsep last (by simp)) part)

/-! ## 一文字の区切り -/

section Chars

variable {p : Char → Bool}

/-- 切り離されない字を後ろに足すと、最後の切れ端が伸びる。 -/
theorem exists_splitOnP_concat {c : Char} (hc : p c = false) (s : Text) :
    ∃ before last, s.splitOnP p = before ++ [last] ∧
      (s ++ [c]).splitOnP p = before ++ [last ++ [c]] := by
  induction s with
  | nil => exact ⟨[], [], rfl, by simp [List.splitOnP_cons_eq_if_modifyHead, hc]⟩
  | cons d s ih =>
    obtain ⟨before, last, hs, hsc⟩ := ih
    rw [List.cons_append, List.splitOnP_cons_eq_if_modifyHead, List.splitOnP_cons_eq_if_modifyHead,
      hs, hsc]
    split
    · exact ⟨[] :: before, last, rfl, rfl⟩
    · cases before with
      | nil => exact ⟨[], d :: last, rfl, rfl⟩
      | cons first before => exact ⟨(d :: first) :: before, last, rfl, rfl⟩

/-- 前に足した空白は、切ってから落としても同じである。 -/
theorem trimmedParts_splitOnP_blank_append {lead : Text} (h : ∀ c ∈ lead, isBlank c = true)
    (s : Text) : trimmedParts ((lead ++ s).splitOnP p) = trimmedParts (s.splitOnP p) := by
  induction lead with
  | nil => rfl
  | cons c lead ih =>
    have hlead : ∀ d ∈ [c], isBlank d = true := by simpa using h c List.mem_cons_self
    rw [← ih fun d hd => h d (List.mem_cons_of_mem c hd), List.cons_append,
      List.splitOnP_cons_eq_if_modifyHead]
    split
    · rw [trimmedParts_cons, trimmedParts_singleton]
      rfl
    · obtain ⟨first, pieces, hpieces⟩ :=
        List.exists_cons_of_ne_nil (List.splitOnP_ne_nil p (lead ++ s))
      rw [hpieces]
      exact trimmedParts_cons_congr (strip_blank_append hlead first) pieces

/-- 後ろに足した空白は、切ってから落としても同じである。 -/
theorem trimmedParts_splitOnP_append_blank {trail : Text} (h : ∀ c ∈ trail, isBlank c = true) :
    ∀ s : Text, trimmedParts ((s ++ trail).splitOnP p) = trimmedParts (s.splitOnP p) := by
  induction trail with
  | nil => simp
  | cons c trail ih =>
    intro s
    have htrail : ∀ d ∈ trail, isBlank d = true := fun d hd => h d (List.mem_cons_of_mem c hd)
    by_cases hc : p c = true
    · have hnil := trimmedParts_splitOnP_blank_append (p := p) htrail []
      rw [List.append_nil] at hnil
      rw [List.splitOnP_append_cons _ _ hc, trimmedParts_append, hnil]
      exact List.append_nil _
    · obtain ⟨before, last, hs, hsc⟩ := exists_splitOnP_concat (Bool.eq_false_iff.mpr hc) s
      have hstrip : strip (last ++ [c]) = strip last :=
        strip_append_blank (by simpa using h c List.mem_cons_self) last
      rw [List.append_cons, ih htrail, hs, hsc, trimmedParts_append, trimmedParts_append,
        trimmedParts_cons_congr hstrip]

/-- **端の空白は、切る前に落としても、切ってから落としても同じである。** -/
theorem trimmedParts_splitOnP_strip (s : Text) :
    trimmedParts ((strip s).splitOnP p) = trimmedParts (s.splitOnP p) := by
  obtain ⟨lead, trail, hs, hlead, htrail⟩ := exists_strip s
  have h := trimmedParts_splitOnP_append_blank (p := p) htrail (lead ++ strip s)
  rw [← hs, trimmedParts_splitOnP_blank_append hlead] at h
  exact h.symm

/-- 落としてから切っても、落とさずに切っても、最後に落とせば同じである。 -/
theorem trimmedParts_flatMap (pieces : List Text) :
    trimmedParts ((trimmedParts pieces).flatMap (·.splitOnP p))
      = trimmedParts (pieces.flatMap (·.splitOnP p)) := by
  induction pieces with
  | nil => rfl
  | cons piece pieces ih =>
    rw [trimmedParts_cons, List.flatMap_append, trimmedParts_append, ih, List.flatMap_cons,
      trimmedParts_append, ← trimmedParts_splitOnP_strip piece, trimmedParts_singleton]
    split
    · next hnil =>
      rw [hnil]
      rfl
    · rw [List.flatMap_singleton]

/-- どちらかの字のところで切ることは、順に切ることである。 -/
theorem splitOnP_or (p q : Char → Bool) (s : Text) :
    s.splitOnP (fun c => p c || q c) = (s.splitOnP p).flatMap (·.splitOnP q) := by
  induction s with
  | nil => rfl
  | cons c s ih =>
    obtain ⟨first, pieces, hpieces⟩ := List.exists_cons_of_ne_nil (List.splitOnP_ne_nil p s)
    obtain ⟨head, tail, hfirst⟩ := List.exists_cons_of_ne_nil (List.splitOnP_ne_nil q first)
    rw [List.splitOnP_cons_eq_if_modifyHead, List.splitOnP_cons_eq_if_modifyHead, ih, hpieces]
    by_cases hp : p c = true
    · simp [hp]
    · by_cases hq : q c = true
      · simp [hp, hq, List.splitOnP_cons_eq_if_modifyHead]
      · simp [hp, hq, List.splitOnP_cons_eq_if_modifyHead, hfirst]

/-- **一文字の区切りで順に分けることは、それらの字のところで一度に切ることである。** -/
theorem splitParts_chars {cs : List Char} (hne : cs ≠ []) (text : Text) :
    splitParts (cs.map fun c => [c]) text = trimmedParts (text.splitOnP cs.contains) := by
  have hsplit : ∀ (c : Char) (parts : List Text),
      parts.flatMap (Text.splitOn [c]) = parts.flatMap (·.splitOnP (· == c)) := fun c parts =>
    List.flatMap_congr fun part _ => Text.splitOn_singleton c part
  induction cs using List.reverseRecOn with
  | nil => exact absurd rfl hne
  | append_singleton cs c ih =>
    have hor : (cs ++ [c]).contains = fun d => cs.contains d || d == c := by
      funext d
      simp [beq_eq_decide]
    rw [List.map_append, List.map_singleton, splitParts_append_singleton, hsplit, hor, splitOnP_or]
    by_cases hcs : cs = []
    · subst hcs
      rw [List.splitOnP_eq_singleton (by simp)]
      rfl
    · rw [ih hcs, trimmedParts_flatMap]

/-- 長さ一の区切りは、一文字の並びである。 -/
theorem exists_chars {separators : List Text} (h : ∀ sep ∈ separators, sep.length = 1) :
    ∃ cs : List Char, separators = cs.map fun c => [c] := by
  induction separators with
  | nil => exact ⟨[], rfl⟩
  | cons sep separators ih =>
    obtain ⟨cs, rfl⟩ := ih fun sep hs => h sep (List.mem_cons_of_mem _ hs)
    obtain ⟨c, rfl⟩ := List.length_eq_one_iff.mp (h sep List.mem_cons_self)
    exact ⟨c :: cs, rfl⟩

/-- 一文字の区切りは、順を変えても、重ねても、結果を変えない。 -/
theorem splitParts_reordered {separators others : List Text}
    (hchars : ∀ sep ∈ separators, sep.length = 1)
    (hsame : ∀ sep, sep ∈ others ↔ sep ∈ separators) (text : Text) :
    splitParts others text = splitParts separators text := by
  obtain ⟨cs, rfl⟩ := exists_chars hchars
  obtain ⟨cs', rfl⟩ := exists_chars fun sep hs => hchars sep ((hsame sep).mp hs)
  have hmem : ∀ c, c ∈ cs' ↔ c ∈ cs := fun c => by simpa using hsame [c]
  have hcontains : cs'.contains = cs.contains := by
    funext c
    rw [Bool.eq_iff_iff, List.contains_iff_mem, List.contains_iff_mem, hmem]
  by_cases hne : cs = []
  · have hnone : cs' = [] := List.eq_nil_iff_forall_not_mem.mpr fun c hc => by
      simpa [hne] using (hmem c).mp hc
    rw [hne, hnone]
  · obtain ⟨c, hc⟩ := List.exists_mem_of_ne_nil cs hne
    rw [splitParts_chars hne, splitParts_chars (List.ne_nil_of_mem ((hmem c).mpr hc)), hcontains]

/-- 一文字の区切りを挟んでつなぎ、もう一度分けても、部品は変わらない。 -/
theorem splitParts_join (c : Char) (text : Text) :
    splitParts [[c]] (Text.join [c] (splitParts [[c]] text)) = splitParts [[c]] text := by
  have hchars : ∀ s, splitParts [[c]] s = trimmedParts (List.splitOn c s) := by
    intro s
    have hone := splitParts_append_singleton [] [c] s
    rwa [show splitParts [] s = [s] from rfl, List.flatMap_singleton, Text.splitOn_singleton] at hone
  have hparts : ∀ part ∈ splitParts [[c]] text, IsPart [[c]] part := fun part hpart =>
    isPart_of_mem_splitParts (by simp) (by simp) hpart
  generalize splitParts [[c]] text = parts at hparts ⊢
  rw [hchars]
  by_cases hnil : parts = []
  · subst hnil
    rfl
  · have hlacks : ∀ part ∈ parts, c ∉ part := fun part hpart hc =>
      (hparts part hpart).lacks [c] List.mem_cons_self ((List.singleton_infix_iff c part).mpr hc)
    rw [Text.join, List.splitOn_intercalate c hlacks hnil]
    exact trimmedParts_eq_self fun part hpart =>
      ⟨(hparts part hpart).ne_nil, (hparts part hpart).trimmed⟩

end Chars

/-! ## 分けた結果 -/

/--
**区切りで分けた部品は、元の文字列の中に順に並び、前後と間には空白と区切りしかない。**

部品は空でなく、端に空白がなく、どの区切りも含まない。区切りがどれも一文字なら、その順や重なりは結果を変えない。
一文字の区切り一つで分けた部品は、それを挟んでつなぎ、もう一度分けても変わらない。
-/
theorem splitParts_divides {separators : List Text} (hne : separators ≠ [])
    (hsep : ∀ sep ∈ separators, sep ≠ []) (text : Text) :
    (∀ part ∈ splitParts separators text, IsPart separators part) ∧
    Parted separators text (splitParts separators text) ∧
    (∀ others, (∀ sep ∈ separators, sep.length = 1) →
      (∀ sep, sep ∈ others ↔ sep ∈ separators) →
      splitParts others text = splitParts separators text) ∧
    ∀ c, separators = [[c]] → ∃ joined,
      joinParts none [c] (splitParts separators text) = .ok joined ∧
        splitParts separators joined = splitParts separators text := by
  refine ⟨fun part => isPart_of_mem_splitParts hne hsep, parted_splitParts hsep text,
    fun others hchars hsame => splitParts_reordered hchars hsame text, ?_⟩
  rintro c rfl
  exact ⟨_, rfl, splitParts_join c text⟩

/-- 重なり合う区切りと、一文字の区切り（空白でもよい）で分ける。 -/
theorem splitParts_divides_overlapping :
    splitParts ["ab".toList, "b、".toList] " x ab、 y b、z".toList
        = ["x".toList, "、 y".toList, "z".toList] ∧
      (∀ part ∈ ["x".toList, "、 y".toList, "z".toList],
        IsPart ["ab".toList, "b、".toList] part) ∧
      Parted ["ab".toList, "b、".toList] " x ab、 y b、z".toList
        ["x".toList, "、 y".toList, "z".toList] ∧
      splitParts [[' '], ['、'], [' ']] "、a b 、c".toList
        = splitParts [['、'], [' ']] "、a b 、c".toList ∧
      splitParts [['、']] "a、 b、、c".toList = ["a".toList, "b".toList, "c".toList] ∧
      splitParts [['、']] "a、b、c".toList = ["a".toList, "b".toList, "c".toList] := by
  have hparts : splitParts ["ab".toList, "b、".toList] " x ab、 y b、z".toList
      = ["x".toList, "、 y".toList, "z".toList] := by decide +kernel
  have hone : splitParts [['、']] "a、 b、、c".toList = ["a".toList, "b".toList, "c".toList] := by
    decide +kernel
  have hsep : ∀ sep ∈ ["ab".toList, "b、".toList], sep ≠ [] := by decide
  have hsep' : ∀ sep ∈ [['、'], [' ']], sep ≠ [] := by decide
  have hsep'' : ∀ sep ∈ [['、']], sep ≠ [] := by decide
  obtain ⟨hpart, hparted, -⟩ := splitParts_divides (by decide) hsep " x ab、 y b、z".toList
  obtain ⟨-, -, hsame, -⟩ := splitParts_divides (by decide) hsep' "、a b 、c".toList
  obtain ⟨-, -, -, hjoin⟩ := splitParts_divides (by decide) hsep'' "a、 b、、c".toList
  obtain ⟨joined, hjoined, hagain⟩ := hjoin '、' rfl
  rw [hparts] at hpart hparted
  rw [hone] at hjoined hagain
  cases hjoined
  have hmem : ∀ sep, sep ∈ [[' '], ['、'], [' ']] ↔ sep ∈ [['、'], [' ']] := by
    intro sep
    simp only [List.mem_cons, List.not_mem_nil, or_false]
    rw [or_left_comm, or_self]
  exact ⟨hparts, hpart, hparted, hsame _ (by decide) hmem, hone, hagain⟩

end Tategaki
