import Mathlib.Data.List.Infix
import Tategaki.Proofs.Unicode.Blank
import Tategaki.Text.Basic

/-!
# 区切りで切る

区切りで切った切れ端には区切りが現れず、間に区切りを挟んでつなぎ直すと元に戻る（`Text.Splits`）。`Text.splitOn` は、
空でない区切りについて、そのように切る（`Text.splits_splitOn`）。

区切りが一文字なら、切り方は標準の `List.splitOnP` と同じである（`Text.splitOn_singleton`）。
-/

namespace Tategaki.Text

variable {sep s : Text} {pieces : List Text}

/-- 文字列を、区切り `sep` の現れるところで切ると、切れ端の列になる。切れ端に区切りは現れない。 -/
inductive Splits (sep : Text) : Text → List Text → Prop
  | last {s : Text} (h : ¬ sep <:+: s) : Splits sep s [s]
  | cut {piece rest : Text} {pieces : List Text} (h : ¬ sep <:+: piece)
      (hr : Splits sep rest pieces) : Splits sep (piece ++ (sep ++ rest)) (piece :: pieces)

/-- どの位置からも区切りが始まらなければ、区切りは現れない。後ろに何が続いていてもよい。 -/
theorem not_isInfix_of_drop (hsep : sep ≠ []) {w tail : Text}
    (h : ∀ i < w.length, ¬ sep <+: (w ++ tail).drop i) : ¬ sep <:+: w := by
  rintro ⟨before, after, rfl⟩
  have hpos := List.length_pos_iff.mpr hsep
  refine h before.length (by simp only [List.length_append]; omega) ⟨after ++ tail, ?_⟩
  rw [List.append_assoc, List.append_assoc, List.drop_left]

/-- 読みかけの一片から区切りが始まらなければ、残りも正しく切れる。 -/
theorem splits_go (hsep : sep ≠ []) (fuel : Nat) : ∀ (piece s : Text), s.length ≤ fuel →
    (∀ i < piece.length, ¬ sep <+: (piece.reverse ++ s).drop i) →
    Splits sep (piece.reverse ++ s) (splitOn.go sep fuel piece s) := by
  have hdone : ∀ piece : Text, (∀ i < piece.length, ¬ sep <+: (piece.reverse ++ []).drop i) →
      Splits sep (piece.reverse ++ []) [piece.reverse ++ []] := by
    intro piece h
    have hpiece : ¬ sep <:+: piece.reverse :=
      not_isInfix_of_drop hsep fun i hi => h i (by simpa using hi)
    rw [List.append_nil]
    exact .last hpiece
  induction fuel with
  | zero =>
    intro piece s hlength h
    rw [List.length_eq_zero_iff.mp (Nat.le_zero.mp hlength)] at h ⊢
    exact hdone piece h
  | succ fuel ih =>
    intro piece s hlength h
    cases s with
    | nil =>
      rw [splitOn.go]
      simpa using hdone piece h
    | cons c s =>
      rw [splitOn.go]
      split
      · next rest heq =>
        have hs := dropLead?_eq_some_iff.mp heq
        have hpos := List.length_pos_iff.mpr hsep
        rw [hs] at h ⊢
        rw [hs, List.length_append] at hlength
        have hpiece : ¬ sep <:+: piece.reverse :=
          not_isInfix_of_drop hsep fun i hi => h i (by simpa using hi)
        exact .cut hpiece (ih [] rest (by omega) (by simp))
      · next hnone =>
        -- 一字読み足しても、その字から区切りは始まらない
        have hfirst : ¬ sep <+: c :: s := by
          rintro ⟨rest, hrest⟩
          rw [dropLead?_eq_some_iff.mpr hrest.symm] at hnone
          cases hnone
        have hread := ih (c :: piece) s (Nat.le_of_succ_le_succ hlength)
        rw [List.reverse_cons, List.append_assoc, List.singleton_append] at hread
        refine hread fun i hi => ?_
        rcases Nat.lt_succ_iff_lt_or_eq.mp hi with hlt | rfl
        · exact h i hlt
        · rw [← List.length_reverse, List.drop_left]
          exact hfirst

/-- **空でない区切りで切ると、切れ端に区切りは残らない。** -/
theorem splits_splitOn (hsep : sep ≠ []) (s : Text) : Splits sep s (splitOn sep s) :=
  splits_go hsep s.length [] s (Nat.le_refl _) (by simp)

theorem Splits.not_isInfix (h : Splits sep s pieces) : ∀ piece ∈ pieces, ¬ sep <:+: piece := by
  induction h with
  | last h => simpa using h
  | cut h _ ih => exact List.forall_mem_cons.mpr ⟨h, ih⟩

/-- 切れ端は、元の文字列の一続きである。 -/
theorem Splits.isInfix (h : Splits sep s pieces) : ∀ piece ∈ pieces, piece <:+: s := by
  induction h with
  | last h => simp
  | @cut piece rest pieces h _ ih =>
    refine List.forall_mem_cons.mpr ⟨(List.prefix_append _ _).isInfix, fun other hother => ?_⟩
    rw [← List.append_assoc]
    exact (ih other hother).trans (List.suffix_append _ _).isInfix

/-! ## 一文字の区切り -/

/-- **一文字の区切りでは、その字で切る。** -/
theorem splitOn_singleton (c : Char) (s : Text) : splitOn [c] s = s.splitOnP (· == c) := by
  have hlacks : ∀ {piece : Text}, ¬ [c] <:+: piece → ∀ d ∈ piece, (d == c) = false := by
    intro piece h d hd
    refine beq_eq_false_iff_ne.mpr ?_
    rintro rfl
    exact h ((List.singleton_infix_iff d piece).mpr hd)
  have h := splits_splitOn (List.cons_ne_nil c []) s
  generalize splitOn [c] s = pieces at h ⊢
  induction h with
  | last h => exact (List.splitOnP_eq_singleton (hlacks h)).symm
  | cut h _ ih =>
    rw [List.singleton_append,
      List.splitOnP_append_cons_of_forall_mem (hlacks h) c (beq_self_eq_true c), ih]

end Tategaki.Text
