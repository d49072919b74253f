import Mathlib.Data.List.Forall2
import Tategaki.Proofs.Chapter.Verbatim
import Tategaki.Proofs.Rule.Order

/-!
# 段落の字下げ

どの地の文にも規則が合わない章を組むと、読み仮名の外のどの段落も、空白で始まる文字列を先頭に持つ（`process_opens`）。段落の
深さや、中身が何であるかにはよらない。

その空白は和字の空白である。ただし、ほかの空白で始まる段落には字下げが入らず、初めの空白がそのまま残る（`leadChar`、
`process_opens_blank`）。
-/

namespace Tategaki.Chapter

open Markup

/-! ## 段落の先頭 -/

/-- 先頭の節が空でない文字列なら、その最初の字。 -/
def opening? : Fragment → Option Char
  | .text (c :: _) _ => some c
  | _ => none

/-- 字下げを入れた段落の最初の字。空白で始まる段落では、その空白のままである。 -/
def leadChar (content : Fragment) : Char :=
  match opening? content with
  | some c => if Unicode.isBlank c then c else indentMark
  | none => indentMark

/-- 和字の空白でない空白で始まる。 -/
def StartsBlank (content : Fragment) : Prop :=
  ∃ c, opening? content = some c ∧ Unicode.isBlank c = true ∧ c ≠ indentMark

theorem leadChar_eq_indentMark_iff {content : Fragment} :
    leadChar content = indentMark ↔ ¬ StartsBlank content := by
  unfold leadChar StartsBlank
  cases opening? content with
  | none => simp
  | some c =>
    by_cases hc : Unicode.isBlank c = true
    · simp [hc]
    · simp [hc]

theorem opening?_indent (f : Fragment) : opening? (indent f) = some (leadChar f) := by
  cases f with
  | nil => rfl
  | text s rest =>
    cases s with
    | nil => rfl
    | cons c s =>
      by_cases hc : Unicode.isBlank c = true
      · simp [indent, indentText, leadChar, opening?, hc]
      · simp [indent, indentText, leadChar, opening?, hc]
  | special kind s rest => rfl
  | element name attributes content rest => rfl

theorem opening?_indented (f : Fragment) : opening? (indented f) = opening? f := by
  cases f with
  | nil => rfl
  | text s rest => cases s <;> rfl
  | special kind s rest => rfl
  | element name attributes content rest =>
    rw [indented]
    split <;> rfl

/-! ## 段落の並び -/

/-- 読み仮名の外の段落の中身。文書の順に、外の段落を先に並べる。 -/
def paragraphs : Fragment → List Fragment
  | .nil => []
  | .text _ rest => paragraphs rest
  | .special _ _ rest => paragraphs rest
  | .element name _ content rest =>
    if readingNames.contains name then paragraphs rest
    else if paragraphNames.contains name then
      content :: (paragraphs content ++ paragraphs rest)
    else paragraphs content ++ paragraphs rest

/-- 字下げを入れても、中の段落は変わらない。 -/
theorem paragraphs_indent (f : Fragment) : paragraphs (indent f) = paragraphs f := by
  cases f with
  | text s rest => cases s <;> rfl
  | _ => rfl

/-- **字下げした木のどの段落も、決まった空白で始まる。** -/
theorem opening?_paragraphs_indented (f : Fragment) :
    List.Forall₂ (fun before after => opening? after = some (leadChar before)) (paragraphs f)
      (paragraphs (indented f)) := by
  induction f with
  | nil => exact .nil
  | text s rest ih => exact ih
  | special kind s rest ih => exact ih
  | element name attributes content rest ihc ih =>
    rw [paragraphs, indented]
    split
    · next hn =>
      rw [paragraphs, if_pos hn]
      exact ih
    · next hn =>
      rw [paragraphs, if_neg hn]
      split
      · next hp =>
        -- 字下げは中身の先頭にしか触れないので、内側の段落には帰納法の仮定がそのまま使える
        have hlead : leadChar (indented content) = leadChar content := by
          rw [leadChar, leadChar, opening?_indented]
        rw [hp, indentIf, if_pos rfl, paragraphs_indent]
        refine .cons ?_ (List.rel_append ihc ih)
        rw [opening?_indent, hlead]
      · next hp =>
        rw [Bool.eq_false_iff.mpr hp, indentIf, if_neg Bool.false_ne_true]
        exact List.rel_append ihc ih

/-- ほかの空白で始まる段落がなければ、どの段落も和字の空白で始まる。 -/
theorem opening?_eq_indentMark {befores afters : List Fragment}
    (h : List.Forall₂ (fun before after => opening? after = some (leadChar before)) befores afters)
    (hplain : ∀ before ∈ befores, ¬ StartsBlank before) :
    ∀ after ∈ afters, opening? after = some indentMark := by
  induction h with
  | nil => simp
  | cons hopening _ ih =>
    obtain ⟨hfirst, hrest⟩ := List.forall_mem_cons.mp hplain
    rw [leadChar_eq_indentMark_iff.mpr hfirst] at hopening
    exact List.forall_mem_cons.mpr ⟨hopening, ih hrest⟩

/-! ## 組版 -/

section Process

variable {τ : Type} {r : Registry} {limits : Limits} {read : ReadClock τ} {ctx : Context}
  {tree : Fragment} {st : ScanState τ}

/--
**規則の合わない章を組むと、読み仮名の外のどの段落も、字下げされて和字の空白で始まる。**

ただし、ほかの空白で始まる段落は、その空白のままである。組み終わらないことがあるのは、時間か深さのためだけである。
-/
theorem process_opens (hr : r.Reachable) (hmiss : ∀ s ∈ leaves (indented tree), r.Misses s) :
    ((process (.ofRegistry r limits read) ctx tree st).error = none →
      List.Forall₂ (fun before after => opening? after = some (leadChar before)) (paragraphs tree)
          (paragraphs (process (.ofRegistry r limits read) ctx tree st).tree) ∧
        ((∀ before ∈ paragraphs tree, ¬ StartsBlank before) →
          ∀ after ∈ paragraphs (process (.ofRegistry r limits read) ctx tree st).tree,
            opening? after = some indentMark)) ∧
    (ctx.depth ≤ limits.maxDepth.value →
      (Scanner.ofRegistry r limits read).InTime ctx.startTime st.clock →
        (process (.ofRegistry r limits read) ctx tree st).error = none) := by
  have hmiss' : ∀ s ∈ leaves (indented tree), (Scanner.ofRegistry r limits read).Misses s :=
    fun s hs => Scanner.misses_ofRegistry hr.ordered (hmiss s hs) limits read
  refine ⟨fun herror => ?_, fun hdepth htime => ?_⟩
  · have hopens := opening?_paragraphs_indented tree
    rw [tree_of_misses hmiss' herror]
    exact ⟨hopens, opening?_eq_indentMark hopens⟩
  · rcases process_of_misses hdepth hmiss' st with ⟨hnone, -⟩ | ⟨e, -, -, hlate⟩
    · exact hnone
    · exact absurd htime hlate

end Process

/-- 空の段落、改行で始まる段落、字下げ済みの段落、段落の中の段落、読み仮名の中の段落のある木。 -/
def openingTree : Fragment :=
  .element "div" [] (.element "p" [] .nil
      (.element "p" [] (.element "br" [] .nil (.text "本文".toList .nil))
        (.element "p" [] (.text "　本文".toList .nil) .nil)))
    (.element "p" [] (.special .comment "本文".toList (.element "p" [] (.text [] .nil)
        (.element "rt" [] (.element "p" [] .nil .nil) .nil))) .nil)

/-- 備え付けの規則の合わない章では、どの段落も和字の空白で始まる。 -/
theorem process_opens_nested :
    (Registry.bundled {}).Reachable ∧
      (∀ s ∈ leaves (indented openingTree), (Registry.bundled {}).Misses s) ∧
      (process Scanner.bundledScanner { startTime := .int 0 } openingTree
        Scanner.freshState).error = none ∧
      (paragraphs openingTree).length = 5 ∧
      ∀ after ∈ paragraphs (process Scanner.bundledScanner { startTime := .int 0 } openingTree
        Scanner.freshState).tree, opening? after = some indentMark := by
  have hmiss : ∀ s ∈ leaves (indented openingTree), (Registry.bundled {}).Misses s := by
    decide +kernel
  have hlate : ({} : Limits).timeout.value.lt ((Number.int 0).sub (.int 0)) = false := by
    decide +kernel
  have htime : Scanner.bundledScanner.InTime (.int 0) Scanner.freshState.clock :=
    Scanner.inTime_of_still (SteadyClock.read_still 0) hlate
  have hplain : ∀ before ∈ paragraphs openingTree, ¬ StartsBlank before := by
    intro before hbefore
    rw [← leadChar_eq_indentMark_iff]
    revert before
    decide +kernel
  have hdepth : ({ startTime := .int 0 } : Context).depth ≤ ({} : Limits).maxDepth.value := by
    decide +kernel
  have herror : (process Scanner.bundledScanner { startTime := .int 0 } openingTree
      Scanner.freshState).error = none :=
    (process_opens (Registry.reachable_bundled {}) hmiss).2 hdepth htime
  exact ⟨Registry.reachable_bundled {}, hmiss, herror, by decide +kernel,
    ((process_opens (Registry.reachable_bundled {}) hmiss).1 herror).2 hplain⟩

/-- 和字でない空白で始まる段落のある木。 -/
def blankTree : Fragment := .element "p" [] (.text " 本文".toList .nil) .nil

/-- 和字でない空白で始まる段落には、字下げが入らない。 -/
theorem process_opens_blank :
    (Registry.bundled {}).Reachable ∧
      (∀ s ∈ leaves (indented blankTree), (Registry.bundled {}).Misses s) ∧
      (process Scanner.bundledScanner { startTime := .int 0 } blankTree
        Scanner.freshState).error = none ∧
      ∃ after ∈ paragraphs (process Scanner.bundledScanner { startTime := .int 0 } blankTree
        Scanner.freshState).tree, opening? after = some ' ' := by
  rw [Scanner.bundledScanner_eq]
  exact ⟨Registry.reachable_bundled {}, by decide +kernel, by decide +kernel, by decide +kernel⟩

end Tategaki.Chapter
