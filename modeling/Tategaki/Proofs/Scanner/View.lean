import Mathlib.Data.List.Basic
import Tategaki.Proofs.Regex.Alphabet
import Tategaki.Proofs.Scanner.Guard
import Tategaki.Proofs.Step.Certain

/-!
# 走査の前後で変わらない見かけ

文字ごとに見るものを決めると、文字列は見えるものの並びになる。規則が合ったところの見かけを変えないなら、走査も
文字列全体の見かけを変えない。組を走査し直す規則も、組の外で読む文字と書き足す文字が見えなければ、見かけを
変えない（`scan_shows`）。

規則がそうであることは、式と段を見るだけで検められる（`sheds`・`unwraps`・`relabels`）。
-/

namespace Tategaki

variable {β : Type} {view : Char → Option β}

/-! ## 規則ごとの検め -/

/-- 規則の結果の見かけは、合ったところの見かけと同じである。走査を求めたら、答えについてそうであるとする。 -/
def Rule.Shows (view : Char → Option β) (rule : Rule) : Prop :=
  ∀ (text : Text) (position : Nat) (found : Regex.Match) (answers : Text → List Node)
    (produced : List Node), rule.matchAt text.toArray position = some found →
    (∀ segment start, Reprocesses rule.definition.steps
      ⟨text, found, rule.pattern.groupCount⟩ segment start →
      (Node.contents (answers segment)).filterMap view = segment.filterMap view) →
    rule.process text found (some (recite answers)) id () = (.ok produced, ()) →
    (Node.contents produced).filterMap view
      = (Text.slice text found.start found.stop).filterMap view

/-- 見えない `letters` の文字だけからなる文字列には、何も見えない。 -/
theorem filterMap_eq_nil_of_subset {letters text : List Char}
    (hletters : letters.all (view · |>.isNone) = true) (h : text ⊆ letters) :
    text.filterMap view = [] := by
  rw [List.filterMap_eq_nil_iff]
  intro c hc
  exact Option.isNone_iff_eq_none.mp (List.all_eq_true.mp hletters c (h hc))

/-- 走査を求めず、読む文字も出す文字も見えない。 -/
def sheds (view : Char → Option β) (pattern : Regex.Pattern) (steps : List Step) : Bool :=
  pattern.expr.listable && steps.all Step.listable && pattern.expr.alphabet.all (view · |>.isNone)
    && (steps.foldl Step.image pattern.expr.alphabet).all (view · |>.isNone)

/-- 組を一つ走査し直すだけで、組の外で読む文字も書き足す文字も見えない。 -/
def unwraps (view : Char → Option β) (pattern : Regex.Pattern) : List Step → Bool
  | .processGroup group :: rest =>
    decide (0 < group) && decide (group ≤ pattern.groupCount) && pattern.expr.surrounds group
      && rest.all Step.isWrap && (pattern.expr.rim group).all (view · |>.isNone)
      && (rest.flatMap Step.added).all (view · |>.isNone)
  | _ => false

/-- 字幅を変えるだけで、読む文字の見かけは変わらない。 -/
def relabels [DecidableEq β] (view : Char → Option β) (pattern : Regex.Pattern)
    (steps : List Step) : Bool :=
  pattern.expr.listable && steps.all Step.isWiden
    && pattern.expr.alphabet.all fun c => view (steps.foldl Step.widenChar c) == view c

namespace Rule

variable {rule : Rule}

theorem shows_of_sheds (h : sheds view rule.pattern rule.definition.steps = true) :
    rule.Shows view := by
  intro text position found answers produced hmatch _ hprocess
  simp only [sheds, Bool.and_eq_true] at h
  obtain ⟨⟨⟨hexpr, hsteps⟩, hread⟩, hwritten⟩ := h
  have hwhole : Text.slice text found.start found.stop ⊆ rule.pattern.expr.alphabet :=
    Regex.Pattern.mem_alphabet_of_matchAt hexpr (pattern_matchAt hmatch).1
  have hproduced : Node.contents produced
      ⊆ rule.definition.steps.foldl Step.image rule.pattern.expr.alphabet := by
    refine applySteps_letters hsteps ?_ hprocess
    exact hwhole
  rw [filterMap_eq_nil_of_subset hread hwhole, filterMap_eq_nil_of_subset hwritten hproduced]

theorem shows_of_unwraps (h : unwraps view rule.pattern rule.definition.steps = true) :
    rule.Shows view := by
  intro text position found answers produced hmatch hanswers hprocess
  unfold unwraps at h
  split at h
  · next group rest hsteps =>
    simp only [Bool.and_eq_true, decide_eq_true_eq] at h
    obtain ⟨⟨⟨⟨⟨hpos, hcount⟩, hsurrounds⟩, hwrap⟩, hread⟩, hwritten⟩ := h
    obtain ⟨a, b, hspan, hstart, hle, hstop, hbefore, hafter⟩ :=
      Regex.Pattern.matchAt_around hsurrounds hpos hcount (pattern_matchAt hmatch).1
    unfold process at hprocess
    rw [hsteps] at hprocess
    obtain ⟨a', b', before, after, hspan', rfl, hadded⟩ :=
      applySteps_reprocess hwrap hprocess
    cases hspan.symm.trans hspan'
    have hanswer := hanswers (Text.slice text a b) a
      ⟨group, b, hsteps ▸ List.mem_cons_self, hspan, rfl⟩
    have hslice : Text.slice text found.start found.stop
        = Text.slice text found.start a ++ Text.slice text a b ++ Text.slice text b found.stop := by
      rw [Text.slice_append_slice _ hstart hle,
        Text.slice_append_slice _ (Nat.le_trans hstart hle) hstop]
    have hadded := contents_subset_of_isTextOf hadded
    rw [Node.contents_append] at hadded
    obtain ⟨hb, ha⟩ := List.append_subset.mp hadded
    rw [hslice]
    simp only [Node.contents_append, List.filterMap_append, hanswer,
      filterMap_eq_nil_of_subset hwritten hb, filterMap_eq_nil_of_subset hwritten ha,
      filterMap_eq_nil_of_subset hread hbefore, filterMap_eq_nil_of_subset hread hafter]
  · cases h

theorem shows_of_relabels [DecidableEq β]
    (h : relabels view rule.pattern rule.definition.steps = true) : rule.Shows view := by
  intro text position found answers produced hmatch _ hprocess
  simp only [relabels, Bool.and_eq_true] at h
  obtain ⟨⟨hexpr, hwiden⟩, hsame⟩ := h
  have hwhole : Text.slice text found.start found.stop ⊆ rule.pattern.expr.alphabet :=
    Regex.Pattern.mem_alphabet_of_matchAt hexpr (pattern_matchAt hmatch).1
  unfold process applySteps at hprocess
  rw [runSteps_of_isWiden _ _ _ _ _ _ _ hwiden] at hprocess
  dsimp only at hprocess
  split at hprocess
  · next hfinal =>
    cases hprocess
    rw [finalize_contents hfinal, Value.letters, List.filterMap_map]
    refine List.filterMap_congr fun c hc => ?_
    exact beq_iff_eq.mp (List.all_eq_true.mp hsame c (hwhole hc))
  · cases hprocess

end Rule

namespace Scanner

variable {τ : Type}

/-! ## 走査 -/

theorem contents_gap (text : Text) {start stop : Nat} (h : start ≤ stop) :
    Node.contents (gap text start stop) = Text.slice text start stop := by
  unfold gap
  split
  · simp [Node.content]
  · next hge =>
    obtain rfl : start = stop := by omega
    simp [Text.slice]

/-- 素朴な書き換えは、規則ごとに見かけを保つなら、全体でも見かけを保つ。 -/
theorem filterMap_contents_of_rewrites {r : Registry}
    (hshows : ∀ rule ∈ r.rules, rule.enabled = true → rule.Shows view) {text : Text}
    {position : Nat} {nodes : List Node} (h : Rewrites r.FirstAt text position nodes) :
    position ≤ text.length →
      (Node.contents nodes).filterMap view = (text.drop position).filterMap view := by
  induction h with
  | @rest text position _ =>
    intro hle
    rw [contents_gap text hle, Text.slice_length_right]
  | @win text position rule found answers produced rest hle hfirst hwin hanswers hproduced hrest
      ihanswers ihrest =>
    intro _
    obtain ⟨hrule, henabled, hmatch⟩ := hwin.matchesAt
    obtain ⟨-, hlt, hstop⟩ := FirstAt.bounds hwin
    have hproduced' := hshows rule hrule henabled text found.start found answers produced hmatch
      (fun segment start hr => by simpa using ihanswers segment start hr (Nat.zero_le _)) hproduced
    have hcut : text.drop position = Text.slice text position found.start
        ++ Text.slice text found.start found.stop ++ text.drop found.stop := by
      rw [← Text.slice_length_right text found.stop, ← Text.slice_length_right text position,
        Text.slice_append_slice _ hle (Nat.le_of_lt hlt),
        Text.slice_append_slice _ (Nat.le_trans hle (Nat.le_of_lt hlt)) hstop]
    rw [hcut]
    simp only [Node.contents_append, List.filterMap_append, contents_gap text hle, hproduced',
      ihrest hstop]

/-- **見かけを変えない規則だけの走査は、見かけを変えない。** -/
theorem scan_shows {r : Registry} (hr : r.Reachable)
    (hrules : ∀ rule ∈ r.rules, rule.enabled = true → rule.Nests ∧ rule.Shows view)
    {limits : Limits} {read : ReadClock τ} {ctx : Context} {text : Text} {st st' : ScanState τ}
    {nodes : List Node} (hst : st.ranges = [])
    (h : (ofRegistry r limits read).scan ctx text st = (.ok nodes, st')) :
    (Node.contents nodes).filterMap view = text.filterMap view := by
  have hrewrites := rewrites_of_scan hr (fun rule hrule henabled => (hrules rule hrule henabled).1)
    hst h
  exact filterMap_contents_of_rewrites
    (fun rule hrule henabled => (hrules rule hrule henabled).2) hrewrites (Nat.zero_le _)

end Scanner

end Tategaki
