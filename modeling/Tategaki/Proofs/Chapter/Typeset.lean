import Tategaki.Chapter.Typeset
import Tategaki.Proofs.Scanner.Segment

/-!
# 組版した木の形

組版が木に加える変化は二つだけである。読み仮名の外の段落に字下げを入れること（`indented`）と、読み仮名の
外の空でない地の文（`leaves`）を、一つずつ、その走査の結果で置き換えること（`Spliced`）である。地の文は
文書の順に、それぞれ新しい区間の記録で走査される（`Scans`）。

走査が失敗すると、手前の地の文は置き換わり、失敗したものから後ろは走査の前のまま残る（`Halted`）。

証明は木についての帰納法である。段落の中身を辿るときは字下げの分だけ木が変わるので、字下げを入れる場合と
入れない場合の両方について示す（`typesets`）。
-/

namespace Tategaki.Chapter

open Markup

/-! ## 字下げと地の文 -/

/-- `lead` なら字下げを入れる。 -/
def indentIf (lead : Bool) (f : Fragment) : Fragment := if lead then indent f else f

/-- 読み仮名の外の段落に、すべて字下げを入れた木。 -/
def indented : Fragment → Fragment
  | .nil => .nil
  | .text s rest => .text s (indented rest)
  | .special kind s rest => .special kind s (indented rest)
  | .element name attributes content rest =>
    if readingNames.contains name then .element name attributes content (indented rest)
    else
      .element name attributes (indentIf (paragraphNames.contains name) (indented content))
        (indented rest)

/-- 読み仮名の外の、空でない地の文。文書の順に並ぶ。 -/
def leaves : Fragment → List Text
  | .nil => []
  | .text [] rest => leaves rest
  | .text (c :: s) rest => (c :: s) :: leaves rest
  | .special _ _ rest => leaves rest
  | .element name _ content rest =>
    if readingNames.contains name then leaves rest else leaves content ++ leaves rest

/-- 空でない文字列の字下げは空でない。 -/
theorem exists_indentText (s : Text) : ∃ c rest, indentText s = c :: rest := by
  obtain ⟨c, rest, h, -⟩ := indentText_head s
  exact ⟨c, rest, h⟩

/-- 字下げは、中の段落の字下げと順を入れ替えられる。 -/
theorem indented_indent (f : Fragment) : indented (indent f) = indent (indented f) := by
  cases f with
  | nil => rfl
  | text s rest =>
    cases s with
    | nil => rfl
    | cons c s => rfl
  | special kind s rest => rfl
  | element name attributes content rest =>
    simp only [indent, indented]
    split <;> rfl

theorem indented_indentIf (lead : Bool) (f : Fragment) :
    indented (indentIf lead f) = indentIf lead (indented f) := by
  cases lead with
  | false => rfl
  | true => exact indented_indent f

/-! ## 組版の結果 -/

/-- 地の文を順に、節の並び `outs` で置き換える。ほかは変えない。 -/
inductive Spliced : Fragment → List (List Node) → Fragment → Prop
  | nil : Spliced .nil [] .nil
  /-- 空の文字列は残る。 -/
  | empty {rest rest' : Fragment} {outs : List (List Node)} (h : Spliced rest outs rest') :
      Spliced (.text [] rest) outs (.text [] rest')
  /-- 地の文は、まとめた節に置き換わる。 -/
  | leaf {c : Char} {s : Text} {rest rest' : Fragment} {out : List Node}
      {outs : List (List Node)} (h : Spliced rest outs rest') :
      Spliced (.text (c :: s) rest) (out :: outs) (placeAll (Node.mergeTexts out) rest')
  /-- 注釈などは残る。 -/
  | special {kind : Special} {s : Text} {rest rest' : Fragment} {outs : List (List Node)}
      (h : Spliced rest outs rest') : Spliced (.special kind s rest) outs (.special kind s rest')
  /-- 読み仮名は、中身ごと残る。 -/
  | reading {name : String} {attributes : List Attribute} {content rest rest' : Fragment}
      {outs : List (List Node)} (hn : readingNames.contains name = true)
      (h : Spliced rest outs rest') :
      Spliced (.element name attributes content rest) outs (.element name attributes content rest')
  /-- ほかの要素は、中身だけが変わる。 -/
  | element {name : String} {attributes : List Attribute} {content content' rest rest' : Fragment}
      {inner outs : List (List Node)} (hn : readingNames.contains name = false)
      (hc : Spliced content inner content') (h : Spliced rest outs rest') :
      Spliced (.element name attributes content rest) (inner ++ outs)
        (.element name attributes content' rest')

/-- 手前の地の文を `outs` で置き換え、`failing` で止まる。そこから後ろは元のままで、まだ入っていない段落
には字下げもない。 -/
inductive Halted (failing : Text) : Fragment → List (List Node) → Fragment → Prop
  /-- ここで止まる。 -/
  | here {rest : Fragment} (h : failing ≠ []) :
      Halted failing (.text failing rest) [] (.text failing rest)
  | empty {rest rest' : Fragment} {outs : List (List Node)} (h : Halted failing rest outs rest') :
      Halted failing (.text [] rest) outs (.text [] rest')
  | leaf {c : Char} {s : Text} {rest rest' : Fragment} {out : List Node}
      {outs : List (List Node)} (h : Halted failing rest outs rest') :
      Halted failing (.text (c :: s) rest) (out :: outs) (placeAll (Node.mergeTexts out) rest')
  | special {kind : Special} {s : Text} {rest rest' : Fragment} {outs : List (List Node)}
      (h : Halted failing rest outs rest') :
      Halted failing (.special kind s rest) outs (.special kind s rest')
  | reading {name : String} {attributes : List Attribute} {content rest rest' : Fragment}
      {outs : List (List Node)} (hn : readingNames.contains name = true)
      (h : Halted failing rest outs rest') :
      Halted failing (.element name attributes content rest) outs
        (.element name attributes content rest')
  /-- 要素の中で止まる。後ろには触れない。 -/
  | inside {name : String} {attributes : List Attribute} {content content' rest : Fragment}
      {outs : List (List Node)} (hn : readingNames.contains name = false)
      (h : Halted failing (indentIf (paragraphNames.contains name) content) outs content') :
      Halted failing (.element name attributes content rest) outs
        (.element name attributes content' rest)
  /-- 要素を終えて、後ろで止まる。 -/
  | beyond {name : String} {attributes : List Attribute} {content content' rest rest' : Fragment}
      {inner outs : List (List Node)} (hn : readingNames.contains name = false)
      (hc : Spliced (indentIf (paragraphNames.contains name) (indented content)) inner content')
      (h : Halted failing rest outs rest') :
      Halted failing (.element name attributes content rest) (inner ++ outs)
        (.element name attributes content' rest')

variable {τ : Type}

/-- 文字列を順に、それぞれ新しい区間の記録で走査すると、節の並び `outs` が返り、規則が `counts` 回ずつ
勝つ。 -/
inductive Scans (sc : Scanner τ) (ctx : Context) :
    ScanState τ → List Text → List (List Node) → List Nat → ScanState τ → Prop
  | nil {st : ScanState τ} : Scans sc ctx st [] [] [] st
  | cons {st done st' : ScanState τ} {s : Text} {texts : List Text} {out : List Node}
      {outs : List (List Node)} {counts : List Nat}
      (hs : sc.scan ctx s { st with ranges := [] } = (.ok out, done))
      (h : Scans sc ctx { done with ranges := st.ranges } texts outs counts st') :
      Scans sc ctx st (s :: texts) (out :: outs) (done.ranges.length :: counts) st'

variable {sc : Scanner τ} {ctx : Context}

theorem Scans.append {st st₁ st' : ScanState τ} {texts texts' : List Text}
    {outs outs' : List (List Node)} {counts counts' : List Nat}
    (h : Scans sc ctx st texts outs counts st₁) (h' : Scans sc ctx st₁ texts' outs' counts' st') :
    Scans sc ctx st (texts ++ texts') (outs ++ outs') (counts ++ counts') st' := by
  induction h with
  | nil => exact h'
  | cons hs _ ih => exact .cons hs (ih h')

/-- 走査した後も、区間の記録は元のままである。 -/
theorem Scans.ranges_eq {st st' : ScanState τ} {texts : List Text} {outs : List (List Node)}
    {counts : List Nat} (h : Scans sc ctx st texts outs counts st') : st'.ranges = st.ranges := by
  induction h with
  | nil => rfl
  | cons _ _ ih => exact ih

/-- **使った枠は、規則の勝った回数の和である。** -/
theorem Scans.budget_count {st st' : ScanState τ} {texts : List Text} {outs : List (List Node)}
    {counts : List Nat} (h : Scans sc ctx st texts outs counts st') :
    st'.budget.count = st.budget.count + counts.sum := by
  induction h with
  | nil => rfl
  | @cons st done st' s texts out outs counts hs _ ih =>
    have hspend := Scanner.scan_spends hs
    have hbefore : ({ st with ranges := [] } : ScanState τ).budget = st.budget := rfl
    have hafter : ({ done with ranges := st.ranges } : ScanState τ).budget = done.budget := rfl
    rw [hbefore, List.length_nil] at hspend
    rw [ih, hafter, List.sum_cons]
    omega

/-! ## 一つずつ辿る -/

/-- 木 `tree` を状態 `st` から辿った結果 `p` は、組版として正しい。 -/
structure Typesets (sc : Scanner τ) (ctx : Context) (tree : Fragment) (st : ScanState τ)
    (p : Progress τ) : Prop where
  /-- 失敗しなければ、すべての地の文が置き換わる。 -/
  finished : p.error = none → ∃ outs counts,
    Scans sc ctx st (leaves (indented tree)) outs counts p.state ∧
      Spliced (indented tree) outs p.tree
  /-- 失敗すれば、手前の地の文だけが置き換わる。 -/
  stopped : ∀ e, p.error = some e → ∃ before failing after outs counts st₁ st₂,
    leaves (indented tree) = before ++ failing :: after ∧
      Scans sc ctx st before outs counts st₁ ∧
      sc.scan ctx failing { st₁ with ranges := [] } = (.error e, st₂) ∧
      p.state = { st₂ with ranges := st₁.ranges } ∧ Halted failing tree outs p.tree

/-- 地の文を含まない先頭を加えても、組版は正しい。 -/
theorem Typesets.map {rest : Fragment} {st : ScanState τ} {p : Progress τ}
    (h : Typesets sc ctx rest st p) (head : Fragment → Fragment)
    (hindented : ∀ f, indented (head f) = head (indented f))
    (hleaves : ∀ f, leaves (head f) = leaves f)
    (hspliced : ∀ {f outs f'}, Spliced f outs f' → Spliced (head f) outs (head f'))
    (hhalted : ∀ {failing f outs f'}, Halted failing f outs f' →
      Halted failing (head f) outs (head f')) : Typesets sc ctx (head rest) st (p.map head) := by
  refine ⟨fun he => ?_, fun e he => ?_⟩
  · obtain ⟨outs, counts, hscans, htree⟩ := h.finished he
    rw [hindented, hleaves]
    exact ⟨outs, counts, hscans, hspliced htree⟩
  · obtain ⟨before, failing, after, outs, counts, st₁, st₂, hsplit, hscans, hfail, hstate, htree⟩ :=
      h.stopped e he
    rw [hindented, hleaves]
    exact ⟨before, failing, after, outs, counts, st₁, st₂, hsplit, hscans, hfail, hstate,
      hhalted htree⟩

/-- 空でない地の文を走査し、残りを正しく辿れば、組版は正しい。 -/
theorem typesets_text {c : Char} {s : Text} {rest : Fragment} {next : ScanState τ → Progress τ}
    (hnext : ∀ st, Typesets sc ctx rest st (next st)) (st : ScanState τ) :
    Typesets sc ctx (.text (c :: s) rest) st (typesetText sc ctx (c :: s) rest next st) := by
  unfold typesetText scanLeaf
  cases hscan : sc.scan ctx (c :: s) { st with ranges := [] } with
  | mk result done =>
    cases result with
    | error e =>
      refine ⟨(fun he => by cases he), fun e' he => ?_⟩
      cases he
      exact ⟨[], c :: s, leaves (indented rest), [], [], st, done, rfl, .nil, hscan, rfl,
        .here (List.cons_ne_nil c s)⟩
    | ok nodes =>
      have hrest := hnext { done with ranges := st.ranges }
      refine ⟨fun he => ?_, fun e he => ?_⟩
      · obtain ⟨outs, counts, hscans, htree⟩ := hrest.finished he
        exact ⟨nodes :: outs, _, .cons hscan hscans, .leaf htree⟩
      · obtain ⟨before, failing, after, outs, counts, st₁, st₂, hsplit, hscans, hfail, hstate,
          htree⟩ := hrest.stopped e he
        refine ⟨(c :: s) :: before, failing, after, nodes :: outs, _, st₁, st₂, ?_,
          .cons hscan hscans, hfail, hstate, .leaf htree⟩
        show (c :: s) :: leaves (indented rest) = _
        rw [hsplit]
        rfl

/-- 地の文で始まらない並びの前には、字下げが一つの地の文として入る。 -/
theorem typesets_indent {f : Fragment} {next : ScanState τ → Progress τ}
    (hf : indent f = .text [indentMark] f) (hnext : ∀ st, Typesets sc ctx f st (next st))
    (lead : Bool) (st : ScanState τ) :
    Typesets sc ctx (indentIf lead f) st (typesetIndent sc ctx lead f next st) := by
  cases lead with
  | false => exact hnext st
  | true =>
    show Typesets sc ctx (indent f) st (typesetText sc ctx [indentMark] f next st)
    rw [hf]
    exact typesets_text hnext st

/-- 要素の中身と後ろを正しく辿れば、組版は正しい。 -/
theorem typesets_element {name : String} {attributes : List Attribute} {content rest : Fragment}
    (hn : readingNames.contains name = false) {st : ScanState τ} {inner : Progress τ}
    {next : ScanState τ → Progress τ}
    (hinner : Typesets sc ctx (indentIf (paragraphNames.contains name) content) st inner)
    (hnext : ∀ st, Typesets sc ctx rest st (next st)) :
    Typesets sc ctx (.element name attributes content rest) st
      (match inner.error with
        | some _ => inner.map fun content => .element name attributes content rest
        | none => (next inner.state).map (.element name attributes inner.tree)) := by
  have hindented : indented (.element name attributes content rest)
      = .element name attributes (indentIf (paragraphNames.contains name) (indented content))
        (indented rest) := by
    rw [indented, if_neg (by rw [hn]; exact Bool.false_ne_true)]
  have hleaves : leaves (indented (.element name attributes content rest))
      = leaves (indentIf (paragraphNames.contains name) (indented content))
        ++ leaves (indented rest) := by
    rw [hindented, leaves, if_neg (by rw [hn]; exact Bool.false_ne_true)]
  cases herror : inner.error with
  | some e =>
    -- 中身で止まったので、後ろの地の文はすべて残る
    refine ⟨fun he => ?_, fun e' he => ?_⟩
    · cases herror.symm.trans he
    · obtain ⟨before, failing, after, outs, counts, st₁, st₂, hsplit, hscans, hfail, hstate,
        htree⟩ := hinner.stopped e' he
      rw [indented_indentIf] at hsplit
      refine ⟨before, failing, after ++ leaves (indented rest), outs, counts, st₁, st₂, ?_, hscans,
        hfail, hstate, .inside hn htree⟩
      rw [hleaves, hsplit, List.append_assoc, List.cons_append]
  | none =>
    obtain ⟨outs, counts, hscans, htree⟩ := hinner.finished herror
    rw [indented_indentIf] at hscans htree
    have hrest := hnext inner.state
    refine ⟨fun he => ?_, fun e he => ?_⟩
    · obtain ⟨outs', counts', hscans', htree'⟩ := hrest.finished he
      rw [hleaves, hindented]
      exact ⟨outs ++ outs', counts ++ counts', hscans.append hscans', .element hn htree htree'⟩
    · obtain ⟨before, failing, after, outs', counts', st₁, st₂, hsplit, hscans', hfail, hstate,
        htree'⟩ := hrest.stopped e he
      refine ⟨leaves (indentIf (paragraphNames.contains name) (indented content)) ++ before,
        failing, after, outs ++ outs', counts ++ counts', st₁, st₂, ?_, hscans.append hscans', hfail,
        hstate, .beyond hn htree htree'⟩
      rw [hleaves, hsplit, List.append_assoc]

/-- **どの木の組版も正しい。** `lead` は、段落の中身の先頭にいることを表す。 -/
theorem typesets (f : Fragment) : ∀ (lead : Bool) (st : ScanState τ),
    Typesets sc ctx (indentIf lead f) st (typeset sc ctx f lead st) := by
  induction f with
  | nil =>
    intro lead st
    rw [typeset]
    refine typesets_indent rfl (fun st => ⟨fun _ => ?_, (fun e he => by cases he)⟩) lead st
    exact ⟨[], [], .nil, .nil⟩
  | text s rest ih =>
    intro lead st
    cases s with
    | nil =>
      rw [typeset]
      exact typesets_indent rfl (fun st => (ih false st).map (.text []) (fun _ => rfl)
        (fun _ => rfl) .empty .empty) lead st
    | cons c s =>
      rw [typeset]
      cases lead with
      | false => exact typesets_text (ih false) st
      | true =>
        obtain ⟨d, t, hindent⟩ := exists_indentText (c :: s)
        show Typesets sc ctx (.text (indentText (c :: s)) rest) st
          (typesetText sc ctx (indentText (c :: s)) rest _ st)
        rw [hindent]
        exact typesets_text (ih false) st
  | special kind s rest ih =>
    intro lead st
    rw [typeset]
    exact typesets_indent rfl (fun st => (ih false st).map (.special kind s)
      (fun _ => rfl) (fun _ => rfl) .special .special) lead st
  | element name attributes content rest ihc ih =>
    intro lead st
    rw [typeset]
    refine typesets_indent rfl (fun st => ?_) lead st
    -- 読み仮名の中には入らない。段落の中身は、字下げを入れる場合の帰納法の仮定による
    dsimp only
    split
    · next hn =>
      refine (ih false st).map (.element name attributes content) (fun f => ?_) (fun f => ?_)
        (.reading hn) (.reading hn)
      · rw [indented, if_pos hn]
      · rw [leaves, if_pos hn]
    · next hn =>
      exact typesets_element (by simpa using hn) (ihc _ st) (ih false)

/--
**組版は、字下げと、地の文の置き換えのほかに木を変えない。**

うまくいけば、字下げした木の地の文がすべて、文書の順に走査されて置き換わる。使った枠は、規則の勝った回数の
和である。失敗すれば、手前の地の文だけが置き換わる。どちらでも、章の文脈の区間は変わらない。
-/
theorem process_typesets (sc : Scanner τ) (ctx : Context) (tree : Fragment) (st : ScanState τ) :
    (process sc ctx tree st).state.ranges = st.ranges ∧
    ((process sc ctx tree st).error = none → ∃ outs counts,
      Scans sc ctx st (leaves (indented tree)) outs counts (process sc ctx tree st).state ∧
        Spliced (indented tree) outs (process sc ctx tree st).tree ∧
        (process sc ctx tree st).state.budget.count = st.budget.count + counts.sum) ∧
    ∀ e, (process sc ctx tree st).error = some e → ∃ before failing after outs counts st₁ st₂,
      leaves (indented tree) = before ++ failing :: after ∧
        Scans sc ctx st before outs counts st₁ ∧
        sc.scan ctx failing { st₁ with ranges := [] } = (.error e, st₂) ∧
        (process sc ctx tree st).state = { st₂ with ranges := st₁.ranges } ∧
        Halted failing tree outs (process sc ctx tree st).tree := by
  have h : Typesets sc ctx tree st (process sc ctx tree st) := typesets tree false st
  refine ⟨?_, fun he => ?_, h.stopped⟩
  · cases herror : (process sc ctx tree st).error with
    | none =>
      obtain ⟨outs, counts, hscans, -⟩ := h.finished herror
      exact hscans.ranges_eq
    | some e =>
      obtain ⟨before, failing, after, outs, counts, st₁, st₂, -, hscans, -, hstate, -⟩ :=
        h.stopped e herror
      rw [hstate]
      exact hscans.ranges_eq
  · obtain ⟨outs, counts, hscans, htree⟩ := h.finished he
    exact ⟨outs, counts, hscans, htree, hscans.budget_count⟩

/-- 段落の中に読み仮名があり、後ろに注釈がある木。 -/
def rubyTree : Fragment :=
  .element "p" [] (.text "第12話".toList
    (.element "ruby" [] (.text ['3'] (.element "rt" [] (.text ['3'] .nil) .nil)) .nil))
    (.special .comment ['3'] .nil)

/-- 枠が足りればすべての地の文が置き換わり、一つしかなければ二つ目の地の文で止まる。 -/
theorem process_typesets_ruby :
    ((process Scanner.bundledScanner { startTime := .int 0 } rubyTree Scanner.freshState).error
        = none ∧
      ∃ outs counts, Scans Scanner.bundledScanner { startTime := .int 0 } Scanner.freshState
          (leaves (indented rubyTree)) outs counts
          (process Scanner.bundledScanner { startTime := .int 0 } rubyTree
            Scanner.freshState).state ∧
        Spliced (indented rubyTree) outs (process Scanner.bundledScanner { startTime := .int 0 }
          rubyTree Scanner.freshState).tree ∧
        2 = counts.sum) ∧
    ∃ before failing after outs,
      leaves (indented rubyTree) = before ++ failing :: after ∧
        Halted failing rubyTree outs (process Scanner.bundledScanner { startTime := .int 0 }
          rubyTree { Scanner.freshState with own := some { ceiling := .number 1 } }).tree := by
  have hdone : (process Scanner.bundledScanner { startTime := .int 0 } rubyTree
      Scanner.freshState).error = none := by
    rw [Scanner.bundledScanner_eq]
    decide +kernel
  have hcount : (process Scanner.bundledScanner { startTime := .int 0 } rubyTree
      Scanner.freshState).state.budget.count = 2 := by
    rw [Scanner.bundledScanner_eq]
    decide +kernel
  have hstop : (process Scanner.bundledScanner { startTime := .int 0 } rubyTree
      { Scanner.freshState with own := some { ceiling := .number 1 } }).error
        = some (.budget ⟨.number 1, some "tcy-digits"⟩) := by
    rw [Scanner.bundledScanner_eq]
    decide +kernel
  refine ⟨⟨hdone, ?_⟩, ?_⟩
  · obtain ⟨outs, counts, hscans, htree, hbudget⟩ :=
      (process_typesets Scanner.bundledScanner { startTime := .int 0 } rubyTree
        Scanner.freshState).2.1 hdone
    rw [hcount] at hbudget
    exact ⟨outs, counts, hscans, htree, by simpa [Scanner.freshState, ScanState.budget] using hbudget⟩
  · obtain ⟨before, failing, after, outs, -, -, -, hsplit, -, -, -, htree⟩ :=
      (process_typesets Scanner.bundledScanner { startTime := .int 0 } rubyTree
        { Scanner.freshState with own := some { ceiling := .number 1 } }).2.2 _ hstop
    exact ⟨before, failing, after, outs, hsplit, htree⟩

end Tategaki.Chapter
