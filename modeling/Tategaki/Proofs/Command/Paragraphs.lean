import Tategaki.Command.Convert
import Tategaki.Proofs.Chapter.Document
import Tategaki.Proofs.Chapter.Verbatim
import Tategaki.Proofs.Markup.Paragraph
import Tategaki.Proofs.Unicode.Blank

/-!
# 文字だけの章

文字だけのファイルは、空でない行を一つずつ段落にして（`paragraphs`）変換する。規則がどこにも合わなければ、本文は、
見出しの後に、字下げした行を一つずつ順に段落にしたもの（`importedBody`）になる。印付けや参照に見える行も、文字の
まま残る（`convert_paragraphs`）。

行は一度だけ印付けに直され、その後、読まれ、書かれ、濾され、また読まれ、字下げされて書かれる。段落の並びはどの段でも
変わらないので、残るのは字下げだけである。
-/

namespace Tategaki.Command

open Chapter Markup

/-! ## 行と見出し -/

/-- 空でない行。両端の空白は落とす。 -/
def textLines (content : Text) : List Text :=
  ((Unicode.lines content).map Unicode.strip).filter (!·.isEmpty)

/-- 題名の、見出しとしての形。 -/
def heading (title : Text) : Text :=
  if (Unicode.strip title).isEmpty then defaultTitle else Unicode.strip title

/-- 文字だけの章の本文。見出しの後に、字下げした行が段落として並ぶ。 -/
def importedBody (title content : Text) : Fragment :=
  withHeading (heading title) (paragraphTree ((textLines content).map (indentMark :: ·)))

/-- 行ごとの段落は、段落の並びを書き出したものである。 -/
theorem paragraphs_eq (content : Text) :
    paragraphs content = write (paragraphTree (textLines content)) :=
  (write_paragraphTree _).symm

theorem mem_textLines_iff {content line : Text} : line ∈ textLines content ↔
    line ≠ [] ∧ ∃ whole ∈ Unicode.lines content, Unicode.strip whole = line := by
  simp only [textLines, List.mem_filter, List.mem_map, Bool.not_eq_true', List.isEmpty_eq_false_iff]
  exact and_comm

/-- 空でない行は、空白でない文字で始まる。 -/
theorem exists_cons_of_mem_textLines {content line : Text} (h : line ∈ textLines content) :
    ∃ c tail, line = c :: tail ∧ Unicode.isBlank c = false := by
  obtain ⟨hne, whole, -, rfl⟩ := mem_textLines_iff.mp h
  rcases Unicode.strip_cases whole with ⟨hnil, -⟩ | hcons
  · exact absurd hnil hne
  · exact hcons

/-- 行の文字は、元の文の、行末でない文字である。 -/
theorem mem_of_mem_textLines {content line : Text} (h : line ∈ textLines content) {c : Char}
    (hc : c ∈ line) : c ∈ content ∧ Unicode.isLineEnd c = false := by
  obtain ⟨-, whole, hwhole, rfl⟩ := mem_textLines_iff.mp h
  exact (Unicode.mem_lines_iff content).mp ⟨whole, hwhole, Unicode.strip_subset whole hc⟩

/-- 空白だけでない文には、空でない行がある。 -/
theorem textLines_ne_nil {content : Text} (h : Unicode.strip content ≠ []) :
    textLines content ≠ [] := by
  obtain ⟨whole, hwhole, hne⟩ := Unicode.exists_line_of_strip_ne_nil h
  exact List.ne_nil_of_mem (mem_textLines_iff.mpr ⟨hne, whole, hwhole, rfl⟩)

/-- 見出しは、空白でない文字で始まる。 -/
theorem exists_cons_heading (title : Text) :
    ∃ c tail, heading title = c :: tail ∧ Unicode.isBlank c = false := by
  unfold heading
  split
  · exact ⟨_, _, rfl, by decide⟩
  · next hne =>
    rcases Unicode.strip_cases title with ⟨hnil, -⟩ | hcons
    · rw [hnil] at hne
      exact absurd rfl hne
    · exact hcons

/-! ## 使える文字 -/

theorem all_isChar_heading {title : Text} (h : title.all Xml.isChar = true) :
    (heading title).all Xml.isChar = true := by
  unfold heading
  split
  · decide
  · exact List.all_eq_true.mpr fun c hc =>
      List.all_eq_true.mp h c (Unicode.strip_subset title hc)

theorem all_isChar_of_mem_textLines {content line : Text} (hcontent : content.all Xml.isChar = true)
    (h : line ∈ textLines content) : line.all Xml.isChar = true :=
  List.all_eq_true.mpr fun c hc =>
    List.all_eq_true.mp hcontent c (mem_of_mem_textLines h hc).1

/-- 使える文字だけからなる文の行は、そのまま残る文字だけからなる。 -/
theorem all_isKept_of_mem_textLines {content line : Text} (hcontent : content.all Xml.isChar = true)
    (h : line ∈ textLines content) : line.all isKept = true := by
  refine List.all_eq_true.mpr fun c hc => ?_
  obtain ⟨hmem, hend⟩ := mem_of_mem_textLines h hc
  have hchar := List.all_eq_true.mp hcontent c hmem
  have hreturn : (c != '\r') = true := by
    refine bne_iff_ne.mpr ?_
    rintro rfl
    exact absurd hend (by decide)
  have hvisible : Clean.isInvisible c = false := by
    refine Bool.eq_false_iff.mpr fun hinvisible => ?_
    simp only [Clean.isInvisible, Xml.isChar, Bool.and_eq_true, Bool.or_eq_true, decide_eq_true_eq,
      bne_iff_ne, beq_iff_eq] at hinvisible hchar
    omega
  rw [isKept, hreturn, hvisible]
  rfl

/-- 空白でない文字で始まる文字列は、空白だけではない。 -/
theorem all_isAsciiBlank_of_cons {s : Text}
    (h : ∃ c tail, s = c :: tail ∧ Unicode.isBlank c = false) :
    s.all Unicode.isAsciiBlank = false := by
  obtain ⟨c, tail, rfl, hc⟩ := h
  have hascii : Unicode.isAsciiBlank c = false := Bool.eq_false_iff.mpr fun hascii => by
    rw [Unicode.isBlank_of_isAsciiBlank hascii] at hc
    cases hc
  rw [List.all_cons, hascii, Bool.false_and]

/-! ## 本文の木 -/

/-- 字下げは、どの行にも入る。 -/
theorem indented_paragraphTree {lines : List Text}
    (h : ∀ line ∈ lines, ∃ c tail, line = c :: tail ∧ Unicode.isBlank c = false) :
    indented (paragraphTree lines) = paragraphTree (lines.map (indentMark :: ·)) := by
  have hparagraph : ∀ line ∈ lines, ∀ rest : Fragment,
      indented (.element "p" [] (.text line .nil) rest)
        = .element "p" [] (.text (indentMark :: line) .nil) (indented rest) := by
    intro line hline rest
    obtain ⟨c, tail, rfl, hc⟩ := h line hline
    have hreading : readingNames.contains "p" = false := by decide
    have hparagraph : paragraphNames.contains "p" = true := by decide
    rw [indented, hreading, if_neg Bool.false_ne_true, hparagraph]
    simp [indentIf, indented, indent, indentText, hc]
  fun_induction paragraphTree lines with
  | case1 => rfl
  | case2 line => exact hparagraph line (by simp) .nil
  | case3 line next lines ih =>
    have hrest := ih (fun t ht => h t (List.mem_cons_of_mem line ht))
      fun t ht => hparagraph t (List.mem_cons_of_mem line ht)
    rw [hparagraph line (by simp), indented, hrest]
    rfl

/-- 段落の並びの地の文は、行か、行の間の改行である。 -/
theorem mem_leaves_paragraphTree {lines : List Text} {s : Text}
    (h : s ∈ leaves (paragraphTree lines)) : s ∈ lines ∨ 2 ≤ lines.length ∧ s = ['\n'] := by
  have hparagraph : ∀ (line : Text) (rest : Fragment),
      s ∈ leaves (.element "p" [] (.text line .nil) rest) → s = line ∨ s ∈ leaves rest := by
    intro line rest hs
    rw [leaves, if_neg (by decide)] at hs
    rcases List.mem_append.mp hs with hs | hs
    · cases line with
      | nil => cases hs
      | cons c tail => exact .inl (List.mem_singleton.mp hs)
    · exact .inr hs
  fun_induction paragraphTree lines with
  | case1 => cases h
  | case2 line =>
    rcases hparagraph line .nil h with rfl | hnil
    · exact .inl (by simp)
    · cases hnil
  | case3 line next lines ih =>
    rcases hparagraph line _ h with rfl | hrest
    · exact .inl (by simp)
    · rcases List.mem_cons.mp hrest with rfl | hrest
      · exact .inr ⟨by simp, rfl⟩
      · rcases ih hrest with hmem | ⟨-, rfl⟩
        · exact .inl (List.mem_cons_of_mem line hmem)
        · exact .inr ⟨by simp, rfl⟩

/-- 使える文字だけからなる行の段落の並びは、使える木である。 -/
theorem plain_paragraphTree {legal : Char → Bool} (hnewline : legal '\n' = true)
    {lines : List Text} (h : ∀ line ∈ lines, line.all legal = true) :
    Plain legal (paragraphTree lines) := by
  fun_induction paragraphTree lines with
  | case1 => trivial
  | case2 line => exact ⟨by decide, .inl rfl, ⟨h line (by simp), trivial⟩, trivial⟩
  | case3 line next lines ih =>
    refine ⟨by decide, .inl rfl, ⟨h line (by simp), trivial⟩, by simpa using hnewline, ?_⟩
    exact ih fun t ht => h t (List.mem_cons_of_mem line ht)

theorem indented_body (title content : Text) :
    indented (withHeading (heading title) (paragraphTree (textLines content)))
      = importedBody title content := by
  have hreading : readingNames.contains "h1" = false := by decide
  have hparagraph : paragraphNames.contains "h1" = false := by decide
  rw [withHeading, indented, hreading, if_neg Bool.false_ne_true, hparagraph,
    indented_paragraphTree fun line hline => exists_cons_of_mem_textLines hline]
  rfl

/-- 本文の地の文は、見出しか、字下げした行か、行の間の改行である。 -/
theorem mem_leaves_importedBody {title content s : Text}
    (h : s ∈ leaves (importedBody title content)) :
    s = heading title ∨ (∃ line ∈ textLines content, indentMark :: line = s) ∨
      2 ≤ (textLines content).length ∧ s = ['\n'] := by
  obtain ⟨c, tail, hheading, -⟩ := exists_cons_heading title
  unfold importedBody withHeading at h
  rw [leaves, if_neg (by decide), hheading] at h
  rcases List.mem_append.mp h with h | h
  · exact .inl ((List.mem_singleton.mp h).trans hheading.symm)
  · rcases mem_leaves_paragraphTree h with h | ⟨hlength, rfl⟩
    · exact .inr (.inl (List.mem_map.mp h))
    · exact .inr (.inr ⟨by simpa using hlength, rfl⟩)

/-- **本文を書き出して読むと、元に戻る。** 印付けに見える行も、文字のままである。 -/
theorem tidy_importedBody (title content : Text) : Tidy (importedBody title content) := by
  obtain ⟨c, tail, hheading, hc⟩ := exists_cons_heading title
  have hblank := all_isAsciiBlank_of_cons ⟨c, tail, hheading, hc⟩
  have hindent : Unicode.isAsciiBlank indentMark = false := by decide
  refine ⟨by decide +kernel, rfl, ⟨?_, ?_, rfl, trivial⟩, tidy_paragraphTree ?_⟩
  · rw [hheading]
    exact List.cons_ne_nil c tail
  · rw [Reader.collapse, if_neg (by rw [hblank]; exact Bool.false_ne_true)]
  · intro line hline
    obtain ⟨whole, -, rfl⟩ := List.mem_map.mp hline
    rw [List.all_cons, hindent, Bool.false_and]

/-- 本文は、許した要素と使える文字だけからなる。 -/
theorem plain_importedBody {title content : Text} (htitle : title.all Xml.isChar = true)
    (hcontent : content.all Xml.isChar = true) : Plain Xml.isChar (importedBody title content) := by
  have hindent : Xml.isChar indentMark = true := by decide
  refine ⟨by decide, .inl rfl, ⟨all_isChar_heading htitle, trivial⟩,
    plain_paragraphTree (by decide) fun line hline => ?_⟩
  obtain ⟨whole, hwhole, rfl⟩ := List.mem_map.mp hline
  rw [List.all_cons, hindent, all_isChar_of_mem_textLines hcontent hwhole]
  rfl

/-! ## 変換 -/

/-- 文字だけの章の依頼は、行ごとの段落と見出しになる。 -/
theorem readRequest_paragraphs {content : Text} (hblank : Unicode.strip content ≠ [])
    (title : Text) :
    readRequest (.str (String.ofList (paragraphs content))) (.str (String.ofList title))
      = .ok ⟨paragraphs content, heading title⟩ := by
  have hne : (Unicode.strip (paragraphs content)).isEmpty = false := by
    obtain ⟨line, lines, hcons⟩ := List.exists_cons_of_ne_nil (textLines_ne_nil hblank)
    obtain ⟨rest, hrest⟩ := Token.exists_write_paragraphTree line lines
    rw [paragraphs_eq, hcons, hrest, List.isEmpty_eq_false_iff]
    exact Unicode.strip_ne_nil List.mem_cons_self (by decide)
  unfold readRequest
  dsimp only
  rw [String.toList_ofList, String.toList_ofList, hne]
  rfl

/-- 文字だけの章は、整えても変わらない。 -/
theorem sanitize_paragraphs {content : Text} (hcontent : content.all Xml.isChar = true) :
    sanitize (paragraphs content) = .ok (paragraphs content) := by
  rw [paragraphs_eq]
  exact sanitize_paragraphTree
    (fun line hline => all_isAsciiBlank_of_cons (exists_cons_of_mem_textLines hline))
    (fun line hline => all_isKept_of_mem_textLines hcontent hline)

theorem read_paragraphs (content : Text) :
    Markup.read (paragraphs content) = .ok (paragraphTree (textLines content)) := by
  rw [paragraphs_eq]
  exact read_write (tidy_paragraphTree fun line hline =>
    all_isAsciiBlank_of_cons (exists_cons_of_mem_textLines hline))

variable {τ : Type}

/--
**文字だけの章は、規則が合わなければ、行をそのまま段落にした本文になる。** 失敗するのは、時計が間に合わない
ときだけである。

本文は、見出しの後に、空でない行を一つずつ、字下げの空白を付けて順に段落にしたものである。文書の中の本文を読み直しても
同じ木になるので、行に書かれた印付けや参照は、文字のまま残っている。
-/
theorem convert_paragraphs {r : Registry} (hr : r.Reachable) (hsize : r.size ≠ 0)
    (limits : Option Limits) (hdepth : 0 ≤ (limits.getD r.limits).maxDepth.value)
    {stylesheet : String} (hstylesheet : stylesheet.toList.all Xml.isChar = true)
    (read : ReadClock τ) (room : Option Nat) {content title : Text} (hblank : Unicode.strip content ≠ [])
    (hcontent : content.all Xml.isChar = true) (htitle : title.all Xml.isChar = true)
    (hheading : r.Misses (heading title))
    (hgap : 2 ≤ (textLines content).length → r.Misses ['\n'])
    (hlines : ∀ line ∈ textLines content, r.Misses (indentMark :: line))
    (budget : Option Budget) (clock : τ) :
    (((Converter.create (some r) limits stylesheet read none room).convert
          (.str (String.ofList (paragraphs content))) (.str (String.ofList title)) budget
          clock).outcome
        = .ok (Document.fill
            ⟨heading title, stylesheet.toList, write (importedBody title content)⟩) ∨
      (∃ elapsed, (limits.getD r.limits).timeout.value.lt elapsed = true ∧
        ((Converter.create (some r) limits stylesheet read none room).convert
            (.str (String.ofList (paragraphs content))) (.str (String.ofList title)) budget
            clock).outcome
          = .error (.scan (.timeout elapsed (limits.getD r.limits).timeout))) ∧
      ¬ (Converter.create (some r) limits stylesheet read none room).scanner.InTime
        (read clock).1 (read clock).2) ∧
    Markup.read (write (importedBody title content)) = .ok (importedBody title content) := by
  refine ⟨?_, read_write (tidy_importedBody title content)⟩
  rw [Converter.create_of_size_pos hsize]
  have hmiss : ∀ s ∈ leaves (importedBody title content),
      (Scanner.ofRegistry r (limits.getD r.limits) read).Misses s := by
    intro s hs
    refine Scanner.misses_ofRegistry hr.ordered ?_ _ read
    rcases mem_leaves_importedBody hs with rfl | ⟨line, hline, rfl⟩ | ⟨hlength, rfl⟩
    · exact hheading
    · exact hlines line hline
    · exact hgap hlength
  have hplain := plain_importedBody htitle hcontent
  have hwritable : ∀ c, Xml.isChar c = true → isWritable none c = true := fun c hc => by
    rw [isWritable, hc]
    rfl
  have hall : ∀ {s : Text}, s.all Xml.isChar = true → s.all (isWritable none) = true := fun hs =>
    List.all_eq_true.mpr fun c hc => hwritable c (List.all_eq_true.mp hs c hc)
  have hverify := verify_render (hall (all_isChar_heading htitle)) (hall hstylesheet)
    (hplain.mono hwritable)
  rw [render_eq_fill (content_write hplain).isCalm] at hverify
  rcases Converter.convert_of_misses
    (c := { registry := r, limits := limits.getD r.limits, stylesheet, read, room })
    (readRequest_paragraphs hblank title) (sanitize_paragraphs hcontent)
    (read_paragraphs content) hdepth (by rw [indented_body]; exact hmiss) budget clock with
    hok | ⟨e, herror, ⟨elapsed, hlate, rfl⟩, hend⟩
  · refine .inl ?_
    rw [hok, indented_body, render_eq_fill (content_write hplain).isCalm]
    exact hverify
  · rw [Converter.scanner_timeout] at hlate herror
    exact .inr ⟨⟨elapsed, hlate, herror⟩, hend⟩

/-- 文字 `q` だけに合う規則の組。 -/
def letterGroup : RuleGroup where
  name := "letters"
  basePriority := .ofInt 1
  patterns := [Registry.markDefinition "letter" "q" "?"]

/-- `letterGroup` の登録簿。 -/
def letterRegistry : Registry := (Registry.registerGroups [letterGroup] (.empty {})).2

/-- 印付けや参照に見える行。行末の文字は四種類ある。 -/
def markupLines : Text := "  <b>&amp;</b> &lt &#60\r\n\n</p><!-- \u2028\t&nbsp; ]]>\u0085".toList

/-- 規則の合わない登録簿で、印付けに見える題名と行の章を変換する。 -/
theorem convert_paragraphs_markup :
    letterRegistry.Reachable ∧ letterRegistry.size ≠ 0 ∧
      textLines markupLines
        = ["<b>&amp;</b> &lt &#60".toList, "</p><!--".toList, "&nbsp; ]]>".toList] ∧
      ((Converter.create (some letterRegistry) none stylesheetName SteadyClock.read).convert
          (.str (String.ofList (paragraphs markupLines))) (.str (String.ofList " <i>&".toList))
          none {}).outcome
        = .ok (Document.fill ⟨"<i>&".toList, stylesheetName.toList,
            ("<h1>&lt;i&gt;&amp;</h1>"
              ++ "<p>　&lt;b&gt;&amp;amp;&lt;/b&gt; &amp;lt &amp;#60</p>\n"
              ++ "<p>　&lt;/p&gt;&lt;!--</p>\n"
              ++ "<p>　&amp;nbsp; ]]&gt;</p>").toList⟩) := by
  have hreachable : letterRegistry.Reachable := Registry.reachable_registerGroups _ (.empty {})
  have hsize : letterRegistry.size ≠ 0 := by decide +kernel
  have hstylesheet : stylesheetName.toList.all Xml.isChar = true := by decide
  have htext : textLines markupLines
      = ["<b>&amp;</b> &lt &#60".toList, "</p><!--".toList, "&nbsp; ]]>".toList] := by
    decide +kernel
  have hcontent : markupLines.all Xml.isChar = true := by decide +kernel
  have htitle : (" <i>&".toList).all Xml.isChar = true := by decide +kernel
  have hlines : ∀ line ∈ textLines markupLines, letterRegistry.Misses (indentMark :: line) := by
    rw [htext]
    decide +kernel
  refine ⟨hreachable, hsize, htext, ?_⟩
  have hconvert := convert_paragraphs hreachable hsize none (by decide +kernel) hstylesheet
    SteadyClock.read none (by decide +kernel) hcontent htitle (by decide +kernel)
    (fun _ => by decide +kernel) hlines none {}
  have hlate : (none.getD letterRegistry.limits).timeout.value.lt ((Number.int 0).sub (.int 0))
      = false := by decide +kernel
  rcases hconvert with ⟨hok | ⟨-, hend⟩, -⟩
  · rw [hok]
    have hheading : heading " <i>&".toList = "<i>&".toList := by decide +kernel
    have hbody : write (importedBody " <i>&".toList markupLines)
        = ("<h1>&lt;i&gt;&amp;</h1>"
            ++ "<p>　&lt;b&gt;&amp;amp;&lt;/b&gt; &amp;lt &amp;#60</p>\n"
            ++ "<p>　&lt;/p&gt;&lt;!--</p>\n"
            ++ "<p>　&amp;nbsp; ]]&gt;</p>").toList := by
      rw [importedBody, htext, hheading]
      decide +kernel
    rw [hheading, hbody]
  · rw [Converter.create_of_size_pos hsize] at hend
    exact absurd (Scanner.inTime_of_still (SteadyClock.read_still 0) hlate) hend

end Tategaki.Command
