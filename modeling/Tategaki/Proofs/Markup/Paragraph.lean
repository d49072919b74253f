import Tategaki.Markup.Sanitize
import Tategaki.Proofs.Markup.Roundtrip

/-!
# 段落の並び

文字列を一つずつ持つ段落の並び（`paragraphTree`）の書き出しは、整えても変わらない
（`sanitize_paragraphTree`）。読めば元の木に戻り、除く要素はなく、濾すときにも、書かれた参照はそのまま残るから
である。

濾すための字句は参照を文字に直さない。だから、濾した木は、書き方に直した文字列を持つ段落の並びになる
（`build_paragraphTree`）。書き出すときは、すでに参照である `&` を直さない（`Clean.text_escape`）。
-/

namespace Tategaki

/-! ## 行末 -/

/-- 復帰がなければ、行末は変わらない。 -/
theorem Utf8.unifyLineEnds_of_not_mem {s : Text} (h : '\r' ∉ s) : unifyLineEnds s = s := by
  fun_induction unifyLineEnds s with
  | case1 => rfl
  | case2 rest ih => simp at h
  | case3 rest _ ih => simp at h
  | case4 c rest _ _ ih => rw [ih fun hr => h (List.mem_cons_of_mem c hr)]

namespace Markup

open Unicode

namespace Writer

/-- 書き方に直した文字列の文字は、元の文字か、参照の綴りの文字である。 -/
theorem all_escape {p : Char → Bool} (hp : "&ampltg;".toList.all p = true) {s : Text}
    (hs : s.all p = true) : (escape s).all p = true := by
  have hspelling := List.all_eq_true.mp hp
  refine List.all_eq_true.mpr fun c hc => ?_
  obtain ⟨d, hd, hcd⟩ := List.mem_flatMap.mp hc
  unfold escapeChar at hcd
  split at hcd
  · exact hspelling c (by revert hcd; simp; tauto)
  · exact hspelling c (by revert hcd; simp; tauto)
  · exact hspelling c (by revert hcd; simp; tauto)
  · rw [List.mem_singleton.mp hcd]
    exact List.all_eq_true.mp hs d hd

theorem escape_ne_nil {s : Text} (h : s ≠ []) : escape s ≠ [] := by
  obtain ⟨c, rest, rfl⟩ := List.exists_cons_of_ne_nil h
  have hc : escapeChar c ≠ [] := by
    unfold escapeChar
    split <;> simp
  simp [escape, hc]

end Writer

/-! ## 地の文を濾す -/

namespace Clean

/-- 一文字ずつ足しても、参照の名前の始まりであり続けるか。 -/
def spells : Text → Text → Bool
  | _, [] => true
  | letters, c :: s =>
    !endsReference c && Entity.hasExtension (String.ofList (letters ++ [c]))
      && spells (letters ++ [c]) s

/-- 名前の始まりであり続ける文字は、`;` まで読まれる。 -/
theorem nameAhead_of_spells {letters name : Text} (h : spells letters name = true) (rest : Text) :
    nameAhead letters (name ++ ';' :: rest) = some (letters ++ name, ';' :: rest) := by
  induction name generalizing letters with
  | nil =>
    rw [List.nil_append, nameAhead, if_pos (by decide), List.append_nil]
  | cons c name ih =>
    simp only [spells, Bool.and_eq_true, Bool.not_eq_true'] at h
    obtain ⟨⟨hend, hextends⟩, hrest⟩ := h
    rw [List.cons_append, nameAhead, if_neg (by rw [hend]; exact Bool.false_ne_true)]
    dsimp only
    rw [if_pos hextends, ih hrest, List.append_assoc, List.singleton_append]

/-- 名前が続き、`;` で閉じれば、参照である。 -/
theorem referenceAhead_of_spells {c : Char} {tail : Text} (hc : c ≠ '#')
    (h : spells [] (c :: tail) = true) (rest : Text) :
    referenceAhead (c :: tail ++ ';' :: rest) = some (c :: tail, rest) := by
  have hdrop : (c :: tail ++ ';' :: rest).drop ((c :: tail).length + 1) = rest := by
    rw [← List.drop_drop, List.drop_left]
    rfl
  unfold referenceAhead
  split
  · next heq => exact absurd (List.cons.inj heq).1 hc
  · next heq => exact absurd (List.cons.inj heq).1 hc
  · rw [nameAhead_of_spells h]
    exact congrArg (fun t => some (c :: tail, t)) hdrop

/-- 書いた参照は、閉じた参照として見つかる。 -/
theorem referenceAhead_escapeChar {c : Char} (hc : Lexer.IsEscaped c) (rest : Text) :
    ∃ name, Writer.escapeChar c = '&' :: name ++ [';'] ∧
      referenceAhead (name ++ ';' :: rest) = some (name, rest) := by
  rcases hc with rfl | rfl | rfl
  · exact ⟨['l', 't'], rfl, referenceAhead_of_spells (by decide) (by decide +kernel) rest⟩
  · exact ⟨['a', 'm', 'p'], rfl, referenceAhead_of_spells (by decide) (by decide +kernel) rest⟩
  · exact ⟨['g', 't'], rfl, referenceAhead_of_spells (by decide) (by decide +kernel) rest⟩

/-- **書き方に直した文字列は、濾しても変わらない。** -/
theorem middle_escape (s : Text) : ∀ fuel, (Writer.escape s).length < fuel →
    middle fuel (Writer.escape s) = Writer.escape s := by
  induction s with
  | nil =>
    intro fuel hfuel
    obtain ⟨fuel, rfl⟩ := Nat.exists_eq_succ_of_ne_zero (Nat.ne_zero_of_lt hfuel)
    rfl
  | cons c s ih =>
    intro fuel hfuel
    obtain ⟨fuel, rfl⟩ := Nat.exists_eq_succ_of_ne_zero (Nat.ne_zero_of_lt hfuel)
    have hcons : Writer.escape (c :: s) = Writer.escapeChar c ++ Writer.escape s := rfl
    rw [hcons, List.length_append] at hfuel
    rw [hcons]
    by_cases hc : Lexer.IsEscaped c
    · obtain ⟨name, hname, hahead⟩ := referenceAhead_escapeChar hc (Writer.escape s)
      rw [hname] at hfuel ⊢
      rw [List.append_assoc, List.cons_append, List.singleton_append, middle, if_pos (by rfl), hahead]
      dsimp only
      rw [ih fuel (by simp only [List.length_append, List.length_cons] at hfuel; omega)]
      rfl
    · obtain ⟨hsame, hplain⟩ := Lexer.escapeChar_of_not_isEscaped hc
      have hamp : (c == '&') = false := beq_eq_false_iff_ne.mpr fun h => hc (.inr (.inl h))
      rw [hsame] at hfuel ⊢
      rw [List.singleton_append, middle, if_neg (by rw [hamp]; exact Bool.false_ne_true), hsame,
        ih fuel (by simp only [List.length_cons, List.length_nil] at hfuel; omega)]
      rfl

/-- 一文字ずつ書き直した文字列の、条件に適う文字の続く始まりは、元の文字列の始まりである。 -/
theorem takeWhile_flatMap_prefix {g : Char → Text} {p : Char → Bool}
    (hg : ∀ c, g c = [c] ∨ ∃ d rest, g c = d :: rest ∧ p d = false) (s : Text) :
    (s.flatMap g).takeWhile p <+: s := by
  induction s with
  | nil => exact List.prefix_rfl
  | cons c s ih =>
    rw [List.flatMap_cons]
    rcases hg c with hsame | ⟨d, rest, hd, hfalse⟩
    · rw [hsame, List.singleton_append, List.takeWhile_cons]
      split
      · exact List.cons_prefix_cons.mpr ⟨rfl, ih⟩
      · exact List.nil_prefix
    · rw [hd, List.cons_append, List.takeWhile_cons, if_neg (by rw [hfalse]; exact Bool.false_ne_true)]
      exact List.nil_prefix

/-- 参照の書き方の両端は、空白でない。 -/
theorem escapeChar_ends (c : Char) : Writer.escapeChar c = [c] ∨
    (∃ d rest, Writer.escapeChar c = d :: rest ∧ isAsciiBlank d = false) ∧
      ∃ d rest, (Writer.escapeChar c).reverse = d :: rest ∧ isAsciiBlank d = false := by
  unfold Writer.escapeChar
  split
  · exact .inr ⟨⟨_, _, rfl, by decide⟩, _, _, rfl, by decide⟩
  · exact .inr ⟨⟨_, _, rfl, by decide⟩, _, _, rfl, by decide⟩
  · exact .inr ⟨⟨_, _, rfl, by decide⟩, _, _, rfl, by decide⟩
  · exact .inl rfl

/-- 空白は、そのまま書かれる。 -/
theorem escape_of_blank {s : Text} (h : ∀ c ∈ s, isAsciiBlank c = true) : Writer.escape s = s := by
  induction s with
  | nil => rfl
  | cons c s ih =>
    have hc : ¬ Lexer.IsEscaped c := by
      have hblank := h c (by simp)
      rintro (rfl | rfl | rfl) <;> exact absurd hblank (by decide)
    rw [Writer.escape, List.flatMap_cons, (Lexer.escapeChar_of_not_isEscaped hc).1]
    exact congrArg (c :: ·) (ih fun d hd => h d (List.mem_cons_of_mem c hd))

theorem blank_of_mem_takeWhile (s : Text) : ∀ c ∈ s.takeWhile isAsciiBlank, isAsciiBlank c = true :=
  List.all_eq_true.mp List.all_takeWhile

/-- 書き方に直した文字列の始めの空白は、元の文字列の始めの空白である。 -/
theorem exists_escape_left (s : Text) :
    ∃ s', s = (Writer.escape s).takeWhile isAsciiBlank ++ s' ∧
      Writer.escape s = (Writer.escape s).takeWhile isAsciiBlank ++ Writer.escape s' := by
  obtain ⟨s', hs'⟩ := takeWhile_flatMap_prefix (g := Writer.escapeChar) (p := isAsciiBlank)
    (fun c => (escapeChar_ends c).imp_right (·.1)) s
  have hwhole := congrArg Writer.escape hs'.symm
  rw [Writer.escape_append, escape_of_blank (blank_of_mem_takeWhile _)] at hwhole
  exact ⟨s', hs'.symm, hwhole⟩

/-- 書き方に直した文字列の終わりの空白は、元の文字列の終わりの空白である。 -/
theorem exists_escape_right (s : Text) :
    ∃ s', s = s' ++ ((Writer.escape s).reverse.takeWhile isAsciiBlank).reverse ∧
      Writer.escape s
        = Writer.escape s' ++ ((Writer.escape s).reverse.takeWhile isAsciiBlank).reverse := by
  have hreverse : (Writer.escape s).reverse
      = s.reverse.flatMap fun c => (Writer.escapeChar c).reverse := by
    rw [Writer.escape, List.reverse_flatMap]
    rfl
  obtain ⟨s', hs'⟩ := takeWhile_flatMap_prefix (g := fun c => (Writer.escapeChar c).reverse)
    (p := isAsciiBlank) (fun c => (escapeChar_ends c).imp (fun h => by rw [h]; rfl) (·.2)) s.reverse
  rw [← hreverse] at hs'
  have hs : s = s'.reverse ++ ((Writer.escape s).reverse.takeWhile isAsciiBlank).reverse := by
    rw [← List.reverse_append, hs', List.reverse_reverse]
  have hwhole := congrArg Writer.escape hs
  rw [Writer.escape_append, escape_of_blank fun c hc =>
    blank_of_mem_takeWhile _ c (List.mem_reverse.mp hc)] at hwhole
  exact ⟨s'.reverse, hs, hwhole⟩

/-- **見えない文字がなければ、書き方に直した文字列は濾しても変わらない。** -/
theorem text_escape {s : Text} (hs : s.all (!isInvisible ·) = true) :
    text (Writer.escape s) = Writer.escape s := by
  -- 両端の空白を除いた残りは、元の文字列の残りを書き直したものである
  obtain ⟨s₁, hleft, hwhole⟩ := exists_escape_left s
  obtain ⟨s₂, hright, hinner⟩ := exists_escape_right s₁
  have hvisible : (Writer.escape s₂).all (!isInvisible ·) = true := by
    refine Writer.all_escape (by decide) (List.all_eq_true.mpr fun c hc => ?_)
    refine List.all_eq_true.mp hs c ?_
    rw [hleft, hright]
    simp [hc]
  have hmap : ((Writer.escape s₂).map fun c => if isInvisible c then '?' else c)
      = Writer.escape s₂ := by
    refine (List.map_congr_left fun c hc => ?_).trans (List.map_id _)
    have hc := List.all_eq_true.mp hvisible c hc
    rw [Bool.not_eq_true'] at hc
    rw [hc]
    rfl
  unfold text
  dsimp only
  generalize (Writer.escape s).takeWhile isAsciiBlank = left at hwhole ⊢
  rw [hwhole, List.drop_left]
  generalize ((Writer.escape s₁).reverse.takeWhile isAsciiBlank).reverse = right at hinner ⊢
  rw [hinner, List.length_append, Nat.add_sub_cancel, List.take_left, hmap,
    middle_escape s₂ _ (Nat.lt_succ_self _), List.append_assoc]

end Clean

/-! ## 段落の並び -/

/-- 文字列を一つずつ持つ段落の並び。段落の間には改行を置く。 -/
def paragraphTree : List Text → Fragment
  | [] => .nil
  | [line] => .element "p" [] (.text line .nil) .nil
  | line :: next :: lines =>
    .element "p" [] (.text line .nil) (.text ['\n'] (paragraphTree (next :: lines)))

/-- 段落の文字列として、そのまま残る文字か。復帰と、見えない制御文字のほかである。 -/
def isKept (c : Char) : Bool := c != '\r' && !Clean.isInvisible c

theorem write_paragraph (line : Text) (rest : Fragment) :
    write (.element "p" [] (.text line .nil) rest)
      = "<p>".toList ++ (Writer.escape line ++ ("</p>".toList ++ write rest)) := by
  have hvoid : isVoid "p" = false := by decide
  rw [write, hvoid, Bool.false_and, if_neg Bool.false_ne_true]
  simp [write, Writer.opening, Writer.closing]

theorem write_newline (rest : Fragment) : write (.text ['\n'] rest) = '\n' :: write rest := rfl

/-- 段落の並びの書き出しは、書いた段落を改行でつないだものである。 -/
theorem write_paragraphTree (lines : List Text) : write (paragraphTree lines)
    = Text.join ['\n'] (lines.map fun line => "<p>".toList ++ Writer.escape line ++ "</p>".toList) := by
  fun_induction paragraphTree lines with
  | case1 => rfl
  | case2 line =>
    rw [write_paragraph]
    simp [Text.join, List.intercalate, write]
  | case3 line next lines ih =>
    rw [write_paragraph, write_newline, ih]
    simp [Text.join, List.intercalate]

/-- 空でも空白だけでもない文字列の段落の並びは、整っている。 -/
theorem tidy_paragraphTree {lines : List Text}
    (h : ∀ line ∈ lines, line.all isAsciiBlank = false) : Tidy (paragraphTree lines) := by
  have hname : Lexer.IsTidyName "p" := by decide +kernel
  have htext : ∀ line ∈ lines, Tidy (.text line .nil) := by
    intro line hline
    have hline := h line hline
    refine ⟨?_, ?_, rfl, trivial⟩
    · rintro rfl
      cases hline
    · rw [Reader.collapse, if_neg (by rw [hline]; exact Bool.false_ne_true)]
  fun_induction paragraphTree lines with
  | case1 => trivial
  | case2 line => exact ⟨hname, rfl, htext line (by simp), trivial⟩
  | case3 line next lines ih =>
    have hrest := ih (fun t ht => h t (List.mem_cons_of_mem line ht))
      fun t ht => htext t (List.mem_cons_of_mem line ht)
    refine ⟨hname, rfl, htext line (by simp), by simp, rfl, ?_, hrest⟩
    cases lines <;> rfl

/-! ## 段落の並びを濾す -/

namespace Token

theorem tagMarkup_paragraph (event : String → List Attribute → Token) (lead rest : Text) :
    markup.tagMarkup event lead ('p' :: '>' :: rest) = ([event "p" []], rest) := by
  have htake : ('p' :: '>' :: rest).takeWhile
      (fun c => !(isAsciiBlank c || c == '/' || c == '>')) = ['p'] := rfl
  have hdrop : ('p' :: '>' :: rest).drop ['p'].length = '>' :: rest := rfl
  have htag : tagRest ('>' :: rest).length.succ [] ('>' :: rest) = .closed [] rest := by
    rw [tagRest, if_pos (by rfl)]
  have hname : lowerName ['p'] = "p" := by decide
  unfold markup.tagMarkup
  dsimp only
  rw [htake, hdrop, htag, hname]
  exact if_neg Bool.false_ne_true

theorem tokens_opening (fuel : Nat) (rest : Text) :
    tokens (fuel + 1) ("<p>".toList ++ rest) = .start "p" [] :: tokens fuel rest := by
  have hmark : markup ('p' :: '>' :: rest) = some ([.start "p" []], rest) :=
    congrArg some (tagMarkup_paragraph _ _ rest)
  show tokens (fuel + 1) ('<' :: 'p' :: '>' :: rest) = _
  rw [tokens, if_pos (by rfl), hmark]
  rfl

theorem tokens_closing (fuel : Nat) (rest : Text) :
    tokens (fuel + 1) ("</p>".toList ++ rest) = .stop "p" :: tokens fuel rest := by
  have hmark : markup ('/' :: 'p' :: '>' :: rest) = some ([.stop "p"], rest) :=
    congrArg some (tagMarkup_paragraph _ _ rest)
  show tokens (fuel + 1) ('<' :: '/' :: 'p' :: '>' :: rest) = _
  rw [tokens, if_pos (by rfl), hmark]
  rfl

/-- 書き方に直した文字列は、次の印までが一つの地の文になる。 -/
theorem tokens_escape {s : Text} (hs : s ≠ []) (hkept : s.all isKept = true) (fuel : Nat)
    (rest : Text) : tokens (fuel + 1) (Writer.escape s ++ '<' :: rest)
      = .text (Writer.escape s) :: tokens fuel ('<' :: rest) := by
  obtain ⟨c, tail, hcons⟩ := List.exists_cons_of_ne_nil (Writer.escape_ne_nil hs)
  have hmark : ∀ d ∈ Writer.escape s, d ≠ '<' := fun d hd => (Writer.escape_no_mark s d hd).1
  have htake : (Writer.escape s ++ '<' :: rest).takeWhile (· != '<') = Writer.escape s := by
    rw [List.takeWhile_append_of_pos fun d hd => bne_iff_ne.mpr (hmark d hd)]
    simp
  have hnull : dropNull (Writer.escape s) = Writer.escape s := by
    have hall : (Writer.escape s).all (· != '\x00') = true := by
      refine Writer.all_escape (by decide) (List.all_eq_true.mpr fun d hd => bne_iff_ne.mpr ?_)
      rintro rfl
      exact absurd (List.all_eq_true.mp hkept _ hd) (by decide)
    exact List.filter_eq_self.mpr (List.all_eq_true.mp hall)
  have hc : (c == '<') = false := beq_eq_false_iff_ne.mpr (hmark c (by rw [hcons]; simp))
  have htokens : textTokens (Writer.escape s) = [.text (Writer.escape s)] := by
    unfold textTokens
    rw [hcons]
    rfl
  rw [hcons] at htake hnull htokens ⊢
  rw [List.cons_append] at htake ⊢
  rw [tokens, if_neg (by rw [hc]; exact Bool.false_ne_true)]
  dsimp only
  rw [htake, hnull, htokens, ← List.cons_append, List.drop_left]
  rfl

/-- 段落の並びの出来事の列。 -/
def ofParagraphs : List Text → List Token
  | [] => []
  | [line] => [.start "p" [], .text (Writer.escape line), .stop "p"]
  | line :: next :: lines =>
    .start "p" [] :: .text (Writer.escape line) :: .stop "p" :: .text ['\n']
      :: ofParagraphs (next :: lines)

/-- 書いた段落の出来事は三つである。 -/
theorem tokens_paragraph {line : Text} (hline : line ≠ []) (hkept : line.all isKept = true)
    (fuel : Nat) (rest : Fragment) :
    tokens (fuel + 3) (write (.element "p" [] (.text line .nil) rest))
      = .start "p" [] :: .text (Writer.escape line) :: .stop "p" :: tokens fuel (write rest) := by
  rw [write_paragraph, tokens_opening]
  rw [show "</p>".toList ++ write rest = '<' :: ("/p>".toList ++ write rest) from rfl,
    tokens_escape hline hkept]
  rw [show '<' :: ("/p>".toList ++ write rest) = "</p>".toList ++ write rest from rfl,
    tokens_closing]

/-- 段落で始まる並びの書き出しは、印で始まる。 -/
theorem exists_write_paragraphTree (line : Text) (lines : List Text) :
    ∃ rest, write (paragraphTree (line :: lines)) = '<' :: rest := by
  cases lines with
  | nil => exact ⟨_, write_paragraph line .nil⟩
  | cons next lines => exact ⟨_, write_paragraph line _⟩

theorem tokens_paragraphTree {lines : List Text}
    (h : ∀ line ∈ lines, line ≠ [] ∧ line.all isKept = true) :
    ∀ fuel, (write (paragraphTree lines)).length < fuel →
      tokens fuel (write (paragraphTree lines)) = ofParagraphs lines := by
  fun_induction paragraphTree lines with
  | case1 =>
    intro fuel hfuel
    obtain ⟨fuel, rfl⟩ := Nat.exists_eq_succ_of_ne_zero (Nat.ne_zero_of_lt hfuel)
    rfl
  | case2 line =>
    intro fuel hfuel
    obtain ⟨hline, hkept⟩ := h line (by simp)
    rw [write_paragraph] at hfuel
    obtain ⟨fuel, rfl⟩ : ∃ k, fuel = k + 1 + 3 := ⟨fuel - 4, by simp at hfuel; omega⟩
    rw [tokens_paragraph hline hkept]
    rfl
  | case3 line next lines ih =>
    intro fuel hfuel
    obtain ⟨hline, hkept⟩ := h line (by simp)
    rw [write_paragraph, write_newline] at hfuel
    obtain ⟨fuel, rfl⟩ : ∃ k, fuel = k + 1 + 3 := ⟨fuel - 4, by simp at hfuel; omega⟩
    obtain ⟨rest, hrest⟩ := exists_write_paragraphTree next lines
    have hnewline : tokens (fuel + 1) ('\n' :: '<' :: rest)
        = .text ['\n'] :: tokens fuel ('<' :: rest) :=
      tokens_escape (s := ['\n']) (by simp) (by decide) fuel rest
    rw [tokens_paragraph hline hkept, write_newline, hrest, hnewline, ← hrest,
      ih (fun t ht => h t (List.mem_cons_of_mem line ht)) fuel (by simp at hfuel; omega)]
    rfl

/-- 段落は、濾しても外されない。 -/
theorem unwrap_ofParagraphs (lines : List Text) :
    ∀ seen, unwrap seen (ofParagraphs lines) = ofParagraphs lines := by
  have hallowed : allowedNames.contains "p" = true := by decide
  fun_induction ofParagraphs lines with
  | case1 => exact fun _ => rfl
  | case2 line =>
    intro seen
    simp only [unwrap, hallowed, if_true]
  | case3 line next lines ih =>
    intro seen
    simp only [unwrap, hallowed, if_true, ih]

theorem read_paragraphTree {lines : List Text}
    (h : ∀ line ∈ lines, line ≠ [] ∧ line.all isKept = true) :
    read (write (paragraphTree lines)) = ofParagraphs lines := by
  unfold read
  rw [tokens_paragraphTree h _ (Nat.lt_succ_self _), unwrap_ofParagraphs]

end Token

namespace Balance

open Token

/-- 段落の出来事を読むと、段落が一つ加わる。 -/
theorem foldl_paragraph {line : Text} (hline : line ≠ []) (content : Fragment)
    (later : List Token) :
    (.start "p" [] :: .text line :: .stop "p" :: later).foldl step ⟨[], content⟩
      = later.foldl step ⟨[], .element "p" [] (.text line .nil) content⟩ := by
  obtain ⟨c, tail, rfl⟩ := List.exists_cons_of_ne_nil hline
  rfl

/-- 段落の並びを読むと、書き方に直した文字列を持つ段落の並びが加わる。 -/
theorem foldl_ofParagraphs {lines : List Text} (h : ∀ line ∈ lines, line ≠ []) :
    ∀ content, (ofParagraphs lines).foldl step ⟨[], content⟩
      = ⟨[], (paragraphTree (lines.map Writer.escape)).reverseOnto content⟩ := by
  fun_induction ofParagraphs lines with
  | case1 => exact fun _ => rfl
  | case2 line =>
    intro content
    rw [foldl_paragraph (Writer.escape_ne_nil (h line (by simp)))]
    rfl
  | case3 line next lines ih =>
    intro content
    rw [foldl_paragraph (Writer.escape_ne_nil (h line (by simp))), List.foldl_cons]
    exact ih (fun t ht => h t (List.mem_cons_of_mem line ht)) _

theorem build_paragraphTree {lines : List Text} (h : ∀ line ∈ lines, line ≠ []) :
    build (ofParagraphs lines) = paragraphTree (lines.map Writer.escape) := by
  unfold build
  rw [foldl_ofParagraphs h .nil]
  exact Fragment.reverse_reverseOnto_nil _

end Balance

/-- 濾した木の書き出しは、元の段落の並びの書き出しである。 -/
theorem Clean.write_paragraphTree {lines : List Text}
    (h : ∀ line ∈ lines, line.all isKept = true) :
    Clean.write (paragraphTree (lines.map Writer.escape)) = Markup.write (paragraphTree lines) := by
  have hparagraph : ∀ (line : Text) (rest : Fragment),
      Clean.write (.element "p" [] (.text line .nil) rest)
        = "<p>".toList ++ (Clean.text line ++ ("</p>".toList ++ Clean.write rest)) := by
    intro line rest
    simp [Clean.write, Clean.opening, Writer.closing]
  have htext : ∀ line ∈ lines, Clean.text (Writer.escape line) = Writer.escape line := by
    intro line hline
    refine Clean.text_escape (List.all_eq_true.mpr fun c hc => ?_)
    have hkept := List.all_eq_true.mp (h line hline) c hc
    exact (Bool.and_eq_true _ _ ▸ hkept).2
  have hnewline : Clean.text ['\n'] = ['\n'] := by decide
  induction lines with
  | nil => rfl
  | cons line lines ih =>
    have hrest := ih (fun t ht => h t (List.mem_cons_of_mem line ht))
      fun t ht => htext t (List.mem_cons_of_mem line ht)
    cases lines with
    | nil =>
      rw [List.map_singleton, paragraphTree, paragraphTree, write_paragraph, hparagraph,
        htext line (by simp)]
      rfl
    | cons next lines =>
      rw [List.map_cons, List.map_cons, paragraphTree, paragraphTree, write_paragraph, hparagraph,
        htext line (by simp), Clean.write, hnewline, write_newline, ← List.map_cons, hrest]
      rfl

/-- 復帰のない文字列の段落の並びは、書き出しても復帰を含まない。 -/
theorem return_not_mem_write {lines : List Text} (h : ∀ line ∈ lines, line.all isKept = true) :
    '\r' ∉ write (paragraphTree lines) := by
  have hescape : ∀ line ∈ lines, '\r' ∉ Writer.escape line := by
    intro line hline hmem
    have hall : (Writer.escape line).all (· != '\r') = true := by
      refine Writer.all_escape (by decide) (List.all_eq_true.mpr fun c hc => ?_)
      have hkept := List.all_eq_true.mp (h line hline) c hc
      exact (Bool.and_eq_true _ _ ▸ hkept).1
    exact absurd (List.all_eq_true.mp hall _ hmem) (by decide)
  have hparagraph : ∀ line ∈ lines, ∀ rest, '\r' ∉ write rest →
      '\r' ∉ write (.element "p" [] (.text line .nil) rest) := by
    intro line hline rest hrest hmem
    rw [write_paragraph] at hmem
    rcases List.mem_append.mp hmem with hmem | hmem
    · exact absurd hmem (by decide)
    rcases List.mem_append.mp hmem with hmem | hmem
    · exact hescape line hline hmem
    rcases List.mem_append.mp hmem with hmem | hmem
    · exact absurd hmem (by decide)
    · exact hrest hmem
  fun_induction paragraphTree lines with
  | case1 => exact List.not_mem_nil
  | case2 line => exact hparagraph line (by simp) .nil List.not_mem_nil
  | case3 line next lines ih =>
    refine hparagraph line (by simp) _ ?_
    rw [write_newline]
    have hrest := ih (fun t ht => h t (List.mem_cons_of_mem line ht))
      (fun t ht => hescape t (List.mem_cons_of_mem line ht))
      fun t ht => hparagraph t (List.mem_cons_of_mem line ht)
    simpa using hrest

/-- 段落の並びに、除く要素はない。 -/
theorem without_paragraphTree (lines : List Text) :
    (paragraphTree lines).without droppedNames = paragraphTree lines := by
  have hdropped : "p" ∉ droppedNames := by decide
  fun_induction paragraphTree lines with
  | case1 => rfl
  | case2 line => simp [Fragment.without, hdropped]
  | case3 line next lines ih => simp [Fragment.without, hdropped, ih]

/-- **段落の並びの書き出しは、整えても変わらない。** -/
theorem sanitize_paragraphTree {lines : List Text}
    (hblank : ∀ line ∈ lines, line.all isAsciiBlank = false)
    (hkept : ∀ line ∈ lines, line.all isKept = true) :
    sanitize (write (paragraphTree lines)) = .ok (write (paragraphTree lines)) := by
  have hne : ∀ line ∈ lines, line ≠ [] := by
    rintro line hline rfl
    cases hblank [] hline
  unfold sanitize
  rw [read_write (tidy_paragraphTree hblank)]
  show Except.ok (clean (write ((paragraphTree lines).without droppedNames))) = _
  rw [without_paragraphTree]
  unfold clean
  rw [Utf8.unifyLineEnds_of_not_mem (return_not_mem_write hkept),
    Token.read_paragraphTree fun line hline => ⟨hne line hline, hkept line hline⟩,
    Balance.build_paragraphTree hne, Clean.write_paragraphTree hkept]

end Markup

end Tategaki
