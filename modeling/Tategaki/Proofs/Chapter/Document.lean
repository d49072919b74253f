import Tategaki.Chapter.Converter
import Tategaki.Proofs.Markup.Xml

/-!
# 書き上げた文書

許した要素と、使える文字だけからなる章の木（`Plain`）を書き出した文書は、XML の整った文書であり、検めを通る。
宣言は先頭に一つだけあり、宣言を取り除く手続きは、雛形のもののほかに何も取り除かない。題名の要素の中身は、参照を
読み直せば元の題名に戻る（`render_wellFormed`）。

木の書き出しが文法に従うことを木についての帰納法で示す（`content_write`）。宣言の現れないことと使える文字だけから
なることは、文法の性質から出る。
-/

namespace Tategaki

/-! ## 一文字の置き換え -/

namespace Text

theorem dropLead?_singleton (x c : Char) (s : Text) :
    dropLead? [x] (c :: s) = if x == c then some s else none := rfl

/-- 一文字を置き換えることは、一文字ずつ書き直すことである。 -/
theorem replaceAll_singleton (x : Char) (new s : Text) :
    replaceAll [x] new s = s.flatMap fun c => if x == c then new else [c] := by
  -- 読みかけの一片を前に付けた形で、歩数についての帰納法による
  have key : ∀ fuel (piece s : Text), s.length ≤ fuel →
      ∃ first rest, splitOn.go [x] fuel piece s = first :: rest ∧
        join new (first :: rest)
          = piece.reverse ++ s.flatMap fun c => if x == c then new else [c] := by
    intro fuel
    induction fuel with
    | zero =>
      intro piece s hs
      rw [List.length_eq_zero_iff.mp (Nat.le_zero.mp hs)]
      exact ⟨_, [], rfl, by simp [join, List.intercalate]⟩
    | succ fuel ih =>
      intro piece s hs
      cases s with
      | nil => exact ⟨_, [], rfl, by simp [join, List.intercalate]⟩
      | cons c s =>
        have hlen : s.length ≤ fuel := Nat.le_of_succ_le_succ hs
        rw [splitOn.go, dropLead?_singleton]
        by_cases hc : (x == c) = true
        · obtain ⟨first, rest, hgo, hjoin⟩ := ih [] s hlen
          rw [if_pos hc]
          refine ⟨piece.reverse, first :: rest, by dsimp only; rw [hgo], ?_⟩
          have hcons : join new (piece.reverse :: first :: rest)
              = piece.reverse ++ new ++ join new (first :: rest) := by
            simp [join, List.intercalate]
          rw [hcons, hjoin, List.flatMap_cons, if_pos hc, List.append_assoc]
          rfl
        · obtain ⟨first, rest, hgo, hjoin⟩ := ih (c :: piece) s hlen
          rw [if_neg hc]
          refine ⟨first, rest, hgo, ?_⟩
          rw [hjoin, List.flatMap_cons, if_neg hc, List.reverse_cons, List.append_assoc]
  obtain ⟨first, rest, hgo, hjoin⟩ := key s.length [] s (Nat.le_refl _)
  unfold replaceAll splitOn
  rw [hgo, hjoin]
  rfl

end Text

namespace Markup

open Xml

/-! ## 木の書き出し -/

/-- 許した要素と、条件 `legal` に適う文字だけからなる木。属性は、あってもクラスだけである。 -/
def Plain (legal : Char → Bool) : Fragment → Prop
  | .nil => True
  | .text s rest => s.all legal = true ∧ Plain legal rest
  | .special _ _ _ => False
  | .element name attributes content rest =>
    name ∈ allowedNames ∧
      (attributes = [] ∨ ∃ value : Text, attributes = [⟨"class", value⟩] ∧ value.all legal = true) ∧
      Plain legal content ∧ Plain legal rest

theorem Plain.mono {legal legal' : Char → Bool} (h : ∀ c, legal c = true → legal' c = true)
    {f : Fragment} (hf : Plain legal f) : Plain legal' f := by
  have hall : ∀ {s : Text}, s.all legal = true → s.all legal' = true := fun hs =>
    List.all_eq_true.mpr fun c hc => h c (List.all_eq_true.mp hs c hc)
  induction f with
  | nil => trivial
  | text s rest ih => exact ⟨hall hf.1, ih hf.2⟩
  | special kind s rest ih => exact hf
  | element name attributes content rest ihc ih =>
    obtain ⟨hname, hattributes, hcontent, hrest⟩ := hf
    refine ⟨hname, ?_, ihc hcontent, ih hrest⟩
    rcases hattributes with hnil | ⟨value, hvalue, hlegal⟩
    · exact .inl hnil
    · exact .inr ⟨value, hvalue, hall hlegal⟩

variable {legal : Char → Bool}

theorem ref_entity (name : String) (h : name ∈ entityNames) {stop : Char} :
    Chars legal stop ('&' :: name.toList ++ [';']) := (Ref.entity name h).chars

/-- 一文字の書き方は、文字か参照である。 -/
theorem chars_escapeChar {stop c : Char} (hc : legal c = true) (hstop : c ≠ stop) :
    Chars legal stop (Writer.escapeChar c) := by
  unfold Writer.escapeChar
  split
  · exact ref_entity "amp" (by decide)
  · exact ref_entity "lt" (by decide)
  · exact ref_entity "gt" (by decide)
  · next hamp hlt _ => exact .literal hc hlt hamp hstop .nil

/-- 地の文では、`>` も参照で書かれる。 -/
theorem chars_escape {s : Text} (hs : s.all legal = true) : Chars legal '>' (Writer.escape s) := by
  refine Chars.flatMap fun c hc => ?_
  by_cases hgt : c = '>'
  · subst hgt
    exact ref_entity "gt" (by decide)
  · exact chars_escapeChar (List.all_eq_true.mp hs c hc) hgt

/-- 書き出した値に引用符がなければ、元の値にもない。 -/
theorem ne_of_not_mem_escape {s : Text} {q : Char} (hq : Writer.escapeChar q = [q])
    (h : q ∉ Writer.escape s) : ∀ c ∈ s, c ≠ q := by
  rintro c hc rfl
  exact h (List.mem_flatMap.mpr ⟨c, hc, by rw [hq]; exact List.mem_singleton.mpr rfl⟩)

/-- **引用符で囲んだ値は、属性の値である。** -/
theorem attValue_quote {s : Text} (hs : s.all legal = true) :
    AttValue legal (Writer.quote (Writer.escape s)) := by
  have hlegal := List.all_eq_true.mp hs
  unfold Writer.quote
  split
  · next hquote =>
    have hne := ne_of_not_mem_escape (q := '"') rfl (by simpa using hquote)
    exact .quoted (.inl rfl) (.flatMap fun c hc => chars_escapeChar (hlegal c hc) (hne c hc))
  · split
    · next hquote =>
      have hne := ne_of_not_mem_escape (q := '\'') rfl (by simpa using hquote)
      exact .quoted (.inr rfl) (.flatMap fun c hc => chars_escapeChar (hlegal c hc) (hne c hc))
    · rw [Text.replaceAll_singleton, Writer.escape, List.flatMap_assoc]
      refine .quoted (.inl rfl) (.flatMap fun c hc => ?_)
      by_cases hquote : c = '"'
      · subst hquote
        exact ref_entity "quot" (by decide)
      · -- 二重の引用符のほかは、書き直した後も変わらない
        have hsame : ((Writer.escapeChar c).flatMap fun d =>
            if '"' == d then ['&', 'q', 'u', 'o', 't', ';'] else [d]) = Writer.escapeChar c := by
          unfold Writer.escapeChar
          split
          · rfl
          · rfl
          · rfl
          · simp [Ne.symm hquote]
        rw [hsame]
        exact chars_escapeChar (hlegal c hc) hquote

theorem attributes_class {value : Text} (hv : value.all legal = true) :
    Attributes legal ["class".toList] (Writer.writeAttribute ⟨"class", value⟩) := by
  have h := Attributes.cons "class".toList (by decide) (by simp) (attValue_quote hv) .nil
  rwa [List.append_nil] at h

/-- **使える木の書き出しは、要素の中身の文法に従う。** -/
theorem content_write {f : Fragment} (hf : Plain legal f) : Content legal (write f) := by
  have hnames : ∀ name ∈ allowedNames, isName name.toList = true := by decide
  induction f with
  | nil => exact .nil
  | text s rest ih => exact .text (chars_escape hf.1) (ih hf.2)
  | special kind s rest ih => cases hf
  | element name attributes content rest ihc ih =>
    obtain ⟨hname, hattributes, hcontent, hrest⟩ := hf
    obtain ⟨names, ha⟩ : ∃ names, Attributes legal names (attributes.flatMap Writer.writeAttribute)
    · rcases hattributes with rfl | ⟨value, rfl, hvalue⟩
      · exact ⟨_, .nil⟩
      · refine ⟨["class".toList], ?_⟩
        rw [List.flatMap_singleton]
        exact attributes_class hvalue
    unfold write
    split
    · exact .empty name.toList [] (hnames name hname) ha rfl (ih hrest)
    · exact .element name.toList (hnames name hname) ha (ihc hcontent) (ih hrest)

end Markup

namespace Chapter

open Markup Surrogate Xml

/-! ## 使える文字 -/

/-- 使えない文字は、文書に書けない文字である。 -/
theorem isForbidden_eq (c : Char) : isForbidden c = !isChar c := by
  have hvalid := c.valid
  have hval : c.toNat = c.val.toNat := rfl
  rw [Bool.eq_iff_iff]
  simp only [isForbidden, isChar, Bool.or_eq_true, Bool.and_eq_true, decide_eq_true_eq, beq_iff_eq,
    Bool.not_eq_true', Bool.or_eq_false_iff, Bool.and_eq_false_iff, decide_eq_false_iff_not,
    beq_eq_false_iff_ne, UInt32.isValidChar, Nat.isValidChar] at hvalid ⊢
  omega

/-- 文書に書ける文字で、代用符号位置の代わりでもない。 -/
def isWritable (block : Option Block) (c : Char) : Bool :=
  isChar c && block.all fun b => !b.contains c

theorem isChar_of_isWritable {block : Option Block} {c : Char} (h : isWritable block c = true) :
    isChar c = true :=
  (Bool.and_eq_true _ _ ▸ h).1

theorem allowsAscii_isChar : AllowsAscii isChar := fun _ h => (Bool.and_eq_true _ _ ▸ h).1

/-- ASCII の文字は、代用符号位置の代わりに使われない。 -/
theorem allowsAscii_isWritable (block : Option Block) : AllowsAscii (isWritable block) := by
  intro c h
  rw [isAscii, Bool.and_eq_true, decide_eq_true_eq] at h
  rw [isWritable, h.1, Bool.true_and]
  cases block with
  | none => rfl
  | some b =>
    have hbase : c.toNat < b.base :=
      Nat.lt_of_lt_of_le (Nat.lt_trans h.2 (by decide)) b.le_base
    simp [Block.contains, Nat.not_le.mpr hbase]

/-- 使える文字だけからなる文書は、検めを通る。 -/
theorem verify_of_isWritable {block : Option Block} {document : Text}
    (h : document.all (isWritable block) = true) : verify block document = .ok document := by
  have hall := List.all_eq_true.mp h
  have hforbidden : ∀ c ∈ document, isForbidden c = false := fun c hc => by
    rw [isForbidden_eq, isChar_of_isWritable (hall c hc)]
    rfl
  have hrun : (block.bind fun b => b.firstRun? 0 document) = none := by
    cases block with
    | none => rfl
    | some b =>
      refine Block.firstRun?_eq_none_iff.mpr (List.any_eq_false.mpr fun c hc => ?_)
      have hwritable := hall c hc
      simp only [isWritable, Option.all_some, Bool.and_eq_true, Bool.not_eq_true'] at hwritable
      exact Bool.not_eq_true _ ▸ hwritable.2
  unfold verify
  rw [hrun, forbiddenAt?_none {} document hforbidden]

/-! ## 雛形 -/

variable {legal : Char → Bool}

/-- 根の要素の属性。 -/
def rootAttributes : Text :=
  " xmlns=\"http://www.w3.org/1999/xhtml\"".toList
    ++ " xmlns:epub=\"http://www.idpf.org/2007/ops\"".toList ++ " xml:lang=\"ja\"".toList

/-- 符号化を述べる要素の属性。 -/
def metaAttributes : Text := " charset=\"UTF-8\"".toList

/-- 様式を述べる要素の、参照先の手前までの属性。 -/
def linkAttributes : Text := " rel=\"stylesheet\" type=\"text/css\"".toList

/-- 文書の型の宣言から、題名の要素の手前まで。 -/
def beforeTitle : Text :=
  doctype "html".toList ++ ['\n'] ++ startTag "html".toList rootAttributes ['>']
    ++ "\n  ".toList ++ startTag "head".toList [] ['>'] ++ "\n    ".toList

/-- 題名の要素の後ろから、様式の手前まで。 -/
def afterTitle : Text :=
  "\n    ".toList ++ startTag "meta".toList metaAttributes " />".toList ++ "\n    ".toList
    ++ startTag "link".toList linkAttributes " href=\"".toList

theorem head_eq : Document.head = ['\n'] ++ beforeTitle ++ startTag "title".toList [] ['>'] := by
  -- 文字列の定数は、文字の並びに直してから比べる
  delta Document.head language beforeTitle rootAttributes doctype startTag
  simp only [String.toList_append]
  repeat rw [String.toList_ofList]
  rfl

theorem middle_eq : Document.middle = endTag "title".toList ++ afterTitle := by
  delta Document.middle afterTitle metaAttributes linkAttributes startTag endTag
  simp only [String.toList_append]
  repeat rw [String.toList_ofList]
  rfl

theorem bodyStart_eq : Document.bodyStart = ['"'] ++ " />".toList ++ "\n  ".toList
    ++ endTag "head".toList ++ "\n  ".toList ++ startTag "body".toList [] ['>'] ++ ['\n'] := by
  delta Document.bodyStart startTag endTag
  repeat rw [String.toList_ofList]
  rfl

theorem foot_eq : Document.foot = "\n  ".toList ++ endTag "body".toList ++ ['\n']
    ++ endTag "html".toList ++ ['\n'] := by
  delta Document.foot endTag
  repeat rw [String.toList_ofList]
  rfl

section Template

variable (hascii : AllowsAscii legal)
include hascii

/-- 雛形に入れる題名と様式の名前は、どちらも文字と参照の列である。 -/
theorem chars_escape_template {s : Text} (hs : s.all legal = true) {stop : Char}
    (hstop : stop = '>' ∨ stop = '"') : Chars legal stop (escape s) := by
  refine Chars.flatMap fun c hc => ?_
  unfold escapeChar
  split
  · exact ref_entity "amp" (by decide)
  · exact ref_entity "lt" (by decide)
  · exact ref_entity "gt" (by decide)
  · exact ref_entity "quot" (by decide)
  · exact (Ref.number ['2', '7'] (by decide) (by decide) (hascii _ (by decide))).chars
  · next hamp hlt hgt hquot _ =>
    refine .literal (List.all_eq_true.mp hs c hc) hlt hamp ?_ .nil
    rcases hstop with rfl | rfl
    · exact hgt
    · exact hquot

/-- 値に印の文字を含まない属性を加える。 -/
theorem attributes_cons {names : List Text} (name value : Text) {rest s : Text}
    (hn : isName name = true) (hnew : names.contains name = false)
    (hv : isPlainAscii '"' value = true) (hr : Attributes legal names rest)
    (hs : s = ' ' :: name ++ '=' :: ('"' :: value ++ ['"']) ++ rest) :
    Attributes legal (name :: names) s :=
  hs ▸ .cons name hn (by simpa using hnew) (.quoted (.inl rfl) (chars_of_isPlainAscii hascii hv)) hr

theorem attributes_root : ∃ names, Attributes legal names rootAttributes :=
  ⟨_, attributes_cons hascii "xmlns".toList "http://www.w3.org/1999/xhtml".toList (by decide)
    (by decide) (by decide) (attributes_cons hascii "xmlns:epub".toList
      "http://www.idpf.org/2007/ops".toList (by decide) (by decide) (by decide)
      (attributes_cons hascii "xml:lang".toList "ja".toList (by decide)
        (by decide) (by decide) .nil rfl) rfl) (by
          delta rootAttributes
          repeat rw [String.toList_ofList]
          rfl)⟩

theorem attributes_meta : ∃ names, Attributes legal names metaAttributes :=
  ⟨_, attributes_cons hascii "charset".toList "UTF-8".toList
    (by decide) (by decide) (by decide) .nil rfl⟩

theorem attributes_link {stylesheet : Text} (hs : stylesheet.all legal = true) :
    ∃ names, Attributes legal names
      (linkAttributes ++ " href=\"".toList ++ escape stylesheet ++ ['"']) := by
  refine ⟨["rel".toList, "type".toList, "href".toList], ?_⟩
  have h := attributes_cons hascii "rel".toList "stylesheet".toList
    (by decide) (by decide) (by decide)
    (attributes_cons hascii "type".toList "text/css".toList
      (by decide) (by decide) (by decide)
      (.cons "href".toList (by decide) (by simp)
        (.quoted (.inl rfl) (chars_escape_template hascii hs (.inr rfl))) .nil) rfl) rfl
  have heq : linkAttributes ++ " href=\"".toList = ' ' :: "rel".toList
      ++ '=' :: ('"' :: "stylesheet".toList ++ ['"']) ++ (' ' :: "type".toList
      ++ '=' :: ('"' :: "text/css".toList ++ ['"']) ++ (' ' :: "href".toList ++ ['=', '"'])) := by
    delta linkAttributes
    repeat rw [String.toList_ofList]
    rfl
  rw [heq]
  simpa only [List.append_assoc, List.cons_append, List.nil_append, List.append_nil] using h

/-- **雛形を埋めた文書は整っている。** -/
theorem document_fill {d : Document} (htitle : d.title.all legal = true)
    (hstylesheet : d.stylesheet.all legal = true) (hbody : Content legal d.body) :
    Xml.Document legal d.fill := by
  have space : ∀ {s rest : Text}, isPlainAscii '>' s = true → Content legal rest →
      Content legal (s ++ rest) := fun h hr => .text (chars_of_isPlainAscii hascii h) hr
  obtain ⟨_, hroot⟩ := attributes_root hascii
  obtain ⟨_, hmeta⟩ := attributes_meta hascii
  obtain ⟨_, hlink⟩ := attributes_link hascii hstylesheet
  have htitleText : Content legal (escape d.title ++ []) :=
    .text (chars_escape_template hascii htitle (.inl rfl)) .nil
  have hhead : Content legal _ :=
    space (s := "\n    ".toList) (by decide)
      (.element "title".toList (by decide) .nil htitleText
        (space (s := "\n    ".toList) (by decide)
          (.empty "meta".toList [' '] (by decide) hmeta (by decide)
            (space (s := "\n    ".toList) (by decide)
              (.empty "link".toList [' '] (by decide) hlink (by decide)
                (space (s := "\n  ".toList) (by decide) .nil))))))
  have hbodyText : Content legal _ :=
    space (s := ['\n']) (by decide)
      (hbody.append (space (s := "\n  ".toList) (by decide) .nil))
  have hinner : Content legal _ :=
    space (s := "\n  ".toList) (by decide)
      (.element "head".toList (by decide) .nil hhead
        (space (s := "\n  ".toList) (by decide)
          (.element "body".toList (by decide) .nil hbodyText
            (space (s := ['\n']) (by decide) .nil))))
  have hdocument := Xml.Document.root "UTF-8".toList "html".toList ['\n'] ['\n'] ['\n']
    (by decide) (by decide) (by decide) (by decide) (by decide) hroot hinner
  have hdeclaration : xmlDeclaration = declaration "UTF-8".toList := by
    delta xmlDeclaration declaration
    repeat rw [String.toList_ofList]
    rfl
  have hclose : " />".toList = [' ', '/', '>'] := rfl
  unfold Document.fill
  rw [hdeclaration, head_eq, middle_eq, bodyStart_eq, foot_eq]
  delta beforeTitle afterTitle
  simpa only [hclose, startTag, List.append_assoc, List.cons_append, List.nil_append,
    List.append_nil] using hdocument

end Template

/-! ## 宣言 -/

/-- 印の始まりの次に `?` が来なければ、取り除くものはない。 -/
theorem stripDeclarations_of_isCalm (fuel : Nat) {s : Text} (h : isCalm s = true) :
    Document.stripDeclarations fuel s = s := by
  induction fuel generalizing s with
  | zero => rfl
  | succ fuel ih =>
    cases s with
    | nil => rfl
    | cons c rest =>
      have hnone : Document.dropDeclaration? (c :: rest) = none := by
        unfold Document.dropDeclaration?
        split
        · rfl
        · next after hdrop =>
          -- 宣言で始まるなら、`<` の次は `?` である
          have hprefix : ['<', '?'] <+: c :: rest := by
            rw [Text.dropLead?_eq_some_iff.mp hdrop]
            exact ⟨['x', 'm', 'l'] ++ after, rfl⟩
          exact absurd hprefix (not_prefix_of_isCalm h)
      rw [isCalm, Bool.and_eq_true] at h
      unfold Document.stripDeclarations
      rw [hnone]
      dsimp only
      rw [ih h.2]

/-- 雛形の、宣言から後ろ。 -/
def afterDeclaration (d : Document) : Text :=
  beforeTitle ++ startTag "title".toList [] ['>'] ++ escape d.title ++ Document.middle
    ++ escape d.stylesheet ++ Document.bodyStart ++ d.body ++ Document.foot

theorem fill_eq (d : Document) : d.fill = xmlDeclaration ++ '\n' :: afterDeclaration d := by
  unfold Document.fill afterDeclaration
  rw [head_eq]
  simp only [List.append_assoc, List.cons_append, List.nil_append]

theorem isCalm_escape (s : Text) : isCalm (escape s) = true :=
  isCalm_of_not_mem fun hmem => (escape_no_mark s '<' hmem).1 rfl

/-- 本文に宣言がなければ、雛形の宣言から後ろにもない。 -/
theorem isCalm_afterDeclaration {d : Document} (h : isCalm d.body = true) :
    isCalm (afterDeclaration d) = true := by
  unfold afterDeclaration
  refine isCalm_append (isCalm_append (isCalm_append (isCalm_append (isCalm_append (isCalm_append
    ?_ (isCalm_escape _)) ?_) (isCalm_escape _)) ?_) h) ?_
  · delta beforeTitle rootAttributes doctype startTag
    repeat rw [String.toList_ofList]
    decide
  · delta Document.middle
    simp only [String.toList_append]
    repeat rw [String.toList_ofList]
    decide
  · delta Document.bodyStart
    rw [String.toList_ofList]
    decide
  · delta Document.foot
    rw [String.toList_ofList]
    decide

/-- 宣言を取り除くと、後に続く空白も取り除かれる。 -/
theorem dropDeclaration?_declaration (inside rest : Text)
    (hinside : inside.all (· != '>') = true) (hlast : inside.getLast? = some '?') :
    Document.dropDeclaration? ("<?xml".toList ++ (inside ++ '>' :: rest))
      = some (rest.dropWhile Unicode.isBlank) := by
  have htake : (inside ++ '>' :: rest).takeWhile (· != '>') = inside := by
    rw [List.takeWhile_append_of_pos (List.all_eq_true.mp hinside),
      List.takeWhile_cons_of_neg (by decide), List.append_nil]
  have hdrop : (inside ++ '>' :: rest).drop (inside.length + 1) = rest := by
    rw [← List.drop_drop, List.drop_left]
    rfl
  unfold Document.dropDeclaration?
  rw [Text.dropLead?_eq_some_iff.mpr rfl]
  dsimp only
  rw [htake, hdrop, hlast, if_pos (by simp)]

theorem xmlDeclaration_eq : xmlDeclaration
    = "<?xml".toList ++ (" version=\"1.0\" encoding=\"UTF-8\"?".toList ++ ['>']) := by
  delta xmlDeclaration
  repeat rw [String.toList_ofList]
  rfl

/-- **本文に宣言がなければ、取り除かれるのは雛形の宣言だけである。** -/
theorem render_eq_fill {d : Document} (h : isCalm d.body = true) : d.render = d.fill := by
  obtain ⟨after, hafter⟩ : ∃ after, afterDeclaration d = '<' :: after := ⟨_, rfl⟩
  have hblank : ('\n' :: afterDeclaration d).dropWhile Unicode.isBlank = afterDeclaration d := by
    rw [List.dropWhile_cons_of_pos (by decide), hafter,
      List.dropWhile_cons_of_neg (by decide)]
  have hdrop : Document.dropDeclaration? d.fill = some (afterDeclaration d) := by
    have hrest := dropDeclaration?_declaration " version=\"1.0\" encoding=\"UTF-8\"?".toList
      ('\n' :: afterDeclaration d) (by decide) (by decide)
    rw [fill_eq, xmlDeclaration_eq, List.append_assoc, List.append_assoc]
    rwa [hblank] at hrest
  have hstrip : Document.stripDeclarations d.fill.length d.fill = afterDeclaration d := by
    have hcons : d.fill ≠ [] := by
      rw [fill_eq]
      exact List.append_ne_nil_of_right_ne_nil _ (List.cons_ne_nil _ _)
    obtain ⟨c, rest, hfill⟩ := List.exists_cons_of_ne_nil hcons
    rw [hfill] at hdrop
    rw [hfill, List.length_cons, Document.stripDeclarations, hdrop]
    exact stripDeclarations_of_isCalm _ (isCalm_afterDeclaration h)
  unfold Document.render
  dsimp only
  rw [hstrip, fill_eq]

/-- **本文に宣言がなければ、宣言は文書の先頭にだけある。** -/
theorem declaration_prefix_iff {d : Document} (h : isCalm d.body = true) (i : Nat) :
    "<?xml".toList <+: d.fill.drop i ↔ i = 0 := by
  rw [fill_eq, xmlDeclaration_eq, List.append_assoc]
  constructor
  · intro hprefix
    cases i with
    | zero => rfl
    | succ i =>
      -- 先頭の `<` を除けば、印の始まりの次に `?` は来ない
      have hcalm : isCalm ("?xml".toList
          ++ (" version=\"1.0\" encoding=\"UTF-8\"?".toList ++ ['>']
            ++ '\n' :: afterDeclaration d)) = true :=
        isCalm_append (by decide) (isCalm_append (by decide)
          (isCalm_append (a := ['\n']) (by decide) (isCalm_afterDeclaration h)))
      have hmark : ['<', '?'] <+: "<?xml".toList := by decide
      exact absurd (hmark.trans hprefix) (not_prefix_of_isCalm (isCalm_drop hcalm i))
  · rintro rfl
    exact ⟨_, rfl⟩

/-! ## 題名 -/

section Unescape

open Markup.Reference

/-- 名前の参照は、その名前の表す文字列に直る。 -/
theorem unescapeFrom_named (fuel : Nat) (name value rest : Text) (hne : name ≠ [])
    (hlength : name.length < 32) (hname : name.all isNameChar = true)
    (hvalue : namedValue name true = value) :
    unescapeFrom (fuel + 1) ('&' :: (name ++ ';' :: rest))
      = (unescapeFrom fuel rest).map (value ++ ·) := by
  obtain ⟨c, tail, rfl⟩ := List.exists_cons_of_ne_nil hne
  have hc : isNameChar c = true := List.all_eq_true.mp hname c List.mem_cons_self
  have hhead : ((c :: tail ++ ';' :: rest).head? == some '#') = false := by
    rw [List.cons_append, List.head?_cons, beq_eq_false_iff_ne]
    rintro ⟨⟩
    revert hc
    decide
  have htake : ((c :: tail ++ ';' :: rest).take 32).takeWhile isNameChar = c :: tail := by
    obtain ⟨n, hn⟩ : ∃ n, 32 - (c :: tail).length = n + 1 := ⟨31 - (c :: tail).length, by omega⟩
    rw [List.take_append, List.take_of_length_le (by omega), hn, List.take_succ_cons,
      List.takeWhile_append_of_pos (List.all_eq_true.mp hname),
      List.takeWhile_cons_of_neg (by decide), List.append_nil]
  rw [unescapeFrom, if_neg (by decide), hhead, if_neg Bool.false_ne_true]
  dsimp only
  rw [htake, if_neg (by simp), List.drop_left,
    show dropSemicolon (';' :: rest) = (true, rest) from rfl]
  dsimp only
  rw [hvalue]

/-- 16 進の番号の参照は、その番号の表す文字列に直る。 -/
theorem unescapeFrom_hex (fuel : Nat) {digits : Text} (rest : Text) (hne : digits ≠ [])
    (hdigits : digits.all isHexDigit = true) :
    unescapeFrom (fuel + 1) ('&' :: '#' :: 'x' :: (digits ++ ';' :: rest))
      = (unescapeFrom fuel rest).map (valueText (hexNumber digits) ++ ·) := by
  have htake : (digits ++ ';' :: rest).takeWhile isHexDigit = digits := by
    rw [List.takeWhile_append_of_pos (List.all_eq_true.mp hdigits),
      List.takeWhile_cons_of_neg (by decide), List.append_nil]
  have hnumeral : numeral? ('x' :: (digits ++ ';' :: rest)) = some (.hex digits, ';' :: rest) := by
    unfold numeral?
    dsimp only
    rw [if_pos (by decide), htake, if_neg (by simpa using hne), List.drop_left]
  rw [unescapeFrom, if_neg (by decide), if_pos (by rfl), List.drop_succ_cons, List.drop_zero,
    hnumeral]
  dsimp only
  rw [show dropSemicolon (';' :: rest) = (true, rest) from rfl]
  dsimp only
  cases unescapeFrom fuel rest <;> rfl

/-- **書き直した文字列の参照を読み直せば、元の文字列に戻る。** -/
theorem unescape_escape (s : Text) : unescape (escape s) = .ok s := by
  have key : ∀ fuel, (escape s).length ≤ fuel → unescapeFrom fuel (escape s) = .ok s := by
    induction s with
    | nil =>
      intro fuel _
      cases fuel <;> rfl
    | cons c s ih =>
      intro fuel hfuel
      have hcons : escape (c :: s) = escapeChar c ++ escape s := rfl
      have hpos : 0 < (escapeChar c).length := by
        unfold escapeChar
        split <;> simp
      rw [hcons, List.length_append] at hfuel
      obtain ⟨fuel, rfl⟩ : ∃ n, fuel = n + 1 := ⟨fuel - 1, by omega⟩
      have hrest : unescapeFrom fuel (escape s) = .ok s := ih fuel (by omega)
      have named : ∀ (name value : Text), name ≠ [] → name.length < 32 →
          name.all isNameChar = true → namedValue name true = value →
          unescapeFrom (fuel + 1) ('&' :: (name ++ ';' :: escape s)) = .ok (value ++ s) := by
        intro name value hne hlength hname hvalue
        rw [unescapeFrom_named fuel name value _ hne hlength hname hvalue, hrest]
        rfl
      rw [hcons]
      unfold escapeChar
      split
      · exact named "amp".toList ['&'] (by decide) (by decide) (by decide) (by decide)
      · exact named "lt".toList ['<'] (by decide) (by decide) (by decide) (by decide)
      · exact named "gt".toList ['>'] (by decide) (by decide) (by decide) (by decide)
      · exact named "quot".toList ['"'] (by decide) (by decide) (by decide) (by decide)
      · rw [show "&#x27;".toList ++ escape s = '&' :: '#' :: 'x' :: ("27".toList ++ ';' :: escape s)
          from rfl, unescapeFrom_hex fuel _ (by decide) (by decide), hrest]
        rfl
      · next hamp _ _ _ _ =>
        have hmark : (c != '&') = true := bne_iff_ne.mpr hamp
        rw [List.singleton_append, unescapeFrom, if_pos hmark, hrest]
        rfl
  exact key _ (Nat.le_refl _)

end Unescape

/-! ## 文書 -/

section Render

variable {block : Option Block} {title stylesheet : Text} {tree : Fragment}

/-- 許した要素と使える文字だけからなる章の文書は、検めを通る。 -/
theorem verify_render (htitle : title.all (isWritable block) = true)
    (hstylesheet : stylesheet.all (isWritable block) = true)
    (htree : Plain (isWritable block) tree) :
    verify block (Document.render ⟨title, stylesheet, write tree⟩)
      = .ok (Document.render ⟨title, stylesheet, write tree⟩) := by
  have hcontent := content_write htree
  rw [render_eq_fill hcontent.isCalm]
  exact verify_of_isWritable ((document_fill (allowsAscii_isWritable block) htitle hstylesheet
    hcontent).all_legal (allowsAscii_isWritable block))

/--
**許した要素と使える文字だけからなる章の文書は、整っている。**

検めは通り、宣言は先頭に一つだけあり、取り除かれる宣言は雛形のものだけである。最初の題名の要素の中身は、印の文字を
含まず、参照を読み直せば題名に戻る。
-/
theorem render_wellFormed (htitle : title.all (isWritable block) = true)
    (hstylesheet : stylesheet.all (isWritable block) = true)
    (htree : Plain (isWritable block) tree) :
    verify block (Document.render ⟨title, stylesheet, write tree⟩)
        = .ok (Document.render ⟨title, stylesheet, write tree⟩) ∧
      Xml.Document isChar (Document.render ⟨title, stylesheet, write tree⟩) ∧
      (∀ i, "<?xml".toList <+: (Document.render ⟨title, stylesheet, write tree⟩).drop i ↔ i = 0) ∧
      Document.render ⟨title, stylesheet, write tree⟩
        = Document.fill ⟨title, stylesheet, write tree⟩ ∧
      ∃ before content after, Document.render ⟨title, stylesheet, write tree⟩
          = before ++ "<title>".toList ++ content ++ "</title>".toList ++ after ∧
        ¬ "<title>".toList <:+: before ∧ '<' ∉ content ∧
        Reference.unescape content = .ok title := by
  have hchar : ∀ c, isWritable block c = true → isChar c = true := fun _ => isChar_of_isWritable
  have hall : ∀ {s : Text}, s.all (isWritable block) = true → s.all isChar = true := fun hs =>
    List.all_eq_true.mpr fun c hc => hchar c (List.all_eq_true.mp hs c hc)
  have hcalm : isCalm (Document.body ⟨title, stylesheet, write tree⟩) = true :=
    (content_write htree).isCalm
  have hverify := verify_render htitle hstylesheet htree
  rw [render_eq_fill hcalm] at hverify ⊢
  refine ⟨hverify, document_fill allowsAscii_isChar (hall htitle) (hall hstylesheet)
    (content_write (htree.mono hchar)), declaration_prefix_iff hcalm, rfl, ?_⟩
  have htag : startTag "title".toList [] ['>'] = "<title>".toList := rfl
  have hend : endTag "title".toList = "</title>".toList := rfl
  refine ⟨xmlDeclaration ++ '\n' :: beforeTitle, escape title,
    afterTitle ++ escape stylesheet ++ Document.bodyStart ++ write tree ++ Document.foot, ?_, ?_,
    fun hmem => (escape_no_mark title '<' hmem).1 rfl, unescape_escape title⟩
  · simp only [fill_eq, afterDeclaration, middle_eq, htag, hend, List.append_assoc,
      List.cons_append]
  · delta xmlDeclaration beforeTitle rootAttributes doctype startTag
    repeat rw [String.toList_ofList]
    decide +kernel

end Render

/-- 印付けに見える文字を、文字列とクラスに持つ木。 -/
def markupTree : Fragment :=
  .element "p" [⟨"class", "a\"b'c".toList⟩]
    (.text "<?xml?> ]]> &lt; </title>".toList (.element "br" [] .nil .nil)) .nil

/-- 題名も様式の名前も本文も印付けに見える文書。 -/
def markupDocument : Document :=
  ⟨"<?xml?> & '\"</title>".toList, "a\"b&c.css".toList, write markupTree⟩

theorem render_wellFormed_markup :
    verify none markupDocument.render = .ok markupDocument.render ∧
      Xml.Document isChar markupDocument.render ∧
      (∀ i, "<?xml".toList <+: markupDocument.render.drop i ↔ i = 0) ∧
      markupDocument.render = markupDocument.fill ∧
      ∃ before content after, markupDocument.render
          = before ++ "<title>".toList ++ content ++ "</title>".toList ++ after ∧
        ¬ "<title>".toList <:+: before ∧ '<' ∉ content ∧
        Reference.unescape content = .ok "<?xml?> & '\"</title>".toList := by
  have htree : Plain (isWritable none) markupTree :=
    ⟨by decide, .inr ⟨_, rfl, by decide +kernel⟩,
      ⟨by decide +kernel, by decide, .inl rfl, trivial, trivial⟩, trivial⟩
  exact render_wellFormed (by decide +kernel) (by decide +kernel) htree

end Chapter

end Tategaki
