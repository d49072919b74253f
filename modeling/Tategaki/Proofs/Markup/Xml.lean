import Tategaki.Markup.Reference

/-!
# 整った文書

XML 1.0 の整った文書の文法を、章の文書に要る範囲で書き下ろす（`Xml.Document`）。文法は文字列だけについて述べ、
書き出しの手続きを見ない。範囲を狭めているのは、名前を ASCII の文字に限ること、参照を定義済みの五つと 16 進の番号に
限ること、本文に注釈や処理命令を置かないこと、地の文の `>` も参照で書くことである。

書いてよい文字の条件 `legal` は引数に取る。XML の定める文字は `Xml.isChar` である。

文法に従う本文では、印の始まり `<` の次にいつも `?` でない文字が来る（`Xml.isCalm`）。だから、本文のどこにも宣言は
現れない。
-/

namespace Tategaki.Markup.Xml

/-! ## 文法 -/

/-- 文書に書ける文字。 -/
def isChar (c : Char) : Bool :=
  let n := c.toNat
  n == 0x9 || n == 0xA || n == 0xD || (0x20 ≤ n && n ≤ 0xD7FF) || (0xE000 ≤ n && n ≤ 0xFFFD)
    || 0x10000 ≤ n

/-- 空白。 -/
def isSpace (c : Char) : Bool := c == ' ' || c == '\t' || c == '\n' || c == '\r'

/-- 名前の最初の文字。 -/
def isNameStart (c : Char) : Bool := c.isAlpha || c == '_' || c == ':'

/-- 名前。 -/
def isName : Text → Bool
  | [] => false
  | c :: rest =>
    isNameStart c && rest.all fun c => isNameStart c || c.isDigit || c == '-' || c == '.'

/-- 符号化の名前。 -/
def isEncoding : Text → Bool
  | [] => false
  | c :: rest => c.isAlpha && rest.all fun c => c.isAlphanum || c == '-' || c == '.' || c == '_'

/-- 定義済みの参照の名前。 -/
def entityNames : List String := ["amp", "lt", "gt", "quot", "apos"]

variable (legal : Char → Bool)

/-- 参照。番号は、書いてよい文字を指す。 -/
inductive Ref : Text → Prop
  | entity (name : String) (h : name ∈ entityNames) : Ref ('&' :: name.toList ++ [';'])
  | number (digits : Text) (hne : digits ≠ []) (hd : digits.all Reference.isHexDigit = true)
      (h : legal (Char.ofNat (Reference.hexNumber digits)) = true) :
      Ref ('&' :: '#' :: 'x' :: digits ++ [';'])

/-- `<` も `&` も `stop` も含まない文字と、参照の列。 -/
inductive Chars (stop : Char) : Text → Prop
  | nil : Chars stop []
  | literal {c : Char} {rest : Text} (h : legal c = true) (hlt : c ≠ '<') (hamp : c ≠ '&')
      (hstop : c ≠ stop) (hr : Chars stop rest) : Chars stop (c :: rest)
  | ref {r rest : Text} (h : Ref legal r) (hr : Chars stop rest) : Chars stop (r ++ rest)

/-- 属性の値。 -/
inductive AttValue : Text → Prop
  | quoted {q : Char} {s : Text} (hq : q = '"' ∨ q = '\'') (h : Chars legal q s) :
      AttValue (q :: s ++ [q])

/-- 属性の列と、その名前。名前は重ならない。 -/
inductive Attributes : List Text → Text → Prop
  | nil : Attributes [] []
  | cons (name : Text) {names : List Text} {value rest : Text} (hn : isName name = true)
      (hnew : name ∉ names) (hv : AttValue legal value) (hr : Attributes names rest) :
      Attributes (name :: names) (' ' :: name ++ '=' :: value ++ rest)

/-- 要素の始まり。`close` で閉じる。 -/
def startTag (name attributes close : Text) : Text := '<' :: name ++ attributes ++ close

/-- 要素の終わり。 -/
def endTag (name : Text) : Text := '<' :: '/' :: name ++ ['>']

/-- 要素の中身。 -/
inductive Content : Text → Prop
  | nil : Content []
  | text {s rest : Text} (h : Chars legal '>' s) (hr : Content rest) : Content (s ++ rest)
  /-- 中身を持たない要素。 -/
  | empty (name space : Text) {attributes rest : Text} {names : List Text} (hn : isName name = true)
      (ha : Attributes legal names attributes) (hs : space.all isSpace = true)
      (hr : Content rest) :
      Content (startTag name attributes (space ++ ['/', '>']) ++ rest)
  /-- 要素。始まりと終わりの名前は等しい。 -/
  | element (name : Text) {attributes inner rest : Text} {names : List Text}
      (hn : isName name = true) (ha : Attributes legal names attributes) (hi : Content inner)
      (hr : Content rest) :
      Content (startTag name attributes ['>'] ++ inner ++ endTag name ++ rest)

/-- 宣言。 -/
def declaration (encoding : Text) : Text :=
  "<?xml version=\"1.0\" encoding=\"".toList ++ encoding ++ "\"?>".toList

/-- 文書の型の宣言。 -/
def doctype (name : Text) : Text := "<!DOCTYPE ".toList ++ name ++ ['>']

/-- 整った文書。宣言と型の宣言の後ろに、一つの要素がある。 -/
inductive Document : Text → Prop
  | root (encoding name space₁ space₂ space₃ : Text) {attributes inner : Text} {names : List Text}
      (he : isEncoding encoding = true) (h₁ : space₁.all isSpace = true)
      (h₂ : space₂.all isSpace = true) (h₃ : space₃.all isSpace = true)
      (hn : isName name = true) (ha : Attributes legal names attributes)
      (hi : Content legal inner) :
      Document (declaration encoding ++ space₁ ++ doctype name ++ space₂
        ++ (startTag name attributes ['>'] ++ inner ++ endTag name) ++ space₃)

/-! ## 文法の性質 -/

variable {legal}

theorem Chars.append {stop : Char} {a b : Text} (ha : Chars legal stop a)
    (hb : Chars legal stop b) : Chars legal stop (a ++ b) := by
  induction ha with
  | nil => exact hb
  | literal h hlt hamp hstop _ ih => exact .literal h hlt hamp hstop ih
  | ref h _ ih =>
    rw [List.append_assoc]
    exact .ref h ih

theorem Ref.chars {stop : Char} {r : Text} (h : Ref legal r) : Chars legal stop r := by
  rw [← List.append_nil r]
  exact .ref h .nil

/-- 一文字ずつの書き方をつなぐ。 -/
theorem Chars.flatMap {stop : Char} {f : Char → Text} {s : Text}
    (h : ∀ c ∈ s, Chars legal stop (f c)) : Chars legal stop (s.flatMap f) := by
  induction s with
  | nil => exact .nil
  | cons c rest ih =>
    rw [List.flatMap_cons]
    exact (h c List.mem_cons_self).append (ih fun d hd => h d (List.mem_cons_of_mem c hd))

theorem Content.append {a b : Text} (ha : Content legal a) (hb : Content legal b) :
    Content legal (a ++ b) := by
  induction ha with
  | nil => exact hb
  | text h _ ih =>
    rw [List.append_assoc]
    exact .text h ih
  | empty name space hn ha hs _ ih =>
    rw [List.append_assoc]
    exact .empty name space hn ha hs ih
  | element name hn ha hi _ _ ih =>
    rw [List.append_assoc]
    exact .element name hn ha hi ih

/-! ## 書いてよい文字 -/

/-- 文書に書ける、ASCII の文字。 -/
def isAscii (c : Char) : Bool := isChar c && decide (c.toNat < 0x80)

theorem isAscii_of_isAlphanum {c : Char} (h : c.isAlphanum = true) : isAscii c = true := by
  delta Char.isAlphanum Char.isAlpha Char.isUpper Char.isLower Char.isDigit at h
  simp only [Bool.or_eq_true, Bool.and_eq_true, decide_eq_true_eq, UInt32.le_iff_toNat_le,
    ge_iff_le] at h
  have hval : c.toNat = c.val.toNat := rfl
  have hlimits : 'A'.val.toNat = 65 ∧ 'Z'.val.toNat = 90 ∧ 'a'.val.toNat = 97 ∧
      'z'.val.toNat = 122 ∧ '0'.val.toNat = 48 ∧ '9'.val.toNat = 57 := by decide
  simp only [isAscii, isChar, Bool.or_eq_true, Bool.and_eq_true, decide_eq_true_eq, beq_iff_eq]
  omega

theorem isAscii_of_isNameStart {c : Char} (h : isNameStart c = true) : isAscii c = true := by
  simp only [isNameStart, Bool.or_eq_true, beq_iff_eq] at h
  rcases h with (halpha | rfl) | rfl
  · exact isAscii_of_isAlphanum (by simp [Char.isAlphanum, halpha])
  · decide
  · decide

theorem isAscii_name {name : Text} (h : isName name = true) : name.all isAscii = true := by
  cases name with
  | nil => cases h
  | cons c rest =>
    rw [isName, Bool.and_eq_true] at h
    rw [List.all_cons, isAscii_of_isNameStart h.1, Bool.true_and, List.all_eq_true]
    intro d hd
    have hd := List.all_eq_true.mp h.2 d hd
    simp only [Bool.or_eq_true, beq_iff_eq] at hd
    rcases hd with ((hstart | hdigit) | rfl) | rfl
    · exact isAscii_of_isNameStart hstart
    · exact isAscii_of_isAlphanum (by simp [Char.isAlphanum, hdigit])
    · decide
    · decide

theorem isAscii_encoding {encoding : Text} (h : isEncoding encoding = true) :
    encoding.all isAscii = true := by
  cases encoding with
  | nil => cases h
  | cons c rest =>
    rw [isEncoding, Bool.and_eq_true] at h
    rw [List.all_cons, isAscii_of_isAlphanum (by simp [Char.isAlphanum, h.1]), Bool.true_and,
      List.all_eq_true]
    intro d hd
    have hd := List.all_eq_true.mp h.2 d hd
    simp only [Bool.or_eq_true, beq_iff_eq] at hd
    rcases hd with ((halnum | rfl) | rfl) | rfl
    · exact isAscii_of_isAlphanum halnum
    · decide
    · decide
    · decide

theorem isAscii_of_isSpace {c : Char} (h : isSpace c = true) : isAscii c = true := by
  simp only [isSpace, Bool.or_eq_true, beq_iff_eq] at h
  rcases h with ((rfl | rfl) | rfl) | rfl <;> decide

theorem isAscii_of_isHexDigit {c : Char} (h : Reference.isHexDigit c = true) :
    isAscii c = true := by
  unfold Reference.isHexDigit Json.hexValue at h
  simp only [isAscii, isChar, Bool.or_eq_true, Bool.and_eq_true, decide_eq_true_eq, beq_iff_eq]
  simp only [Bool.and_eq_true, decide_eq_true_eq] at h
  split at h
  · omega
  · split at h
    · omega
    · split at h
      · omega
      · cases h

theorem all_append_of {p : Char → Bool} {a b : Text} (ha : a.all p = true)
    (hb : b.all p = true) : (a ++ b).all p = true := by
  rw [List.all_append, ha, hb]
  rfl

/-- ASCII の文字はすべて書いてよい。 -/
def AllowsAscii (legal : Char → Bool) : Prop := ∀ c, isAscii c = true → legal c = true

section Legal

variable (hascii : AllowsAscii legal)
include hascii

theorem all_legal {s : Text} (h : s.all isAscii = true) : s.all legal = true :=
  List.all_eq_true.mpr fun c hc => hascii c (List.all_eq_true.mp h c hc)

theorem Ref.all_legal {r : Text} (h : Ref legal r) : r.all legal = true := by
  cases h with
  | entity name h =>
    have hall : ∀ name ∈ entityNames, ('&' :: name.toList ++ [';']).all isAscii = true := by decide
    exact Xml.all_legal hascii (hall name h)
  | number digits _ hd _ =>
    have hdigits : digits.all isAscii = true := List.all_eq_true.mpr fun c hc =>
      isAscii_of_isHexDigit (List.all_eq_true.mp hd c hc)
    exact Xml.all_legal hascii (all_append_of (a := '&' :: '#' :: 'x' :: digits)
      (all_append_of (a := ['&', '#', 'x']) (by decide) hdigits) (by decide))

theorem Chars.all_legal {stop : Char} {s : Text} (h : Chars legal stop s) :
    s.all legal = true := by
  induction h with
  | nil => rfl
  | literal h _ _ _ _ ih => rw [List.all_cons, h, ih]; rfl
  | ref h _ ih => exact all_append_of (h.all_legal hascii) ih

theorem Attributes.all_legal {names : List Text} {s : Text} (h : Attributes legal names s) :
    s.all legal = true := by
  induction h with
  | nil => rfl
  | cons name hn _ hv _ ih =>
    obtain @⟨q, s, hq, hs⟩ := hv
    have hquote : [q].all legal = true := by
      rcases hq with rfl | rfl <;> exact Xml.all_legal hascii (by decide)
    have hname : (' ' :: name).all legal = true := all_append_of (a := [' '])
      (Xml.all_legal hascii (by decide)) (Xml.all_legal hascii (isAscii_name hn))
    have hvalue : ('=' :: (q :: s ++ [q])).all legal = true := all_append_of (a := ['='])
      (Xml.all_legal hascii (by decide))
      (all_append_of (all_append_of (a := [q]) hquote (hs.all_legal hascii)) hquote)
    exact all_append_of (all_append_of hname hvalue) ih

theorem all_legal_startTag {names : List Text} {name attributes close : Text}
    (hn : isName name = true) (ha : Attributes legal names attributes)
    (hc : close.all isAscii = true) : (startTag name attributes close).all legal = true := by
  have hname : name.all legal = true := Xml.all_legal hascii (isAscii_name hn)
  have hopen : ('<' :: name).all legal = true :=
    all_append_of (a := ['<']) (Xml.all_legal hascii (by decide)) hname
  exact all_append_of (all_append_of hopen (ha.all_legal hascii)) (Xml.all_legal hascii hc)

theorem all_legal_endTag {name : Text} (hn : isName name = true) :
    (endTag name).all legal = true := by
  exact Xml.all_legal hascii (all_append_of (a := '<' :: '/' :: name)
    (all_append_of (a := ['<', '/']) (by decide) (isAscii_name hn)) (by decide))

theorem Content.all_legal {s : Text} (h : Content legal s) : s.all legal = true := by
  induction h with
  | nil => rfl
  | text h _ ih => exact all_append_of (h.all_legal hascii) ih
  | empty _ _ hn ha hs _ ih =>
    have hclose := all_append_of (List.all_eq_true.mpr fun c hc =>
      isAscii_of_isSpace (List.all_eq_true.mp hs c hc)) (by decide : ['/', '>'].all isAscii = true)
    exact all_append_of (all_legal_startTag hascii hn ha hclose) ih
  | element _ hn ha _ _ ihi ih =>
    exact all_append_of (all_append_of (all_append_of
      (all_legal_startTag hascii hn ha (by decide)) ihi) (all_legal_endTag hascii hn)) ih

/-- **整った文書は、書いてよい文字だけからなる。** -/
theorem Document.all_legal {s : Text} (h : Document legal s) : s.all legal = true := by
  obtain ⟨encoding, name, space₁, space₂, space₃, he, h₁, h₂, h₃, hn, ha, hi⟩ := h
  have hspace : ∀ {space : Text}, space.all isSpace = true → space.all legal = true := fun h =>
    Xml.all_legal hascii (List.all_eq_true.mpr fun c hc =>
      isAscii_of_isSpace (List.all_eq_true.mp h c hc))
  have hdeclaration : (declaration encoding).all legal = true := by
    refine Xml.all_legal hascii ?_
    exact all_append_of (all_append_of (by decide +kernel) (isAscii_encoding he))
      (by decide +kernel)
  have hdoctype : (doctype name).all legal = true := by
    refine Xml.all_legal hascii ?_
    exact all_append_of (all_append_of (by decide +kernel) (isAscii_name hn)) (by decide)
  have hroot := all_append_of (all_append_of
    (all_legal_startTag hascii hn ha (by decide : ['>'].all isAscii = true)) (hi.all_legal hascii))
    (all_legal_endTag hascii hn)
  exact all_append_of (all_append_of (all_append_of (all_append_of (all_append_of hdeclaration
    (hspace h₁)) hdoctype) (hspace h₂)) hroot) (hspace h₃)

end Legal

/-- 印に使う文字を含まない、ASCII の文字列。 -/
def isPlainAscii (stop : Char) (s : Text) : Bool :=
  s.all fun c => isAscii c && c != '<' && c != '&' && c != stop

theorem chars_of_isPlainAscii (hascii : AllowsAscii legal) {stop : Char} {s : Text}
    (h : isPlainAscii stop s = true) : Chars legal stop s := by
  induction s with
  | nil => exact .nil
  | cons c rest ih =>
    simp only [isPlainAscii, List.all_cons, Bool.and_eq_true, bne_iff_ne] at h
    obtain ⟨⟨⟨⟨hsmall, hlt⟩, hamp⟩, hstop⟩, hrest⟩ := h
    exact .literal (hascii c hsmall) hlt hamp hstop (ih hrest)

/-! ## 宣言の現れない本文 -/

/-- 印の始まりの次に、いつも `?` でない文字がある。 -/
def isCalm : Text → Bool
  | [] => true
  | c :: rest => (c != '<' || rest.head?.any (· != '?')) && isCalm rest

theorem isCalm_append {a b : Text} (ha : isCalm a = true) (hb : isCalm b = true) :
    isCalm (a ++ b) = true := by
  induction a with
  | nil => exact hb
  | cons c rest ih =>
    cases rest with
    | nil =>
      rw [isCalm, List.head?_nil, Option.any_none, Bool.or_false, Bool.and_eq_true] at ha
      rw [List.singleton_append, isCalm, ha.1, hb]
      rfl
    | cons d rest =>
      rw [isCalm, Bool.and_eq_true] at ha
      rw [List.cons_append, isCalm, Bool.and_eq_true]
      exact ⟨ha.1, ih ha.2⟩

theorem isCalm_of_not_mem {s : Text} (h : '<' ∉ s) : isCalm s = true := by
  induction s with
  | nil => rfl
  | cons c rest ih =>
    have hc : c ≠ '<' := fun heq => h (heq ▸ List.mem_cons_self)
    rw [isCalm, bne_iff_ne.mpr hc, ih fun hmem => h (List.mem_cons_of_mem c hmem)]
    rfl

theorem isCalm_of_all {s : Text} (p : Char → Bool) (hp : p '<' = false) (h : s.all p = true) :
    isCalm s = true :=
  isCalm_of_not_mem fun hmem => by
    rw [List.all_eq_true.mp h '<' hmem] at hp
    cases hp

theorem isCalm_drop {s : Text} (h : isCalm s = true) (i : Nat) : isCalm (s.drop i) = true := by
  induction s generalizing i with
  | nil => simp [isCalm]
  | cons c rest ih =>
    cases i with
    | zero => exact h
    | succ i =>
      rw [isCalm, Bool.and_eq_true] at h
      exact ih h.2 i

/-- 宣言は現れない。 -/
theorem not_prefix_of_isCalm {s : Text} (h : isCalm s = true) : ¬ ['<', '?'] <+: s := by
  rintro ⟨rest, rfl⟩
  simp [isCalm] at h

theorem ne_mark_of_isNameStart {c : Char} (h : isNameStart c = true) : c ≠ '<' ∧ c ≠ '?' := by
  constructor <;>
  · rintro rfl
    revert h
    decide

theorem isCalm_name {name : Text} (h : isName name = true) : isCalm name = true := by
  unfold isName at h
  split at h
  · cases h
  · next c rest =>
    rw [Bool.and_eq_true] at h
    refine isCalm_of_not_mem fun hmem => ?_
    rcases List.mem_cons.mp hmem with rfl | hmem
    · exact (ne_mark_of_isNameStart h.1).1 rfl
    · have := List.all_eq_true.mp h.2 '<' hmem
      revert this
      decide

theorem isCalm_ref {r : Text} (h : Ref legal r) : isCalm r = true := by
  cases h with
  | entity name h =>
    have hall : ∀ name ∈ entityNames, isCalm ('&' :: name.toList ++ [';']) = true := by decide
    exact hall name h
  | number digits _ hd _ =>
    exact isCalm_append (a := '&' :: '#' :: 'x' :: digits)
      (isCalm_append (a := ['&', '#', 'x']) (by decide)
        (isCalm_of_all Reference.isHexDigit (by decide) hd)) (by decide)

theorem isCalm_chars {stop : Char} {s : Text} (h : Chars legal stop s) : isCalm s = true := by
  induction h with
  | nil => rfl
  | literal _ hlt _ _ _ ih => rw [isCalm, bne_iff_ne.mpr hlt, ih]; rfl
  | ref h _ ih => exact isCalm_append (isCalm_ref h) ih

theorem isCalm_attributes {names : List Text} {s : Text} (h : Attributes legal names s) :
    isCalm s = true := by
  induction h with
  | nil => rfl
  | cons name hn _ hv _ ih =>
    obtain @⟨q, s, hq, hs⟩ := hv
    have hquote : isCalm [q] = true := by rcases hq with rfl | rfl <;> decide
    have hvalue : isCalm ('=' :: (q :: s ++ [q])) = true :=
      isCalm_append (a := ['=']) (by decide)
        (isCalm_append (isCalm_append (a := [q]) hquote (isCalm_chars hs)) hquote)
    exact isCalm_append (isCalm_append (a := ' ' :: name)
      (isCalm_append (a := [' ']) (by decide) (isCalm_name hn)) hvalue) ih

/-- 始まりの印の次は、名前の最初の文字である。 -/
theorem isCalm_startTag {names : List Text} {name attributes close : Text}
    (hn : isName name = true) (ha : Attributes legal names attributes)
    (hc : isCalm close = true) : isCalm (startTag name attributes close) = true := by
  have hname := isCalm_name hn
  unfold startTag
  refine isCalm_append (isCalm_append (a := '<' :: name) ?_ (isCalm_attributes ha)) hc
  cases name with
  | nil => cases hn
  | cons c rest =>
    rw [isName, Bool.and_eq_true] at hn
    have hmark : (c != '?') = true := bne_iff_ne.mpr (ne_mark_of_isNameStart hn.1).2
    rw [isCalm, hname, List.head?_cons, Option.any_some, hmark]
    rfl

theorem isCalm_endTag {name : Text} (hn : isName name = true) : isCalm (endTag name) = true :=
  isCalm_append (a := '<' :: '/' :: name)
    (isCalm_append (a := ['<', '/']) (by decide) (isCalm_name hn)) (by decide)

/-- **本文のどこにも宣言は現れない。** -/
theorem Content.isCalm {s : Text} (h : Content legal s) : isCalm s = true := by
  induction h with
  | nil => rfl
  | text h _ ih => exact isCalm_append (isCalm_chars h) ih
  | empty _ _ hn ha hs _ ih =>
    exact isCalm_append (isCalm_startTag hn ha
      (isCalm_append (isCalm_of_all isSpace (by decide) hs) (by decide))) ih
  | element _ hn ha _ _ ihi ih =>
    exact isCalm_append (isCalm_append (isCalm_append (isCalm_startTag hn ha (by decide)) ihi)
      (isCalm_endTag hn)) ih

end Tategaki.Markup.Xml
