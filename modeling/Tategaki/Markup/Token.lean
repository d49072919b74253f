import Tategaki.Markup.Lexer

/-!
# 濾すための字句

書き出した印付けを、許した要素だけに濾すときの字句。`Lexer` とは違い、参照は文字に直さず、注釈の
終わりや引用符の扱いも規格の手順に従う。許していない要素の印は、ここで地の文に変わる。
-/

namespace Tategaki.Markup

/-- 残してよい要素の名前。 -/
def allowedNames : List String := ["p", "br", "ruby", "rt", "rp", "span", "div", "h1"]

/-- 段落のように前後で行の改まる要素の名前。 -/
def blockNames : List String := [
  "address", "article", "aside", "blockquote", "details", "dialog", "dd", "div", "dl", "dt",
  "fieldset", "figcaption", "figure", "footer", "form", "h1", "h2", "h3", "h4", "h5", "h6",
  "header", "hgroup", "hr", "li", "main", "nav", "ol", "p", "pre", "section", "table", "ul"]

/-- 濾すための字句の出来事。 -/
inductive Token where
  | text (s : Text)
  | start (name : String) (attributes : List Attribute)
  | stop (name : String)
  | comment
  deriving DecidableEq, Repr

namespace Token

open Unicode Lexer

/-- 使えない文字を置換文字に替える。 -/
def replaceNull (s : Text) : Text := s.map fun c => if c == '\x00' then replacement else c

/-- 名前を、ASCII の範囲だけで小文字にする。 -/
def lowerName (s : Text) : String :=
  String.ofList ((replaceNull s).map fun c => Char.ofNat (asciiLower c.toNat))

/-! ## 属性 -/

/-- 属性を読むときの結果。 -/
inductive TagEnd where
  /-- 印が閉じた。 -/
  | closed (attributes : List Attribute) (rest : Text)
  /-- 文字列が終わった。 -/
  | cut
  /-- 名前か値の途中で文字列が終わった。印は地の文になる。 -/
  | broken

/-- 属性を前に加える。 -/
def TagEnd.add (a : Attribute) : TagEnd → TagEnd
  | closed attributes rest => closed (a :: attributes) rest
  | other => other

/-- 引用符のない値が終わる文字か。 -/
def endsBare (c : Char) : Bool := isAsciiBlank c || c == '>'

/-- 属性の値。後ろがなければ、そこで文字列が終わったことを表す。 -/
structure RawValue where
  value : Text
  rest : Option Text
  /-- 引用符のない値か。 -/
  bare : Bool

/-- 等号の後ろの値を読む。 -/
def attributeValue (s : Text) : RawValue :=
  match s.dropWhile isAsciiBlank with
  | [] => ⟨[], none, false⟩
  | c :: s =>
    if c == '"' || c == '\'' then
      match upTo (mark c) s with
      | some (value, rest) => ⟨value, some rest, false⟩
      | none => ⟨[], none, false⟩
    else if c == '>' then ⟨[], some (c :: s), false⟩
    else
      let value := (c :: s).takeWhile (!endsBare ·)
      let rest := (c :: s).drop value.length
      ⟨value, if rest.isEmpty then none else some rest, true⟩

/-- 属性の名前が終わる文字か。 -/
def endsAttributeName (c : Char) : Bool :=
  isAsciiBlank c || c == '=' || c == '>' || c == '/'

/-- 印の残りを読む。`seen` はすでに読んだ属性の名前。 -/
def tagRest : Nat → List String → Text → TagEnd
  | 0, _, _ => .cut
  | _ + 1, _, [] => .cut
  | fuel + 1, seen, c :: s =>
    if c == '>' then .closed [] s
    else if isAsciiBlank c || c == '/' then tagRest fuel seen s
    else
      let tail := s.takeWhile (!endsAttributeName ·)
      let name := lowerName (c :: tail)
      let after := s.drop tail.length
      match after with
      | [] => if seen.contains name then .cut else .broken
      | _ :: _ =>
        match after.dropWhile isAsciiBlank with
        | '=' :: s =>
          let found := attributeValue s
          let value := replaceNull found.value
          match found.rest with
          | some rest => (tagRest fuel (name :: seen) rest).add ⟨name, value⟩
          | none => if found.bare then .broken else .cut
        | rest => (tagRest fuel (name :: seen) rest).add ⟨name, []⟩

/-! ## 注釈 -/

/-- 注釈の中身の終わりまでを捨てる。`dashes` は直前に続く横線の個数（二つまで）。 -/
def skipComment : Nat → Text → Text
  | _, [] => []
  | dashes, c :: s =>
    if c == '-' then skipComment (min 2 (dashes + 1)) s
    else if c == '>' && dashes == 2 then s
    else if c == '!' && dashes == 2 then
      match s with
      | [] => []
      | d :: s =>
        if d == '>' then s
        else if d == '-' then skipComment 1 s
        else skipComment 0 s
    else skipComment 0 s

/-- 注釈を捨てる。`s` は `<!--` の後ろである。 -/
def afterComment (s : Text) : Text :=
  match s with
  | '>' :: s => s
  | '-' :: '>' :: s => s
  | s => skipComment 0 s

/-- `>` までを捨てる。 -/
def afterClose (s : Text) : Text := (s.dropWhile (· != '>')).drop 1

/-! ## 印 -/

/-- `<` の後ろを読む。`none` は、`<` が地の文であることを表す。 -/
def markup (s : Text) : Option (List Token × Text) :=
  match s with
  | [] => none
  | '!' :: '-' :: '-' :: s => some ([.comment], afterComment s)
  | '!' :: s =>
    if foldName (s.take 7) == "doctype" then some ([], afterClose s)
    else some ([.comment], afterClose s)
  | '?' :: s => some ([.comment], afterClose s)
  | '/' :: s => stopMarkup s
  | c :: rest =>
    if c == '>' then some ([.text ['<', '>']], rest)
    else if isAsciiLetter c then some (tagMarkup .start [] (c :: rest))
    else none
where
  /-- 名前で始まる印。途中で文字列が終わると、地の文になるか、捨てられる。 -/
  tagMarkup (event : String → List Attribute → Token) (lead s : Text) : List Token × Text :=
    let name := s.takeWhile fun c => !(isAsciiBlank c || c == '/' || c == '>')
    let rest := s.drop name.length
    let whole : Token := .text ('<' :: lead ++ s)
    if rest.isEmpty then ([whole], [])
    else
      match tagRest (rest.length + 1) [] rest with
      | .closed attributes rest => ([event (lowerName name) attributes], rest)
      | .cut => ([], [])
      | .broken => ([whole], [])
  /-- 要素の終わり。名前で始まらないものは、許した要素の書き損じなら捨て、そうでなければ地の文に
  する。 -/
  stopMarkup (s : Text) : Option (List Token × Text) :=
    match s with
    | [] => some ([.text ['<', '/']], [])
    | '>' :: s => some ([], s)
    | c :: rest =>
      if isAsciiLetter c then some (tagMarkup (fun name _ => .stop name) ['/'] (c :: rest))
      else
        let inside := (c :: rest).takeWhile (· != '>')
        let after := (c :: rest).drop inside.length
        let word := foldName (strip (replaceNull inside))
        if allowedNames.contains word then some ([.comment], after.drop 1)
        else some ([.text ('<' :: '/' :: inside ++ after.take 1)], after.drop 1)

/-- 空でない地の文。 -/
def textTokens (s : Text) : List Token := if s.isEmpty then [] else [.text s]

/-- 地の文では、使えない文字は消える。 -/
def dropNull (s : Text) : Text := s.filter (· != '\x00')

/-- 文字列を出来事の列に分ける。 -/
def tokens : Nat → Text → List Token
  | 0, _ => []
  | _ + 1, [] => []
  | fuel + 1, c :: s =>
    if c == '<' then
      match markup s with
      | some (found, rest) => found ++ tokens fuel rest
      | none => .text ['<'] :: tokens fuel s
    else
      let run := (c :: s).takeWhile (· != '<')
      textTokens (dropNull run) ++ tokens fuel ((c :: s).drop run.length)

/-! ## 許していない要素 -/

/-- 許していない要素の印を外す。行の改まる要素の始まりは、それより前に印があれば改行を残す。
`seen` は前に印があったことを表す。 -/
def unwrap : Bool → List Token → List Token
  | _, [] => []
  | seen, .start name attributes :: rest =>
    if allowedNames.contains name then .start name attributes :: unwrap true rest
    else if seen && blockNames.contains name then .text ['\n'] :: unwrap true rest
    else unwrap true rest
  | _, .stop name :: rest =>
    if allowedNames.contains name then .stop name :: unwrap true rest else unwrap true rest
  | seen, t :: rest => t :: unwrap seen rest

/-- 文字列を、許した要素だけの出来事の列に分ける。 -/
def read (s : Text) : List Token := unwrap false (tokens (s.length + 1) s)

end Token

end Tategaki.Markup
