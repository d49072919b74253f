import Tategaki.Markup.Builder
import Tategaki.Markup.Token
import Tategaki.Markup.Writer
import Tategaki.Text.Utf8

/-!
# 印付けを濾す

許した要素とクラスだけを残して、印付けを書き直す。段落や見出しは入れ子にできないので、新しい段落が
始まれば開いている段落は閉じる。このような規格の規則で木を組み直してから書き出す。
-/

namespace Tategaki.Markup

open Unicode

/-! ## 木の規則 -/

namespace Balance

/-- 終わりの書かれなくてよい要素。 -/
def impliedNames : List String := ["p", "rp", "rt"]

/-- ほかの要素の終わりが越えられない要素。 -/
def barrierNames : List String := ["p", "div", "h1", "br"]

/-- 終わりの書かれなくてよい要素を、内側から閉じる。 -/
def closeImplied : Nat → Builder → Builder
  | 0, b => b
  | count + 1, b =>
    match b.innermost? with
    | some name => if impliedNames.contains name then closeImplied count b.close else b
    | none => b

/-- 開いている段落を閉じる。 -/
def closeParagraph (b : Builder) : Builder := b.closeThrough "p"

/-- 要素の始まりを受け取る。 -/
def start (b : Builder) (name : String) (attributes : List Attribute) : Builder :=
  match name with
  | "br" => b.addElement name attributes
  | "p" | "div" => (closeParagraph b).openElement name attributes
  | "h1" =>
    let b := closeParagraph b
    (if b.innermost? == some "h1" then b.close else b).openElement name attributes
  | "rt" | "rp" =>
    (if b.isOpen "ruby" then closeImplied b.frames.length b else b).openElement name attributes
  | _ => b.openElement name attributes

/-- 越えられない要素に出会う前に、名前の要素があるか。 -/
def reaches (name : String) : List OpenElement → Bool
  | [] => false
  | frame :: rest =>
    frame.name == name || (!barrierNames.contains frame.name && reaches name rest)

/-- 要素の終わりを受け取る。 -/
def stop (b : Builder) (name : String) : Builder :=
  match name with
  | "br" => b.addElement name []
  | "p" => if b.isOpen name then b.closeThrough name else b.addElement name []
  | "div" | "h1" => b.closeThrough name
  | _ => if reaches name b.frames then b.closeThrough name else b

/-- 出来事を一つ受け取る。 -/
def step (b : Builder) : Token → Builder
  | .text s => if s.isEmpty then b else b.joinText s
  | .start name attributes => start b name attributes
  | .stop name => stop b name
  | .comment => b.addSpecial .comment []

/-- 出来事の列から木を組み立てる。 -/
def build (found : List Token) : Fragment := (found.foldl step {}).finish

end Balance

/-! ## 書き出し -/

namespace Clean

/-- 参照の綴りを終わらせる文字か。 -/
def endsReference (c : Char) : Bool :=
  c == '<' || c == '&' || c == '=' || c == ';' || c == '\x0b' || isAsciiBlank c

/-- 番号の参照の続き。許されない文字は一つだけ読み飛ばす。 -/
def digitsAhead (allowed : Char → Bool) : Text → Text × Text
  | [] => ([], [])
  | c :: s =>
    if endsReference c then ([], c :: s)
    else if !allowed c then ([], s)
    else
      let (digits, rest) := digitsAhead allowed s
      (c :: digits, rest)

/-- 名前の参照の続き。名前として始まらなくなれば `none`。 -/
def nameAhead (letters : Text) : Text → Option (Text × Text)
  | [] => some (letters, [])
  | c :: s =>
    if endsReference c then some (letters, c :: s)
    else
      let letters := letters ++ [c]
      if Entity.hasExtension (String.ofList letters) then nameAhead letters s else none

/-- `&` の後ろの参照の綴り。閉じた参照だけを認める。後ろは、読み飛ばした文字があっても綴りの長さに
一を足しただけ進んだところである。 -/
def referenceAhead (s : Text) : Option (Text × Text) :=
  let found : Option (Text × Text) :=
    match s with
    | '#' :: x :: rest =>
      if x == 'x' || x == 'X' then
        let (digits, rest) := digitsAhead Reference.isHexDigit rest
        some ('#' :: x :: digits, rest)
      else
        let (digits, rest) := digitsAhead Reference.isDigit (x :: rest)
        some ('#' :: digits, rest)
    | '#' :: [] => some (['#'], [])
    | s => nameAhead [] s
  match found with
  | some (name, ';' :: _) => if name.isEmpty then none else some (name, s.drop (name.length + 1))
  | _ => none

/-- 地の文の、空白でない部分を書き出す。すでに参照である `&` はそのままにする。 -/
def middle : Nat → Text → Text
  | 0, _ => []
  | _ + 1, [] => []
  | fuel + 1, c :: s =>
    if c == '&' then
      match referenceAhead s with
      | some (name, rest) => '&' :: name ++ ';' :: middle fuel rest
      | none => "&amp;".toList ++ middle fuel s
    else Writer.escapeChar c ++ middle fuel s

/-- 見えない制御文字か。 -/
def isInvisible (c : Char) : Bool :=
  let n := c.toNat
  n < 0x20 && n != 0x09 && n != 0x0A && n != 0x0D

/-- 地の文を書き出す。両端の空白より内側にある制御文字は `?` になる。 -/
def text (s : Text) : Text :=
  let left := s.takeWhile isAsciiBlank
  let inner := s.drop left.length
  let right := (inner.reverse.takeWhile isAsciiBlank).reverse
  let inner := (inner.take (inner.length - right.length)).map fun c =>
    if isInvisible c then '?' else c
  left ++ middle (inner.length + 1) inner ++ right

/-- 参照の綴りが文字を表すか。 -/
def isMeaningful (name : Text) : Bool :=
  match name with
  | '#' :: s =>
    match Reference.numeral? s with
    | some (.hex digits, _) =>
      let n := Reference.hexNumber digits
      0 < n && n < 0x110000
    | some (.decimal digits, _) =>
      let n := Reference.decimalNumber digits
      0 < n && n < 0x110000
    | none => false
  | name => (Entity.loose? (String.ofList name)).isSome

/-- 二重の引用符で囲む値を書き出す。文字を表す参照はそのままにする。 -/
def value : Nat → Text → Text
  | 0, _ => []
  | _ + 1, [] => []
  | fuel + 1, c :: s =>
    if c == '&' then
      match referenceAhead s with
      | some (name, rest) =>
        if isMeaningful name then
          let plain := rest.takeWhile (· != '&')
          '&' :: name ++ ';' :: plain ++ value fuel (rest.drop plain.length)
        else "&amp;".toList ++ value fuel s
      | none => "&amp;".toList ++ value fuel s
    else c :: value fuel s

/-- 属性の値の一文字を参照に直す。 -/
def valueChar (quote : Char) (ampersand : Bool) (c : Char) : Text :=
  if c == '<' then "&lt;".toList
  else if c == '&' && ampersand then "&amp;".toList
  else if c == '"' && quote == '"' then "&quot;".toList
  else [c]

/-- クラスの属性を書き出す。 -/
def classAttribute (s : Text) : Text :=
  let lead := " class=".toList
  if s.contains '"' && !s.contains '\'' then
    lead ++ '\'' :: s.flatMap (valueChar '\'' true) ++ ['\'']
  else
    let s := s.flatMap (valueChar '"' false)
    lead ++ '"' :: value (s.length + 1) s ++ ['"']

/-- 要素の始まり。クラスのほかの属性は書かない。 -/
def opening (name : String) (attributes : List Attribute) : Text :=
  let shown := match attributes.find? (·.name == "class") with
    | some a => classAttribute a.value
    | none => []
  '<' :: name.toList ++ shown ++ ['>']

/-- 木を書き出す。注釈などは書かない。 -/
def write : Fragment → Text
  | .nil => []
  | .text s rest => text s ++ write rest
  | .special _ _ rest => write rest
  | .element name attributes content rest =>
    if name == "br" then opening name attributes ++ write rest
    else opening name attributes ++ write content ++ Writer.closing name ++ write rest

end Clean

/-- 許した要素とクラスだけを残して、印付けを書き直す。 -/
def clean (s : Text) : Text := Clean.write (Balance.build (Token.read (Utf8.unifyLineEnds s)))

end Tategaki.Markup
