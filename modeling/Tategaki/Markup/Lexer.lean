import Tategaki.Markup.Fragment
import Tategaki.Markup.Reference
import Tategaki.Text.Quoted
import Tategaki.Unicode.Case

/-!
# 印付けの字句

印付けされた文字列を、地の文、要素の始まりと終わり、注釈などの出来事の列に分ける。入れ子はまだ
見ない。書き損じた印付けも断らず、決まったやり方で地の文や注釈として読む。

## 二つの段階

読み取りは二つの段階を持つ。初めの段階で閉じられていない印や書きかけの参照に出会うと、続きは
後の段階で読む。後の段階で同じものに出会うと、閉じられていない印は地の文になり、書きかけの参照
より後ろは、すべて地の文として残る。
-/

namespace Tategaki.Markup

open Unicode

/-- 字句の出来事。 -/
inductive Event where
  | text (s : Text)
  /-- 要素の始まり。`closed` は `<x/>` の形で書かれたことを表す。 -/
  | start (name : String) (attributes : List Attribute) (closed : Bool)
  | stop (name : String)
  | special (kind : Special) (s : Text)
  deriving DecidableEq, Repr

/-- 読み方の誤りの文面。 -/
def ReadError.message : ReadError → String
  | unknownSection keyword =>
    let shown := String.ofList (Text.quoted keyword)
    s!"unknown status keyword {shown} in marked section"
  | nameExpected shown => "expected name token at " ++ String.ofList (Text.quoted shown)
  | tooManyDigits count => Json.tooManyDigitsText count

/-- 印付けを断ったときの文面。 -/
def rejectionText (reason : String) : String :=
  "The markup you provided was rejected by the parser. Trying a different parser or a different "
    ++ "encoding may help.\n\nOriginal exception(s) from parser:\n AssertionError: " ++ reason

/-- 読み手に示す文面。 -/
def ReadError.report (e : ReadError) : String :=
  match e with
  | tooManyDigits _ => e.message
  | _ => rejectionText e.message

namespace Lexer

/-! ## 探す -/

/-- `ends` が初めて受け入れるところの手前までと、その後ろ。 -/
def upTo (ends : Text → Option Text) : Text → Option (Text × Text)
  | [] => (ends []).map fun rest => ([], rest)
  | c :: s =>
    match ends (c :: s) with
    | some rest => some ([], rest)
    | none => (upTo ends s).map fun (found, rest) => (c :: found, rest)

/-- 先頭の一文字。 -/
def mark (m : Char) : Text → Option Text
  | [] => none
  | c :: s => if c == m then some s else none

/-- 空白を挟んで `>` で終わる。 -/
def spacedClose (s : Text) : Option Text := mark '>' (s.dropWhile isBlank)

/-- 注釈の終わり。 -/
def commentEnd (s : Text) : Option Text :=
  ((mark '-' s).bind (mark '-')).bind spacedClose

/-- 区画の終わり。 -/
def sectionEnd (s : Text) : Option Text :=
  (mark ']' s).bind fun s => (mark ']' (s.dropWhile isBlank)).bind spacedClose

/-- 条件の付いた区画の終わり。 -/
def conditionEnd (s : Text) : Option Text := (mark ']' s).bind spacedClose

/-- ASCII の英字か。 -/
def isAsciiLetter (c : Char) : Bool := isAsciiCased c.toNat

/-- 名前を小文字にする。 -/
def foldName (s : Text) : String := String.ofList (lowerText s)

/-! ## 要素の始まり -/

/-- 要素の名前を終わらせる文字か。 -/
def endsName (c : Char) : Bool :=
  c == '\t' || c == '\n' || c == '\r' || c == '\x0c' || c == ' ' || c == '/' || c == '>'
    || c == '\x00'

/-- 空白と斜線を飛ばす。`>` の直前の斜線は残す。直前の文字も返す。 -/
def skipGaps : Char → Text → Char × Text
  | last, [] => (last, [])
  | last, c :: rest =>
    if c == '/' then
      if rest.head? == some '>' then (last, c :: rest) else skipGaps c rest
    else if isBlank c then skipGaps c rest
    else (last, c :: rest)

/-- 属性の名前の前に来てよい文字か。 -/
def opensAttribute (c : Char) : Bool := c == '\'' || c == '"' || c == '/' || isBlank c

/-- 属性の値。直前の文字と、後ろも返す。 -/
structure ValueFound where
  value : Text
  last : Char
  rest : Text

/-- 引用符のない値。`last` は直前の文字。 -/
def bareValue (last : Char) (s : Text) : ValueFound :=
  let value := s.takeWhile fun c => !(c == '>' || isBlank c)
  ⟨value, value.getLastD last, s.drop value.length⟩

/-- 引用符で囲んだ値。 -/
def quotedValue? (quote : Char) (s : Text) : Option ValueFound :=
  (upTo (mark quote) s).map fun (value, rest) => ⟨value, quote, rest⟩

/-- 属性の値を読む。閉じない引用符は値を始めないので、手前の空白か等号で値を打ち切る。 -/
def attributeValue? (s : Text) : Option ValueFound :=
  let s := s.dropWhile isBlank
  let equals := (s.takeWhile (· == '=')).length
  if equals == 0 then none
  else
    let after := s.drop equals
    let blanks := after.takeWhile isBlank
    let s := after.drop blanks.length
    let last := blanks.getLastD '='
    match s with
    | [] => some ⟨[], last, []⟩
    | q :: inside =>
      if q == '\'' || q == '"' then
        match quotedValue? q inside with
        | some found => some found
        | none =>
          if !blanks.isEmpty then some ⟨[], last, s⟩
          else if 2 ≤ equals then some (bareValue '=' ('=' :: s))
          else none
      else some (bareValue last s)

/-- 属性を順に読む。値の中の参照はまだ直さない。 -/
def attributes : Nat → Char → Text → List Attribute × Text
  | 0, _, s => ([], s)
  | _ + 1, _, [] => ([], [])
  | fuel + 1, last, c :: s =>
    if !opensAttribute last || isBlank c || c == '/' || c == '>' then ([], c :: s)
    else
      let tail := s.takeWhile fun c => !(isBlank c || c == '/' || c == '=' || c == '>')
      let name := c :: tail
      let rest := s.drop tail.length
      let found := (attributeValue? rest).getD ⟨[], name.getLastD c, rest⟩
      let (last, rest) := skipGaps found.last found.rest
      let (more, rest) := attributes fuel last rest
      (⟨foldName name, found.value⟩ :: more, rest)

/-- 値の中の参照を文字に直す。 -/
def decodeValue (a : Attribute) : Except ReadError Attribute :=
  (Reference.unescape a.value).map fun value => { a with value }

/-- 要素の始まりの読み方。 -/
inductive TagOutcome where
  /-- 閉じられていない。 -/
  | unfinished
  /-- 印付けとして読めない。ここまでが地の文になる。 -/
  | junk (s rest : Text)
  | tag (name : String) (attributes : List Attribute) (closed : Bool) (rest : Text)

/-- 要素の始まりを読む。`s` は `<` の後ろである。 -/
def startTag (s : Text) : Except ReadError TagOutcome :=
  let name := s.takeWhile (!endsName ·)
  let (last, rest) := skipGaps (name.getLastD ' ') (s.drop name.length)
  let (found, rest) := attributes (rest.length + 1) last rest
  let decoded := found.mapM decodeValue
  match rest with
  | [] => .ok .unfinished
  | '>' :: rest => decoded.map fun found => .tag (foldName name) found false rest
  | '/' :: '>' :: rest => decoded.map fun found => .tag (foldName name) found true rest
  | c :: _ =>
    if isAsciiLetter c || c == '=' || c == '/' then .ok .unfinished
    else decoded.map fun _ => .junk ('<' :: s.take (s.length - rest.length)) rest

/-! ## 宣言 -/

/-- 区画の名前。名前の後の空白まで読む。 -/
def sectionName? (s : Text) : Option (Text × Text) :=
  match s with
  | [] => none
  | c :: rest =>
    if !isAsciiLetter c then none
    else
      let tail := rest.takeWhile fun c =>
        isAsciiLetter c || Reference.isDigit c || c == '-' || c == '_' || c == '.'
      let after := rest.drop tail.length
      some (c :: tail, after.dropWhile isBlank)

/-- 出来事と、後ろ。`none` は閉じられていないことを表す。 -/
abbrev Found := Option (List Event × Text)

/-- 種類の分かる区画の中身。 -/
def sectionEvent (s : Text) : Event :=
  if foldName (s.take 6) == "cdata[" then .special .cdata (s.drop 6)
  else .special .declaration s

/-- 区画を読む。`s` は `<![` の後ろである。 -/
def markedSection (s : Text) : Except ReadError Found :=
  if s.isEmpty then .ok none
  else
    match sectionName? s with
    | none => .error (.nameExpected (('<' :: '!' :: '[' :: s).take 20))
    | some (name, rest) =>
      if rest.isEmpty then .ok none
      else
        let keyword := foldName name
        let found (ends : Text → Option Text) : Found :=
          (upTo ends s).map fun (inside, rest) => ([sectionEvent inside], rest)
        if ["temp", "cdata", "ignore", "include", "rcdata"].contains keyword then
          .ok (found sectionEnd)
        else if ["if", "else", "endif"].contains keyword then .ok (found conditionEnd)
        else .error (.unknownSection (s.take (s.length - rest.length)))

/-- `>` までを一つの出来事にする。 -/
def upToClose (event : Text → Event) (s : Text) : Found :=
  (upTo (mark '>') s).map fun (inside, rest) => ([event inside], rest)

/-- 宣言を読む。`s` は `<!` の後ろである。 -/
def declaration (s : Text) : Except ReadError Found :=
  match s with
  | '-' :: '-' :: s =>
    .ok ((upTo commentEnd s).map fun (inside, rest) => ([.special .comment inside], rest))
  | '[' :: s => markedSection s
  | s =>
    if foldName (s.take 7) == "doctype" then
      .ok ((upTo (mark '>') (s.drop 7)).map fun (inside, rest) =>
        ([.special .doctype (inside.drop 1)], rest))
    else .ok (upToClose (.special .comment) s)

/-! ## 要素の終わり -/

/-- 要素の終わりを読む。`s` は `</` の後ろである。 -/
def endTag (s : Text) : Found :=
  let spaced := s.dropWhile isBlank
  let name := spaced.takeWhile fun c =>
    isAsciiLetter c || Reference.isDigit c || c == '-' || c == '.' || c == ':' || c == '_'
  match name, spacedClose (spaced.drop name.length) with
  | c :: _, some rest =>
    if isAsciiLetter c then some ([.stop (foldName name)], rest) else looseEnd s
  | _, _ => looseEnd s
where
  /-- 形の整わない終わり。 -/
  looseEnd (s : Text) : Found :=
    match s with
    | [] => none
    | '>' :: rest => some ([], rest)
    | c :: _ =>
      if isAsciiLetter c then
        let name := s.takeWhile (!endsName ·)
        (upTo (mark '>') (s.drop name.length)).map fun (_, rest) =>
          ([.stop (foldName name)], rest)
      else upToClose (.special .comment) s

/-! ## 印 -/

/-- 中身が地の文でも印付けでもない要素。 -/
def rawNames : List String := ["script", "style"]

/-- 名前の要素の終わりか。 -/
def closesRaw (name : String) (s : Text) : Option Text :=
  ((mark '<' s).bind (mark '/')).bind fun s =>
    let s := s.dropWhile isBlank
    let written := s.take name.length
    if written.all isAsciiLetter && foldName written == name then
      spacedClose (s.drop name.length)
    else none

/-- 要素の始まりの後に続く出来事。中身を読まない要素は、終わりまでを一度に読む。終わりがなければ
残りは捨てられる。 -/
def afterStart (name : String) (found : List Attribute) (closed : Bool) (rest : Text) :
    List Event × Text :=
  let opening : Event := .start name found closed
  if closed || !rawNames.contains name then ([opening], rest)
  else
    match upTo (closesRaw name) rest with
    | some (inside, rest) => ([opening, .text inside, .stop name], rest)
    | none => ([opening], [])

/-- `<` の後ろを読む。 -/
def markup (s : Text) : Except ReadError Found :=
  match s with
  | [] => .ok none
  | '/' :: s => .ok (endTag s)
  | '?' :: s => .ok (upToClose (.special .instruction) s)
  | '!' :: s => declaration s
  | c :: rest =>
    if isAsciiLetter c then
      match startTag (c :: rest) with
      | .error e => .error e
      | .ok .unfinished => .ok none
      | .ok (.junk s rest) => .ok (some ([.text s], rest))
      | .ok (.tag name found closed rest) => .ok (some (afterStart name found closed rest))
    else .ok (some ([.text ['<']], c :: rest))

/-- 閉じられていない印が地の文になる範囲。`s` は `<` の後ろである。 -/
def unfinishedText (s : Text) : Text × Text :=
  match upTo (mark '>') s with
  | some (inside, rest) => ('<' :: inside ++ ['>'], rest)
  | none =>
    let before := s.takeWhile (· != '<')
    if before.length < s.length then ('<' :: before, s.drop before.length) else (['<'], s)

/-! ## 参照 -/

/-- 地の文の参照の読み方。 -/
inductive ReferenceOutcome where
  | found (s rest : Text)
  /-- 書きかけの参照。`s` を地の文とした上で、段階が終わる。 -/
  | unfinished (s rest : Text)

/-- 末尾の `;` を飛ばす。 -/
def afterReference (s : Text) : Text := (Reference.dropSemicolon s).2

/-- 参照の名前に使われる文字か。 -/
def isReferenceChar (c : Char) : Bool :=
  isAsciiLetter c || Reference.isDigit c || c == '-' || c == '.'

/-- 名前の参照の名前。文字列の終わりまで続くときは、点か横線の手前で終わる。 -/
def referenceName? (s : Text) : Option Text :=
  let run := s.takeWhile isReferenceChar
  if run.length < s.length then some run
  else
    match run.reverse.dropWhile fun c => !(c == '-' || c == '.') with
    | [] => none
    | _ :: before => some before.reverse

/-- 番号の参照を読む。`s` は `&#` の後ろである。 -/
def numericReference (s : Text) : Except ReadError ReferenceOutcome :=
  let open_ : ReferenceOutcome :=
    if s.contains ';' then .unfinished ['&', '#'] s else .unfinished [] ('&' :: '#' :: s)
  match Reference.numeral? s with
  | none => .ok open_
  | some (numeral, rest) =>
    match rest with
    | [] => .ok open_
    | c :: _ =>
      if Reference.isHexDigit c then .ok open_
      else
        numeral.value.map fun n =>
          .found [Reference.textCharacter n] (afterReference rest)

/-- 名前の参照を読む。`s` は `&` の後ろで、英字で始まる。 -/
def namedReference (s : Text) : ReferenceOutcome :=
  match referenceName? s with
  | none => .unfinished [] ('&' :: s)
  | some name =>
    let text := (Entity.named? (String.ofList name)).getD ('&' :: name)
    .found text (afterReference (s.drop name.length))

/-- `&` の後ろを読む。 -/
def reference (s : Text) : Except ReadError ReferenceOutcome :=
  match s with
  | [] => .ok (.unfinished [] ['&'])
  | '#' :: s => numericReference s
  | c :: rest =>
    if isAsciiLetter c then .ok (namedReference (c :: rest)) else .ok (.found ['&'] (c :: rest))

/-! ## 全体 -/

/-- 空でない文字列の出来事。 -/
def textEvents (s : Text) : List Event := if s.isEmpty then [] else [.text s]

/-- 後の段階を終えたときに残るもの。二文字の書きかけの参照だけは、`&` が落ちる。 -/
def leftover (s : Text) : List Event :=
  match s with
  | ['&', c] => if isAsciiLetter c then [.text [c]] else textEvents s
  | _ => textEvents s

/-- 出来事の列。`final` は後の段階であることを表す。 -/
def events : Nat → Bool → Text → Except ReadError (List Event)
  | 0, _, _ => .ok []
  | _ + 1, _, [] => .ok []
  | fuel + 1, final, '<' :: s => do
    match ← markup s with
    | some (found, rest) => return found ++ (← events fuel final rest)
    | none =>
      if !final then events fuel true ('<' :: s)
      else if s.isEmpty then return [.text ['<']]
      else
        let (text, rest) := unfinishedText s
        return .text text :: (← events fuel final rest)
  | fuel + 1, final, '&' :: s => do
    match ← reference s with
    | .found text rest => return .text text :: (← events fuel final rest)
    | .unfinished text rest =>
      if !final then return textEvents text ++ (← events fuel true rest)
      else return textEvents text ++ leftover rest
  | fuel + 1, final, c :: s => do
    let run := (c :: s).takeWhile fun c => !(c == '<' || c == '&')
    return .text run :: (← events fuel final ((c :: s).drop run.length))

/-- 文字列を出来事の列に分ける。 -/
def read (s : Text) : Except ReadError (List Event) :=
  events (s.length + 2) false s

end Lexer

end Tategaki.Markup
