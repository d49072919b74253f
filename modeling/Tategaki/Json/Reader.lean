import Tategaki.Json.Basic
import Tategaki.Text.Surrogate

/-!
# データの読み取り

JSON の文を読み、値か、誤りとその位置を返す。文法は RFC 8259 に `NaN`、`Infinity`、
`-Infinity` を加えたもので、文字列の中の制御文字は認めない。

文字列は、代用符号位置を `\u` で書ける。上位と下位の対は一つの文字になり、対にならないものは、渡された区画の
文字で代わりをさせる。

読み手はカーソル（残りの文字と、そこまでの文字数）を持ち回る。入れ子の深さと項目の数は
残りの文字数を越えないので、それを燃料にする。
-/

namespace Tategaki.Json

open Surrogate

/-- 読み取りの誤りの種類。 -/
inductive ReadErrorKind where
  | byteOrderMark
  | expectingValue
  | expectingName
  | expectingColon
  | expectingComma
  | extraData
  | controlCharacter
  | escape
  | unicodeEscape
  | unterminatedString
  deriving DecidableEq, Repr

/-- 誤りの文面。 -/
def ReadErrorKind.text : ReadErrorKind → String
  | byteOrderMark => "Unexpected UTF-8 BOM (decode using utf-8-sig)"
  | expectingValue => "Expecting value"
  | expectingName => "Expecting property name enclosed in double quotes"
  | expectingColon => "Expecting ':' delimiter"
  | expectingComma => "Expecting ',' delimiter"
  | extraData => "Extra data"
  | controlCharacter => "Invalid control character at"
  | escape => "Invalid \\escape"
  | unicodeEscape => "Invalid \\uXXXX escape"
  | unterminatedString => "Unterminated string starting at"

/-- 読み取りの失敗。整数の桁が多すぎるものは、位置を持たない別の失敗である。 -/
inductive ReadError where
  | syntaxError (kind : ReadErrorKind) (position : Nat)
  | tooManyDigits (count : Nat)
  deriving DecidableEq, Repr

/-- 読みかけの文。 -/
structure Cursor where
  rest : List Char
  position : Nat

namespace Cursor

/-- `n` 文字進む。 -/
def advance (c : Cursor) (n : Nat) : Cursor := ⟨c.rest.drop n, c.position + n⟩

/-- 空白を飛ばす。 -/
def skipBlank (c : Cursor) : Cursor :=
  let isGap (x : Char) : Bool := x == ' ' || x == '\t' || x == '\n' || x == '\r'
  ⟨c.rest.dropWhile isGap, c.position + (c.rest.takeWhile isGap).length⟩

/-- その場で失敗する。 -/
def fail {α : Type} (c : Cursor) (kind : ReadErrorKind) : Except ReadError α :=
  .error (.syntaxError kind c.position)

end Cursor

/-! ## 文字列 -/

/-- 16 進数字の値。 -/
def hexValue (c : Char) : Option Nat :=
  let n := c.toNat
  if 0x30 ≤ n && n ≤ 0x39 then some (n - 0x30)
  else if 0x41 ≤ n && n ≤ 0x46 then some (n - 0x41 + 10)
  else if 0x61 ≤ n && n ≤ 0x66 then some (n - 0x61 + 10)
  else none

/-- 四桁の 16 進数と、その後ろ。後ろに少なくとも一文字なければならない。 -/
def hexQuad : List Char → Option (Nat × List Char)
  | a :: b :: c :: d :: rest =>
    if rest.isEmpty then none
    else do
      let a ← hexValue a
      let b ← hexValue b
      let c ← hexValue c
      let d ← hexValue d
      some (a * 4096 + b * 256 + c * 16 + d, rest)
  | _ => none

/-- 一文字の略記が表す文字。 -/
def shortEscape : Char → Option Char
  | '"' => some '"'
  | '\\' => some '\\'
  | '/' => some '/'
  | 'b' => some '\x08'
  | 'f' => some '\x0c'
  | 'n' => some '\n'
  | 'r' => some '\r'
  | 't' => some '\t'
  | _ => none

/-- 上位の代用符号の後に続く下位の代用符号を読む。続かなければ `none`、
書きかけの番号なら誤りである。位置は二つ目の `u` を指す。 -/
def lowSurrogate (position : Nat) : List Char → Except ReadError (Option (Nat × List Char))
  | '\\' :: 'u' :: rest =>
    if rest.length ≤ 4 then .ok none
    else match hexQuad rest with
      | none => .error (.syntaxError .unicodeEscape (position + 1))
      | some (n, after) => .ok (if 0xDC00 ≤ n && n < 0xE000 then some (n, after) else none)
  | _ => .ok none

/-- 開きの引用符の後ろから文字列の中身を読む。`start` は開きの引用符の位置。 -/
def readString (lone : Block) (start : Nat) :
    Nat → Cursor → List Char → Except ReadError (String × Cursor)
  | 0, _, _ => .error (.syntaxError .unterminatedString start)
  | fuel + 1, c, taken =>
    match c.rest with
    | [] => .error (.syntaxError .unterminatedString start)
    | '"' :: _ => .ok (String.ofList taken.reverse, c.advance 1)
    | ['\\'] => .error (.syntaxError .unterminatedString start)
    | '\\' :: 'u' :: rest =>
      match hexQuad rest with
      | none => .error (.syntaxError .unicodeEscape (c.position + 1))
      | some (n, after) =>
        if 0xD800 ≤ n && n < 0xDC00 then
          match lowSurrogate (c.position + 6) after with
          | .error e => .error e
          | .ok (some (m, beyond)) =>
            readString lone start fuel ⟨beyond, c.position + 12⟩
              (Char.ofNat (0x10000 + (n - 0xD800) * 0x400 + (m - 0xDC00)) :: taken)
          | .ok none => readString lone start fuel ⟨after, c.position + 6⟩ (lone.standIn n :: taken)
        else if 0xDC00 ≤ n && n < 0xE000 then
          readString lone start fuel ⟨after, c.position + 6⟩ (lone.standIn n :: taken)
        else readString lone start fuel ⟨after, c.position + 6⟩ (Char.ofNat n :: taken)
    | '\\' :: x :: rest =>
      match shortEscape x with
      | some y => readString lone start fuel ⟨rest, c.position + 2⟩ (y :: taken)
      | none => c.fail .escape
    | x :: rest =>
      if x.toNat < 0x20 then c.fail .controlCharacter
      else readString lone start fuel ⟨rest, c.position + 1⟩ (x :: taken)

/-! ## 数 -/

/-- 数字の列を自然数として読む。 -/
def naturalOf (digits : List Char) : Nat := digits.foldl (fun n d => 10 * n + (d.toNat - 0x30)) 0

/-- 整数として読める数字の個数の上限。 -/
def maxIntegerDigits : Nat := 4300

/-- 数を読む。 -/
def readNumber (c : Cursor) : Except ReadError (Json × Cursor) :=
  let negative := c.rest.head? == some '-'
  let body := if negative then c.rest.drop 1 else c.rest
  let whole := match body with
    | '0' :: _ => ['0']
    | _ => body.takeWhile Char.isDigit
  if whole.isEmpty then c.fail .expectingValue
  else
    let afterWhole := body.drop whole.length
    let fraction := match afterWhole with
      | '.' :: digits => digits.takeWhile Char.isDigit
      | _ => []
    let afterFraction :=
      if fraction.isEmpty then afterWhole else afterWhole.drop (fraction.length + 1)
    let (mark, sign, power) : Nat × List Char × List Char := match afterFraction with
      | e :: s :: digits =>
        if e == 'e' || e == 'E' then
          if s == '+' || s == '-' then (1, [s], digits.takeWhile Char.isDigit)
          else (1, [], (s :: digits).takeWhile Char.isDigit)
        else (0, [], [])
      | _ => (0, [], [])
    let used := (if negative then 1 else 0) + whole.length
      + (if fraction.isEmpty then 0 else fraction.length + 1)
      + (if power.isEmpty then 0 else mark + sign.length + power.length)
    let next := c.advance used
    if fraction.isEmpty && power.isEmpty then
      if maxIntegerDigits < whole.length then .error (.tooManyDigits whole.length)
      else
        let n : Int := naturalOf whole
        .ok (.int (if negative then -n else n), next)
    else
      let e : Int := naturalOf power
      let e := (if sign == ['-'] then -e else e) - fraction.length
      .ok (.float (Binary64.ofDecimal negative (naturalOf (whole ++ fraction)) e), next)

/-! ## 値 -/

/-- 決まった綴りの値。 -/
def literal (rest : List Char) : Option (Json × Nat) :=
  if "null".toList.isPrefixOf rest then some (.null, 4)
  else if "true".toList.isPrefixOf rest then some (.bool true, 4)
  else if "false".toList.isPrefixOf rest then some (.bool false, 5)
  else if "NaN".toList.isPrefixOf rest then some (.float .nan, 3)
  else if "Infinity".toList.isPrefixOf rest then some (.float (.infinite false), 8)
  else if "-Infinity".toList.isPrefixOf rest then some (.float (.infinite true), 9)
  else none

mutual

/-- 値を一つ読む。 -/
def readValue (lone : Block) : Nat → Cursor → Except ReadError (Json × Cursor)
  | 0, c => c.fail .expectingValue
  | fuel + 1, c =>
    match c.rest with
    | '"' :: _ =>
      match readString lone c.position (c.rest.length + 1) (c.advance 1) [] with
      | .ok (s, next) => .ok (.str s, next)
      | .error e => .error e
    | '{' :: _ =>
      let inner := (c.advance 1).skipBlank
      if inner.rest.head? == some '}' then .ok (.obj [], inner.advance 1)
      else readFields lone fuel inner []
    | '[' :: _ =>
      let inner := (c.advance 1).skipBlank
      if inner.rest.head? == some ']' then .ok (.arr [], inner.advance 1)
      else readItems lone fuel inner []
    | rest =>
      match literal rest with
      | some (value, used) => .ok (value, c.advance used)
      | none => readNumber c

/-- 並びの残りを読む。 -/
def readItems (lone : Block) : Nat → Cursor → List Json → Except ReadError (Json × Cursor)
  | 0, c, _ => c.fail .expectingValue
  | fuel + 1, c, taken =>
    match readValue lone fuel c with
    | .error e => .error e
    | .ok (item, next) =>
      let next := next.skipBlank
      match next.rest.head? with
      | some ']' => .ok (.arr (item :: taken).reverse, next.advance 1)
      | some ',' => readItems lone fuel (next.advance 1).skipBlank (item :: taken)
      | _ => next.fail .expectingComma

/-- 対象の残りを読む。 -/
def readFields (lone : Block) :
    Nat → Cursor → List (String × Json) → Except ReadError (Json × Cursor)
  | 0, c, _ => c.fail .expectingName
  | fuel + 1, c, taken =>
    if c.rest.head? != some '"' then c.fail .expectingName
    else match readString lone c.position (c.rest.length + 1) (c.advance 1) [] with
      | .error e => .error e
      | .ok (key, next) =>
        let next := next.skipBlank
        if next.rest.head? != some ':' then next.fail .expectingColon
        else match readValue lone fuel (next.advance 1).skipBlank with
          | .error e => .error e
          | .ok (value, next) =>
            let taken := put taken key value
            let next := next.skipBlank
            match next.rest.head? with
            | some '}' => .ok (.obj taken, next.advance 1)
            | some ',' => readFields lone fuel (next.advance 1).skipBlank taken
            | _ => next.fail .expectingComma

end

/-- 文の全体を一つの値として読む。`lone` は、対にならない代用符号の代わりをする区画。 -/
def parse (lone : Block) (text : List Char) : Except ReadError Json :=
  if text.head? == some '\uFEFF' then .error (.syntaxError .byteOrderMark 0)
  else
    match readValue lone (2 * text.length + 2) (Cursor.mk text 0).skipBlank with
    | .error e => .error e
    | .ok (value, next) =>
      let next := next.skipBlank
      if next.rest.isEmpty then .ok value else next.fail .extraData

/-! ## 誤りの文面 -/

/-- 整数の桁が多すぎるときの文面。 -/
def tooManyDigitsText (count : Nat) : String :=
  s!"Exceeds the limit ({maxIntegerDigits} digits) for integer string conversion: "
    ++ s!"value has {count} digits; use sys.set_int_max_str_digits() to increase the limit"

/-- 誤りの文面。位置は行と桁、それに通し番号で示す。 -/
def ReadError.message (text : List Char) : ReadError → String
  | .syntaxError kind position =>
    let place := Text.lineColumn text position
    let line := place.1
    let column := place.2
    s!"{kind.text}: line {line} column {column} (char {position})"
  | .tooManyDigits count => tooManyDigitsText count

end Tategaki.Json
