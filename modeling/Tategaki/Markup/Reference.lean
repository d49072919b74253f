import Tategaki.Json.Reader
import Tategaki.Markup.Entity
import Tategaki.Text.Surrogate

/-!
# 文字の参照

`&` で始まる文字の参照を読む。地の文と属性の値では読み方が違う。地の文の番号は、255 までなら
Windows-1252 の番号としても読まれ、代用符号位置や表せない番号は置換文字になる。属性の値では、制御文字を
指す番号は何も残さない。
-/

namespace Tategaki.Markup

open Surrogate

/-- 置換文字。 -/
def replacement : Char := Char.ofNat 0xFFFD

/-- 印付けを読めない理由。 -/
inductive ReadError where
  /-- 区画の種類が分からない。 -/
  | unknownSection (keyword : Text)
  /-- 宣言に名前がない。宣言の始まりから後ろを持つ。 -/
  | nameExpected (shown : Text)
  /-- 番号の桁が多すぎる。 -/
  | tooManyDigits (count : Nat)
  deriving DecidableEq, Repr

namespace Reference

/-! ## 番号 -/

/-- ASCII の数字か。 -/
def isDigit (c : Char) : Bool := '0' ≤ c && c ≤ '9'

/-- 16 進の数字か。 -/
def isHexDigit (c : Char) : Bool := (Json.hexValue c).isSome

/-- 16 進の数字の列の値。 -/
def hexNumber (digits : Text) : Nat :=
  digits.foldl (fun n c => n * 16 + (Json.hexValue c).getD 0) 0

/-- 十進の数字の列の値。 -/
def decimalNumber (digits : Text) : Nat :=
  digits.foldl (fun n c => n * 10 + (c.toNat - 0x30)) 0

/-- 番号の綴り。 -/
inductive Numeral where
  | decimal (digits : Text)
  | hex (digits : Text)
  deriving DecidableEq, Repr

/-- 番号の値。十進の桁の数には限りがある。 -/
def Numeral.value : Numeral → Except ReadError Nat
  | decimal digits =>
    if Json.maxIntegerDigits < digits.length then .error (.tooManyDigits digits.length)
    else .ok (decimalNumber digits)
  | hex digits => .ok (hexNumber digits)

/-- `#` の後ろの番号を読む。 -/
def numeral? : Text → Option (Numeral × Text)
  | [] => none
  | c :: s =>
    if c == 'x' || c == 'X' then
      let digits := s.takeWhile isHexDigit
      if digits.isEmpty then none else some (.hex digits, s.drop digits.length)
    else
      let digits := (c :: s).takeWhile isDigit
      if digits.isEmpty then none else some (.decimal digits, (c :: s).drop digits.length)

/-- Windows-1252 で 128 から 159 までの番号が表す文字の番号。 -/
def windowsTable : List Nat := [
  0x20AC, 0x81, 0x201A, 0x192, 0x201E, 0x2026, 0x2020, 0x2021, 0x2C6, 0x2030, 0x160, 0x2039,
  0x152, 0x8D, 0x17D, 0x8F, 0x90, 0x2018, 0x2019, 0x201C, 0x201D, 0x2022, 0x2013, 0x2014, 0x2DC,
  0x2122, 0x161, 0x203A, 0x153, 0x9D, 0x17E, 0x178]

/-- 256 未満の番号を Windows-1252 で読み替える。 -/
def windows (n : Nat) : Nat :=
  if 0x80 ≤ n && n < 0xA0 then windowsTable.getD (n - 0x80) n else n

/-- 地の文の番号が表す文字。 -/
def textCharacter (n : Nat) : Char :=
  if isSurrogate n || 0x110000 ≤ n then replacement else Char.ofNat (windows n)

/-- 印付けの中に書けない文字の番号か。 -/
def isNoncharacter (n : Nat) : Bool :=
  (0x1 ≤ n && n ≤ 0x8) || n == 0xB || (0xE ≤ n && n ≤ 0x1F) || (0x7F ≤ n && n ≤ 0x9F)
    || (0xFDD0 ≤ n && n ≤ 0xFDEF) || n % 0x10000 == 0xFFFE || n % 0x10000 == 0xFFFF

/-- 属性の値の番号が表す文字列。 -/
def valueText (n : Nat) : Text :=
  if n == 0 then [replacement]
  else if 0x80 ≤ n && n < 0xA0 then [Char.ofNat (windows n)]
  else if isSurrogate n || 0x110000 ≤ n then [replacement]
  else if isNoncharacter n then []
  else [Char.ofNat n]

/-! ## 属性の値 -/

/-- 名前に使われる文字か。 -/
def isNameChar (c : Char) : Bool :=
  !(c == '\t' || c == '\n' || c == '\x0c' || c == ' ' || c == '<' || c == '&' || c == '#'
    || c == ';')

/-- 名前として読める一番長い先頭を、二文字以上の範囲で探す。 -/
def longestLoose (name : Text) : Nat → Option (Text × Nat)
  | 0 => none
  | length + 1 =>
    if length + 1 < 2 then none
    else
      match Entity.loose? (String.ofList (name.take (length + 1))) with
      | some s => some (s, length + 1)
      | none => longestLoose name length

/-- 名前の参照。`name` には末尾の `;` を含めない。 -/
def namedValue (name : Text) (terminated : Bool) : Text :=
  let whole := if terminated then Entity.named? (String.ofList name)
    else Entity.loose? (String.ofList name)
  let tail : Text := if terminated then [';'] else []
  match whole with
  | some s => s
  | none =>
    match longestLoose name (if terminated then name.length else name.length - 1) with
    | some (s, length) => s ++ name.drop length ++ tail
    | none => '&' :: name ++ tail

/-- 先頭の `;` と、その後ろ。 -/
def dropSemicolon : Text → Bool × Text
  | ';' :: rest => (true, rest)
  | rest => (false, rest)

/-- 属性の値の中の参照を読む。 -/
def unescapeFrom : Nat → Text → Except ReadError Text
  | 0, s => .ok s
  | _ + 1, [] => .ok []
  | fuel + 1, c :: rest =>
    if c != '&' then (unescapeFrom fuel rest).map (c :: ·)
    else if rest.head? == some '#' then
      match numeral? (rest.drop 1) with
      | none => (unescapeFrom fuel rest).map (c :: ·)
      | some (numeral, after) => do
        let n ← numeral.value
        return valueText n ++ (← unescapeFrom fuel (dropSemicolon after).2)
    else
      let name := (rest.take 32).takeWhile isNameChar
      if name.isEmpty then (unescapeFrom fuel rest).map (c :: ·)
      else
        let (terminated, after) := dropSemicolon (rest.drop name.length)
        (unescapeFrom fuel after).map (namedValue name terminated ++ ·)

/-- 属性の値の中の参照を文字に直す。 -/
def unescape (s : Text) : Except ReadError Text := unescapeFrom s.length s

end Reference

end Tategaki.Markup
