import Tategaki.Text.Basic
import Tategaki.Text.Quoted

/-!
# UTF-8

バイト列を文字の並びに直す。RFC 3629 に従わないバイト列は、最初に食い違ったところを示して断る。
示す範囲は、正しい並びの途中まで合っていたバイトを含む。
-/

namespace Tategaki

/-- バイトの並び。 -/
abbrev Bytes := List UInt8

namespace Utf8

/-- 食い違いの理由。 -/
inductive Reason where
  | startByte
  | continuation
  | endOfData
  deriving DecidableEq, Repr

/-- 理由の文面。 -/
def Reason.text : Reason → String
  | startByte => "invalid start byte"
  | continuation => "invalid continuation byte"
  | endOfData => "unexpected end of data"

/-- 読めないバイト列。`[start, stop)` が食い違った範囲である。 -/
structure DecodeError where
  start : Nat
  stop : Nat
  /-- 範囲の最初のバイト。 -/
  first : UInt8
  reason : Reason
  deriving DecidableEq, Repr

/-- 食い違いの文面。 -/
def DecodeError.message (e : DecodeError) : String :=
  let reason := e.reason.text
  let start := e.start
  if e.start + 1 == e.stop then
    let byte := String.ofList (Text.hex 2 e.first.toNat)
    s!"'utf-8' codec can't decode byte 0x{byte} in position {start}: {reason}"
  else
    let last := e.stop - 1
    s!"'utf-8' codec can't decode bytes in position {start}-{last}: {reason}"

/-- 後続のバイトか。 -/
def isContinuation (b : UInt8) : Bool := 0x80 ≤ b && b < 0xC0

/-- 先頭のバイトに続く、二番目のバイトとして許されるか。 -/
def isSecond (lead b : UInt8) : Bool :=
  isContinuation b && !(lead == 0xE0 && b < 0xA0) && !(lead == 0xED && 0xA0 ≤ b)
    && !(lead == 0xF0 && b < 0x90) && !(lead == 0xF4 && 0x90 ≤ b)

/-- 先頭のバイトが始める並びの長さ。 -/
def sequenceLength (lead : UInt8) : Option Nat :=
  if lead < 0x80 then some 1
  else if lead < 0xC2 then none
  else if lead < 0xE0 then some 2
  else if lead < 0xF0 then some 3
  else if lead < 0xF5 then some 4
  else none

/-- 正しい並びの途中まで合っているバイトの個数。 -/
def validPart (lead : UInt8) (count : Nat) (rest : Bytes) : Nat :=
  match rest with
  | [] => 1
  | b :: more =>
    if count ≤ 1 then 1
    else if !isSecond lead b then 1
    else 2 + ((more.take (count - 2)).takeWhile isContinuation).length

/-- 並びが表す文字の番号。 -/
def codePoint (lead : UInt8) (tail : Bytes) : Nat :=
  let head := match tail.length with
    | 0 => lead.toNat
    | 1 => lead.toNat % 0x20
    | 2 => lead.toNat % 0x10
    | _ => lead.toNat % 0x08
  tail.foldl (fun n b => n * 0x40 + b.toNat % 0x40) head

/-- 位置 `position` から読む。 -/
def decodeFrom (position : Nat) : Nat → Bytes → Except DecodeError Text
  | 0, _ => .ok []
  | _ + 1, [] => .ok []
  | fuel + 1, lead :: rest =>
    match sequenceLength lead with
    | none => .error ⟨position, position + 1, lead, .startByte⟩
    | some count =>
      let valid := validPart lead count rest
      if count ≤ valid then
        match decodeFrom (position + count) fuel (rest.drop (count - 1)) with
        | .ok s => .ok (Char.ofNat (codePoint lead (rest.take (count - 1))) :: s)
        | .error e => .error e
      else if rest.length + 1 ≤ valid then
        .error ⟨position, position + valid, lead, .endOfData⟩
      else .error ⟨position, position + valid, lead, .continuation⟩

/-- バイト列を文字の並びに直す。 -/
def decode (bytes : Bytes) : Except DecodeError Text := decodeFrom 0 (bytes.length + 1) bytes

/-- 一文字のバイト列。 -/
def encodeChar (c : Char) : Bytes :=
  let n := c.toNat
  if n < 0x80 then [n.toUInt8]
  else if n < 0x800 then [(0xC0 + n / 0x40).toUInt8, (0x80 + n % 0x40).toUInt8]
  else if n < 0x10000 then
    [(0xE0 + n / 0x1000).toUInt8, (0x80 + n / 0x40 % 0x40).toUInt8, (0x80 + n % 0x40).toUInt8]
  else
    [(0xF0 + n / 0x40000).toUInt8, (0x80 + n / 0x1000 % 0x40).toUInt8,
      (0x80 + n / 0x40 % 0x40).toUInt8, (0x80 + n % 0x40).toUInt8]

/-- 文字の並びをバイト列にする。 -/
def encode (s : Text) : Bytes := s.flatMap encodeChar

/-- 改行の書き方を一つに揃える。 -/
def unifyLineEnds : Text → Text
  | [] => []
  | '\r' :: '\n' :: rest => '\n' :: unifyLineEnds rest
  | '\r' :: rest => '\n' :: unifyLineEnds rest
  | c :: rest => c :: unifyLineEnds rest

end Utf8

end Tategaki
