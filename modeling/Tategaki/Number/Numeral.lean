import Tategaki.Json.Reader
import Tategaki.Unicode.Digit

/-!
# 利用者が書いた数

命令行や正規表現の中で人が書く数は、前後の空白、先頭の符号、桁の間の下線を許し、どの文字体系の
十進数字でもよい。桁の間の下線は一つずつで、端には置けない。前後の空白に、情報を区切る制御文字
（U+001C から U+001F）は含めない。
-/

namespace Tategaki.Numeral

open Unicode

/-- 数の前後に置ける空白か。 -/
def isPadding (c : Char) : Bool := isBlank c && !(0x1C ≤ c.toNat && c.toNat ≤ 0x1F)

/-- 前後の空白を落とす。 -/
def trim (s : Text) : Text := ((s.dropWhile isPadding).reverse.dropWhile isPadding).reverse

/-- 下線で区切られた数字の列。桁の値を並べて返す。 -/
def digitRun : List Char → Option (List Nat)
  | [] => none
  | [c] => (digitValue c).map ([·])
  | c :: '_' :: rest => do
    let d ← digitValue c
    let ds ← digitRun rest
    some (d :: ds)
  | c :: rest => do
    let d ← digitValue c
    let ds ← digitRun rest
    some (d :: ds)

/-- 先頭の符号と、その後ろ。 -/
def splitSign : List Char → Bool × List Char
  | '-' :: rest => (true, rest)
  | '+' :: rest => (false, rest)
  | s => (false, s)

/-- 整数として読む。桁が多すぎるものは読めない。 -/
def readInteger (s : Text) : Option Int :=
  let (negative, body) := splitSign (trim s)
  match digitRun body with
  | none => none
  | some ds =>
    if Json.maxIntegerDigits < ds.length then none
    else
      let n : Int := decimalValue ds
      some (if negative then -n else n)

/-- 数字の列の先頭の部分（桁の値）と、その後ろ。下線は数字に挟まれたときだけ含む。 -/
def takeDigits : List Char → List Nat × List Char
  | [] => ([], [])
  | [c] =>
    match digitValue c with
    | some d => ([d], [])
    | none => ([], [c])
  | c :: '_' :: rest =>
    match digitValue c with
    | none => ([], c :: '_' :: rest)
    | some d =>
      match takeDigits rest with
      | ([], _) => ([d], '_' :: rest)
      | (ds, after) => (d :: ds, after)
  | c :: rest =>
    match digitValue c with
    | none => ([], c :: rest)
    | some d =>
      let (ds, after) := takeDigits rest
      (d :: ds, after)

/-- 指数の部分。書かれていなければ 0 とする。 -/
def readPower : List Char → Option Int
  | [] => some 0
  | c :: rest =>
    if c == 'e' || c == 'E' then
      let (negative, body) := splitSign rest
      match takeDigits body with
      | ([], _) => none
      | (ds, []) => some (if negative then -(decimalValue ds : Int) else decimalValue ds)
      | _ => none
    else none

/-- 小数として読む。無限大と非数は名前で書ける。 -/
def readFloat (s : Text) : Option Binary64 :=
  let (negative, body) := splitSign (trim s)
  let word := body.map lowerAscii
  if word == "inf".toList || word == "infinity".toList then some (.infinite negative)
  else if word == "nan".toList then some .nan
  else
    let (whole, afterWhole) := takeDigits body
    let (fraction, afterFraction) := match afterWhole with
      | '.' :: rest => takeDigits rest
      | rest => ([], rest)
    if whole.isEmpty && fraction.isEmpty then none
    else
      match readPower afterFraction with
      | none => none
      | some e =>
        some (Binary64.ofDecimal negative (decimalValue (whole ++ fraction)) (e - fraction.length))
where
  /-- ASCII の英字を小文字にする。 -/
  lowerAscii (c : Char) : Char := c.toLower

end Tategaki.Numeral
