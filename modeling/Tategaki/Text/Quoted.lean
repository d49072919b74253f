import Tategaki.Unicode.Printable

/-!
# 引用符で囲んだ文字列

誤りの文面や記録の中で値を示すときの書き方。普通は一重の引用符で囲み、文字列が一重の引用符を
含み二重の引用符を含まないときだけ二重の引用符で囲む。印字できない文字は番号で書く。
-/

namespace Tategaki.Text

open Unicode

/-- 16 進の数字（小文字）。 -/
def hexDigit (n : Nat) : Char := Char.ofNat (if n < 10 then 0x30 + n else 0x57 + n)

/-- `width` 桁の 16 進表記。上の桁から並べる。 -/
def hex : Nat → Nat → List Char
  | 0, _ => []
  | width + 1, n => hex width (n / 16) ++ [hexDigit (n % 16)]

/-- 囲みに使う引用符。 -/
def quoteMark (s : List Char) : Char :=
  if s.contains '\'' && !s.contains '"' then '"' else '\''

/-- 一文字を引用の中での書き方にする。 -/
def quotedChar (mark c : Char) : List Char :=
  if c == mark || c == '\\' then ['\\', c]
  else if c == '\n' then ['\\', 'n']
  else if c == '\r' then ['\\', 'r']
  else if c == '\t' then ['\\', 't']
  else if isPrintable c then [c]
  else if c.toNat < 0x100 then '\\' :: 'x' :: hex 2 c.toNat
  else if c.toNat < 0x10000 then '\\' :: 'u' :: hex 4 c.toNat
  else '\\' :: 'U' :: hex 8 c.toNat

/-- 引用符で囲んだ文字列。 -/
def quoted (s : List Char) : List Char :=
  let mark := quoteMark s
  mark :: s.flatMap (quotedChar mark) ++ [mark]

end Tategaki.Text
