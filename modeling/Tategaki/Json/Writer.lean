import Tategaki.Json.Basic

/-!
# データの書き出し

値を ASCII だけの JSON に書く。項目は並んでいる順に書き、ASCII でない文字は番号（必要なら
代用符号の対）にする。
-/

namespace Tategaki.Json

/-- 16 ビットの単位を番号で書く。 -/
def unitEscape (n : Nat) : List Char := '\\' :: 'u' :: Text.hex 4 n

/-- 文字列の中の一文字。 -/
def writtenChar (c : Char) : List Char :=
  if c == '"' || c == '\\' then ['\\', c]
  else if 0x20 ≤ c.toNat && c.toNat < 0x7F then [c]
  else if c.toNat < 0x10000 then unitEscape c.toNat
  else
    let n := c.toNat - 0x10000
    unitEscape (0xD800 + n / 0x400) ++ unitEscape (0xDC00 + n % 0x400)

/-- 引用符で囲んだ文字列。 -/
def writtenString (s : String) : List Char := '"' :: s.toList.flatMap writtenChar ++ ['"']

/-- 小数。有限でない数は名前で書く。 -/
def writtenFloat : Binary64 → List Char
  | .nan => "NaN".toList
  | .infinite s => (if s then "-Infinity" else "Infinity").toList
  | x => x.shortest.toList

mutual

/-- 値を書く。 -/
def written : Json → List Char
  | null => "null".toList
  | bool b => (if b then "true" else "false").toList
  | int n => (toString n).toList
  | float x => writtenFloat x
  | str s => writtenString s
  | arr items => '[' :: writtenItems items ++ [']']
  | obj fields => '{' :: writtenFields fields ++ ['}']

/-- 並びの中身。 -/
def writtenItems : List Json → List Char
  | [] => []
  | [item] => written item
  | item :: rest => written item ++ ',' :: writtenItems rest

/-- 対象の中身。 -/
def writtenFields : List (String × Json) → List Char
  | [] => []
  | [(key, value)] => writtenString key ++ ':' :: written value
  | (key, value) :: rest => writtenString key ++ ':' :: written value ++ ',' :: writtenFields rest

end

/-- 値を一行に書く。 -/
def write (value : Json) : String := String.ofList value.written

end Tategaki.Json
