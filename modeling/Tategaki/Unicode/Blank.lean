/-!
# 空白

二つの集合を区別する。`isBlank` は Unicode の空白（区切り文字と制御文字の一部）、
`isAsciiBlank` は印付け言語が空白と見なす六文字である。零幅の空白（U+200B など）は
どちらにも入らない。
-/

namespace Tategaki.Unicode

/-- Unicode の空白か。 -/
def isBlank (c : Char) : Bool :=
  let n := c.toNat
  (0x09 ≤ n && n ≤ 0x0D) || (0x1C ≤ n && n ≤ 0x20) || n == 0x85 || n == 0xA0 || n == 0x1680
    || (0x2000 ≤ n && n ≤ 0x200A) || n == 0x2028 || n == 0x2029 || n == 0x202F || n == 0x205F
    || n == 0x3000

/-- 印付けの構文で空白として働く文字か（タブ、改行、改頁、復帰、空白）。 -/
def isAsciiBlank (c : Char) : Bool :=
  c == ' ' || c == '\t' || c == '\n' || c == '\x0c' || c == '\r'

/-- 行を区切る文字か。 -/
def isLineEnd (c : Char) : Bool :=
  let n := c.toNat
  (0x0A ≤ n && n ≤ 0x0D) || (0x1C ≤ n && n ≤ 0x1E) || n == 0x85 || n == 0x2028 || n == 0x2029

/-! ## 端の空白を落とす -/

/-- 先頭の空白を落とす。 -/
def stripLeft (s : List Char) : List Char := s.dropWhile isBlank

/-- 末尾の空白を落とす。 -/
def stripRight : List Char → List Char
  | [] => []
  | c :: rest =>
    match stripRight rest with
    | [] => if isBlank c then [] else [c]
    | kept => c :: kept

/-- 両端の空白を落とす。 -/
def strip (s : List Char) : List Char := stripRight (stripLeft s)

/-! ## 行に分ける -/

/-- 行の列にする。行末の文字（`\r\n` は一つと数える）は含めず、最後の空行は数えない。 -/
def lines : List Char → List (List Char)
  | [] => []
  | s@(_ :: _) => go [] s
where
  /-- `current` は読みかけの行を逆順に持つ。 -/
  go (current : List Char) : List Char → List (List Char)
    | [] => [current.reverse]
    | '\r' :: '\n' :: rest => current.reverse :: (if rest.isEmpty then [] else go [] rest)
    | c :: rest =>
      if isLineEnd c then current.reverse :: (if rest.isEmpty then [] else go [] rest)
      else go (c :: current) rest

end Tategaki.Unicode
