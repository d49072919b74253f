import Tategaki.Text.Basic

/-!
# 道筋

ファイルの場所を、根と部分の列で表す。空の部分と、その場を表す `.` は除かれるが、一つ上を表す
`..` は残る。文面には、この形に直した道筋が現れる。
-/

namespace Tategaki

/-- ファイルの道筋。 -/
structure FilePath where
  /-- 根の綴り。相対の道筋では空である。 -/
  root : String := ""
  parts : List String
  deriving DecidableEq, Repr

namespace FilePath

/-- 先頭の斜線の個数。 -/
def leadingSlashes (s : Text) : Nat := (s.takeWhile (· == '/')).length

/-- 文字列から道筋を作る。 -/
def ofString (s : String) : FilePath :=
  let root := match leadingSlashes s.toList with
    | 0 => ""
    | 2 => "//"
    | _ => "/"
  let pieces := (Text.splitOn ['/'] s.toList).map String.ofList
  ⟨root, pieces.filter fun p => p != "" && p != "."⟩

/-- 文字列にする。部分のない相対の道筋は `.` と書く。 -/
def toString (p : FilePath) : String :=
  if p.root.isEmpty && p.parts.isEmpty then "." else p.root ++ String.intercalate "/" p.parts

/-- 最後の部分。 -/
def fileName (p : FilePath) : String := p.parts.getLastD ""

/-- 最後の部分を除いた道筋。 -/
def parent (p : FilePath) : FilePath := { p with parts := p.parts.dropLast }

/-- 道筋の下の道筋。絶対の道筋はそのまま使う。 -/
def append (p q : FilePath) : FilePath :=
  if q.root.isEmpty then { p with parts := p.parts ++ q.parts } else q

/-- 名前を、語幹と末尾（最後の点から後ろ）に分ける。点で始まるだけ、終わるだけの名前は
末尾を持たない。 -/
def splitName (name : String) : String × String :=
  let after := name.toList.reverse.takeWhile (· != '.')
  let before := name.toList.reverse.drop (after.length + 1)
  if after.isEmpty || before.isEmpty then (name, "")
  else (String.ofList before.reverse, String.ofList ('.' :: after.reverse))

/-- 語幹。 -/
def stem (p : FilePath) : String := (splitName p.fileName).1

/-- 末尾。 -/
def suffix (p : FilePath) : String := (splitName p.fileName).2

end FilePath

end Tategaki
