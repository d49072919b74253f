import Tategaki.Text.Basic
import Tategaki.Unicode.Case

/-!
# 装飾の札

端末に書く文には、`[red]` のような装飾の札を入れられる。色のない端末では札は消え、残りの文だけが
書かれる。札の前に逆斜線を奇数個置くと、札ではなく文字になる。閉じる札は、開いている札に応じて
いなければならない。

人が書いた文を札の読まれる文に入れるときは、`escape` で札に見えるところを文字にする。
-/

namespace Tategaki.Command.Styled

/-! ## 札を見つける -/

/-- 札の名前を始められるか。 -/
def startsName (c : Char) : Bool :=
  ('a' ≤ c && c ≤ 'z') || c == '#' || c == '/' || c == '@'

/-- `]` までの中身と、その後ろ。先に `[` があれば札ではない。 -/
def readBody : Text → Option (Text × Text)
  | [] => none
  | c :: rest =>
    if c == ']' then some ([], rest)
    else if c == '[' then none
    else (readBody rest).map fun (body, after) => (c :: body, after)

/-- 先頭の札の中身と、その後ろ。 -/
def readTag : Text → Option (Text × Text)
  | '[' :: c :: rest =>
    if startsName c then (readBody rest).map fun (body, after) => (c :: body, after) else none
  | _ => none

/-- 文の一片。 -/
inductive Piece where
  | plain (text : Text)
  /-- 札。前に逆斜線がある。 -/
  | tag (backslashes : Nat) (body : Text)
  deriving DecidableEq, Repr

/-- 読みかけの文を一片にする。空なら何もない。 -/
def flush (pending : Text) (pieces : List Piece) : List Piece :=
  if pending.isEmpty then pieces else .plain pending.reverse :: pieces

/-- 文を切り分ける。`pending` は読みかけの文を逆順に持ち、燃料は文の長さで足りる。 -/
def piecesFrom : Nat → Text → Text → List Piece
  | _, pending, [] => flush pending []
  | 0, pending, text => flush (text.reverse ++ pending) []
  | fuel + 1, pending, c :: rest =>
    let backslashes := ((c :: rest).takeWhile (· == '\\')).length
    match readTag ((c :: rest).drop backslashes) with
    | some (body, after) => flush pending (.tag backslashes body :: piecesFrom fuel [] after)
    | none => piecesFrom fuel (c :: pending) rest

/-- 文を、札とそれ以外に切り分ける。 -/
def pieces (text : Text) : List Piece := piecesFrom text.length [] text

/-! ## 文字にする -/

/-- 札をそのまま書く。 -/
def tagText (body : Text) : Text := '[' :: body ++ [']']

/-- 一片を、札として読まれない形で書く。 -/
def escapePiece : Piece → Text
  | .plain text => text
  | .tag backslashes body => List.replicate (2 * backslashes + 1) '\\' ++ tagText body

/-- 札に見えるところを文字にする。末尾のただ一つの逆斜線は、後ろの札に働かないように重ねる。 -/
def escape (text : Text) : Text :=
  let written := (pieces text).flatMap escapePiece
  match written.reverse with
  | '\\' :: '\\' :: _ => written
  | '\\' :: _ => written ++ ['\\']
  | _ => written

/-! ## 札を消す -/

/-- 略した名前と、もとの名前。 -/
def shortNames : List (String × String) := [
  ("b", "bold"), ("d", "dim"), ("i", "italic"), ("u", "underline"), ("uu", "underline2"),
  ("s", "strike"), ("o", "overline"), ("r", "reverse"), ("c", "conceal")]

/-- 札の名前を揃える。 -/
def styleName (name : Text) : Text :=
  let name := Unicode.lowerText (Unicode.strip name)
  match shortNames.lookup (String.ofList name) with
  | some long => long.toList
  | none => name

/-- 開いている札のうち、最も新しいその名前のものを閉じる。 -/
def close? (name : Text) : List Text → Option (List Text)
  | [] => none
  | x :: rest => if x == name then some rest else (close? name rest).map (x :: ·)

/-- 札が働いた後に開いている札。新しい順に並ぶ。閉じるものがなければ `none`。 -/
def applyTag (opened : List Text) (body : Text) : Option (List Text) :=
  match body.takeWhile (· != '=') with
  | '/' :: name =>
    let name := Unicode.strip name
    if name.isEmpty then
      match opened with
      | [] => none
      | _ :: rest => some rest
    else close? (styleName name) opened
  | name => some (styleName name :: opened)

/-- 一片ずつ札を消す。 -/
def renderPieces : List Text → List Piece → Option Text
  | _, [] => some []
  | opened, .plain text :: rest =>
    (renderPieces opened rest).map (Text.replaceAll ['\\', '['] ['['] text ++ ·)
  | opened, .tag backslashes body :: rest =>
    let lead := List.replicate (backslashes / 2) '\\'
    if backslashes % 2 == 1 then
      (renderPieces opened rest).map (lead ++ tagText body ++ ·)
    else
      match applyTag opened body with
      | none => none
      | some opened => (renderPieces opened rest).map (lead ++ ·)

/-- 札を消した文。閉じる札に応じるものがなければ `none`。 -/
def render (text : Text) : Option Text := renderPieces [] (pieces text)

end Tategaki.Command.Styled
