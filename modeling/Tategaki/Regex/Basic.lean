import Tategaki.Regex.CharTest

/-!
# 正規表現の構文木

読み取りの結果。組の番号と照合の指定は解決済みで、照合器（`Tategaki.Regex.Matcher`）は木だけを
見る。後ろを見る条件は読む文字数が一定でなければならないので、その幅の下限と上限を木に記す。
-/

namespace Tategaki.Regex

/-- 位置の条件。文字を読まない。 -/
inductive Anchor where
  /-- 文字列の先頭。 -/
  | textStart
  /-- 文字列の先頭か、改行の直後。 -/
  | lineStart
  /-- 文字列の末尾か、末尾の改行の直前。 -/
  | textEnd
  /-- 文字列の末尾か、改行の直前。 -/
  | lineEnd
  /-- 文字列の末尾。 -/
  | veryEnd
  /-- 語の境界。`negated` なら境界でないところ。 -/
  | boundary (negated : Bool) (ascii : Bool)
  deriving DecidableEq, Repr

/-- 正規表現の木。 -/
inductive Expr where
  | empty
  | test (t : CharTest)
  | anchor (a : Anchor)
  | seq (first second : Expr)
  /-- 左を優先する選択。 -/
  | alt (left right : Expr)
  /-- 番号の付いた組。 -/
  | group (number : Nat) (body : Expr)
  /-- 繰り返し。`greedy` なら多い方を、そうでなければ少ない方を優先する。 -/
  | loop (greedy : Bool) (least : Nat) (most : Option Nat) (body : Expr)
  /-- 最初に見つけた合い方だけを使う。 -/
  | atomic (body : Expr)
  /-- 前方を見る条件。 -/
  | lookAhead (negated : Bool) (body : Expr)
  /-- 後方を見る条件。本体の幅の下限と上限を持つ。 -/
  | lookBehind (negated : Bool) (low high : Nat) (body : Expr)
  /-- 組が読んだのと同じ文字列。 -/
  | backref (number : Nat) (folding : Folding)
  /-- 組が合っていれば前者、そうでなければ後者。 -/
  | ifGroup (number : Nat) (present absent : Expr)
  deriving DecidableEq, Repr

/-- 読み取った正規表現。 -/
structure Pattern where
  expr : Expr
  /-- 組の個数。 -/
  groupCount : Nat
  deriving DecidableEq, Repr

/-- 照合の指定。 -/
structure Flags where
  ignoreCase : Bool := false
  multiline : Bool := false
  dotAll : Bool := false
  verbose : Bool := false
  ascii : Bool := false
  unicode : Bool := false
  template : Bool := false
  deriving DecidableEq, Repr

namespace Flags

/-- 指定を加える。文字の分類の指定は、加える側にあればそちらで置き換える。 -/
def adding (f more : Flags) : Flags :=
  let typed := more.ascii || more.unicode
  { ignoreCase := f.ignoreCase || more.ignoreCase
    multiline := f.multiline || more.multiline
    dotAll := f.dotAll || more.dotAll
    verbose := f.verbose || more.verbose
    ascii := if typed then more.ascii else f.ascii
    unicode := if typed then more.unicode else f.unicode
    template := f.template || more.template }

/-- 指定を両方とも持つ。 -/
def union (f more : Flags) : Flags :=
  { ignoreCase := f.ignoreCase || more.ignoreCase
    multiline := f.multiline || more.multiline
    dotAll := f.dotAll || more.dotAll
    verbose := f.verbose || more.verbose
    ascii := f.ascii || more.ascii
    unicode := f.unicode || more.unicode
    template := f.template || more.template }

/-- 指定を外す。 -/
def removing (f less : Flags) : Flags :=
  { ignoreCase := f.ignoreCase && !less.ignoreCase
    multiline := f.multiline && !less.multiline
    dotAll := f.dotAll && !less.dotAll
    verbose := f.verbose && !less.verbose
    ascii := f.ascii && !less.ascii
    unicode := f.unicode && !less.unicode
    template := f.template && !less.template }

/-- 共通の指定があるか。 -/
def meets (f g : Flags) : Bool :=
  (f.ignoreCase && g.ignoreCase) || (f.multiline && g.multiline) || (f.dotAll && g.dotAll)
    || (f.verbose && g.verbose) || (f.ascii && g.ascii) || (f.unicode && g.unicode)
    || (f.template && g.template)

/-- 大文字小文字の扱い。 -/
def folding (f : Flags) : Folding :=
  if !f.ignoreCase then .exact else if f.ascii then .ascii else .unicode

end Flags

end Tategaki.Regex
