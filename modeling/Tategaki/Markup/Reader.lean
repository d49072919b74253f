import Tategaki.Markup.Builder
import Tategaki.Markup.Lexer

/-!
# 印付けを木に読む

字句の出来事から木を組み立てる。要素の終わりは、開いている同じ名前の要素のうち一番内側のものまで
を閉じ、なければ無視される。書かれていない終わりを補うのは、文書の終わりだけである。

空白だけの文字列は、改行を含めば改行一つに、含まなければ空白一つになる。整形済みの文字列を入れる
要素の中では、そのまま残る。
-/

namespace Tategaki.Markup

open Unicode

namespace Reader

/-- 空白をそのまま残す要素。 -/
def preservingNames : List String := ["pre", "textarea"]

/-- 空白だけの文字列をまとめる。 -/
def collapse (s : Text) : Text :=
  if s.all isAsciiBlank then (if s.contains '\n' then ['\n'] else [' ']) else s

/-- 読み取りの途中。 -/
structure State where
  builder : Builder := {}
  /-- まだ木に加えていない地の文。 -/
  pending : Option Text := none
  /-- ひとりでに閉じた要素のうち、終わりがまだ書かれていないもの。 -/
  selfClosed : List String := []
  deriving Repr

namespace State

/-- 空白をそのまま残すところにいるか。 -/
def preserves (st : State) : Bool := preservingNames.any st.builder.isOpen

/-- 文字列の、木に加える形。 -/
def shaped (st : State) (s : Text) : Text := if st.preserves then s else collapse s

/-- 溜まった地の文を木に加える。 -/
def flush (st : State) : State :=
  match st.pending with
  | none => st
  | some s => { st with builder := st.builder.addText (st.shaped s), pending := none }

/-- 属性を加える。同じ名前の属性は後のものに替わる。 -/
def setAttribute (a : Attribute) : List Attribute → List Attribute
  | [] => [a]
  | b :: rest => if b.name == a.name then a :: rest else b :: setAttribute a rest

/-- 属性の値の、木での形。クラスの並びは空白一つで区切る。 -/
def normalize (a : Attribute) : Attribute :=
  if a.name == "class" then { a with value := Text.join [' '] (words a.value) } else a
where
  /-- 空白で区切った語。 -/
  words (s : Text) : List Text := (s.splitBy fun x y => isBlank x == isBlank y).filter
    fun part => !part.all isBlank

/-- 要素の属性。 -/
def attributesOf (found : List Attribute) : List Attribute :=
  (found.foldl (fun kept a => setAttribute a kept) []).map normalize

/-- 出来事を一つ受け取る。 -/
def step (st : State) : Event → State
  | .text s => { st with pending := some ((st.pending.getD []) ++ s) }
  | .special kind s =>
    let st := st.flush
    { st with builder := st.builder.addSpecial kind (st.shaped s) }
  | .start name found closed =>
    let st := st.flush
    let attributes := attributesOf found
    if closed then { st with builder := st.builder.addElement name attributes }
    else if isVoid name then
      { st with
        builder := st.builder.addElement name attributes
        selfClosed := name :: st.selfClosed }
    else { st with builder := st.builder.openElement name attributes }
  | .stop name =>
    if st.selfClosed.contains name then { st with selfClosed := st.selfClosed.erase name }
    else
      let st := st.flush
      { st with builder := st.builder.closeThrough name }

/-- 木を取り出す。 -/
def finish (st : State) : Fragment := st.flush.builder.finish

end State

/-- 出来事の列から木を組み立てる。 -/
def build (events : List Event) : Fragment := (events.foldl State.step {}).finish

end Reader

/-- 印付けされた文字列を木に読む。 -/
def read (s : Text) : Except ReadError Fragment :=
  (Lexer.read s).map Reader.build

end Tategaki.Markup
