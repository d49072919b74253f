import Tategaki.Markup.Fragment

/-!
# 木の組み立て

要素の始まりと終わりを順に受け取って木を組み立てる。組み立ての途中では、開いている要素ごとに、
その前までの兄弟を逆順に持つ。
-/

namespace Tategaki.Markup

/-- 開いている要素。 -/
structure OpenElement where
  name : String
  attributes : List Attribute
  /-- 要素の前までの兄弟。逆順に並ぶ。 -/
  earlier : Fragment
  deriving DecidableEq, Repr

/-- 組み立ての途中。 -/
structure Builder where
  /-- 開いている要素。内側から並ぶ。 -/
  frames : List OpenElement := []
  /-- 一番内側の要素の、これまでの中身。逆順に並ぶ。 -/
  content : Fragment := .nil
  deriving DecidableEq, Repr

namespace Builder

/-- 名前の要素が開いているか。 -/
def isOpen (b : Builder) (name : String) : Bool := b.frames.any (·.name == name)

/-- 一番内側の要素の名前。 -/
def innermost? (b : Builder) : Option String := b.frames.head?.map (·.name)

/-- 文字列を加える。 -/
def addText (b : Builder) (s : Text) : Builder := { b with content := .text s b.content }

/-- 文字列を、直前の文字列とつないで加える。 -/
def joinText (b : Builder) (s : Text) : Builder :=
  match b.content with
  | .text t rest => { b with content := .text (t ++ s) rest }
  | _ => b.addText s

/-- 注釈などを加える。 -/
def addSpecial (b : Builder) (kind : Special) (s : Text) : Builder :=
  { b with content := .special kind s b.content }

/-- 要素を開く。 -/
def openElement (b : Builder) (name : String) (attributes : List Attribute) : Builder :=
  ⟨⟨name, attributes, b.content⟩ :: b.frames, .nil⟩

/-- 一番内側の要素を閉じる。 -/
def close (b : Builder) : Builder :=
  match b.frames with
  | [] => b
  | frame :: frames =>
    ⟨frames, .element frame.name frame.attributes b.content.reverse frame.earlier⟩

/-- 要素を加える。中身はない。 -/
def addElement (b : Builder) (name : String) (attributes : List Attribute) : Builder :=
  (b.openElement name attributes).close

/-- 要素を `count` 個閉じる。 -/
def closeMany : Nat → Builder → Builder
  | 0, b => b
  | count + 1, b => closeMany count b.close

/-- 名前の要素のうち一番内側のものまで閉じる。開いていなければ何もしない。 -/
def closeThrough (b : Builder) (name : String) : Builder :=
  match b.frames.findIdx? (·.name == name) with
  | some i => closeMany (i + 1) b
  | none => b

/-- 開いている要素をすべて閉じて、木を取り出す。 -/
def finish (b : Builder) : Fragment := (closeMany b.frames.length b).content.reverse

end Builder

end Tategaki.Markup
