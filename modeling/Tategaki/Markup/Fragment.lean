import Tategaki.Text.Basic

/-!
# 文書の断片

印付けされた文書は、文字列、要素、注釈などが並んだものである。並びは `Fragment` で表す。要素は
中身と、後に続く並びの両方を持つので、木についての帰納法は一つの型の帰納法で済む。
-/

namespace Tategaki.Markup

/-- 文字列でも要素でもないものの種類。 -/
inductive Special where
  | comment
  | cdata
  | instruction
  | declaration
  | doctype
  deriving DecidableEq, Repr

/-- 属性。 -/
structure Attribute where
  name : String
  value : Text
  deriving DecidableEq, Repr

/-- 兄弟の並び。 -/
inductive Fragment where
  | nil
  | text (s : Text) (rest : Fragment)
  | special (kind : Special) (s : Text) (rest : Fragment)
  | element (name : String) (attributes : List Attribute) (content rest : Fragment)
  deriving DecidableEq, Repr

/-- 中身を持たず、閉じる印もない要素の名前。 -/
def voidNames : List String := [
  "area", "base", "br", "col", "embed", "hr", "img", "input", "keygen", "link", "menuitem",
  "meta", "param", "source", "track", "wbr", "basefont", "bgsound", "command", "frame", "image",
  "isindex", "nextid", "spacer"]

/-- 中身を持たない要素か。 -/
def isVoid (name : String) : Bool := voidNames.contains name

namespace Fragment

/-- 並びをつなぐ。 -/
def append : Fragment → Fragment → Fragment
  | nil, f => f
  | text s rest, f => text s (rest.append f)
  | special kind s rest, f => special kind s (rest.append f)
  | element name attributes content rest, f => element name attributes content (rest.append f)

instance : Append Fragment := ⟨append⟩

@[simp] theorem nil_append (f : Fragment) : nil ++ f = f := rfl

@[simp] theorem text_append (s : Text) (rest f : Fragment) :
    text s rest ++ f = text s (rest ++ f) := rfl

@[simp] theorem special_append (kind : Special) (s : Text) (rest f : Fragment) :
    special kind s rest ++ f = special kind s (rest ++ f) := rfl

@[simp] theorem element_append (name : String) (attributes : List Attribute)
    (content rest f : Fragment) :
    element name attributes content rest ++ f = element name attributes content (rest ++ f) := rfl

@[simp] theorem append_nil (f : Fragment) : f ++ nil = f := by
  induction f with
  | nil => rfl
  | text s rest ih => simp [ih]
  | special kind s rest ih => simp [ih]
  | element name attributes content rest _ ih => simp [ih]

/-- 兄弟の順を逆にして `f` の前に置く。中身の順は変えない。 -/
def reverseOnto : Fragment → Fragment → Fragment
  | nil, f => f
  | text s rest, f => rest.reverseOnto (text s f)
  | special kind s rest, f => rest.reverseOnto (special kind s f)
  | element name attributes content rest, f =>
    rest.reverseOnto (element name attributes content f)

/-- 兄弟の順を逆にする。 -/
def reverse (f : Fragment) : Fragment := f.reverseOnto nil

/-- 名前の挙がった要素を、中身ごと除く。 -/
def without (names : List String) : Fragment → Fragment
  | nil => nil
  | text s rest => text s (rest.without names)
  | special kind s rest => special kind s (rest.without names)
  | element name attributes content rest =>
    if names.contains name then rest.without names
    else element name attributes (content.without names) (rest.without names)

end Fragment

end Tategaki.Markup
