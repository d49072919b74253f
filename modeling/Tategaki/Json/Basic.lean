import Tategaki.Number.Basic
import Tategaki.Text.Quoted

/-!
# データの値

規則の定義ファイルや設定が書かれる値。数は整数と小数を区別し、対象の項目は書かれた順に並ぶ。
同じ名前の項目は一つだけで、それは読み取りのときに保たれる（`Tategaki.Json.Reader`）。
-/

namespace Tategaki

/-- データの値。 -/
inductive Json where
  | null
  | bool (b : Bool)
  | int (n : Int)
  | float (x : Binary64)
  | str (s : String)
  | arr (items : List Json)
  | obj (fields : List (String × Json))
  deriving Repr, Inhabited

namespace Json

/-- 項目の列から名前で値を引く。 -/
def find (fields : List (String × Json)) (key : String) : Option Json :=
  (fields.find? (·.1 == key)).map (·.2)

/-- 名前で値を引く。項目がなければ `null` と同じに扱う。 -/
def get (fields : List (String × Json)) (key : String) : Json :=
  (find fields key).getD null

/-- 項目を加える。同じ名前があれば、その場所で値だけを置き換える。 -/
def put (fields : List (String × Json)) (key : String) (value : Json) : List (String × Json) :=
  if fields.any (·.1 == key) then
    fields.map fun field => if field.1 == key then (key, value) else field
  else fields ++ [(key, value)]

/-- 値を条件として見たときの真偽。零と空は偽である。 -/
def isTruthy : Json → Bool
  | null => false
  | bool b => b
  | int n => n != 0
  | float x => !(x.eq .zero)
  | str s => !s.isEmpty
  | arr items => !items.isEmpty
  | obj fields => !fields.isEmpty

/-- 値の種類の名前。 -/
def kindName : Json → String
  | null => "NoneType"
  | bool _ => "bool"
  | int _ => "int"
  | float _ => "float"
  | str _ => "str"
  | arr _ => "list"
  | obj _ => "dict"

/-- 数としての値。真偽値は数と見なさない。 -/
def number? : Json → Option Number
  | int n => some (.int n)
  | float x => some (.float x)
  | _ => none

mutual

/-- 値を、文字列なら引用符で囲んで書き表す。 -/
def quotedText : Json → List Char
  | null => "None".toList
  | bool b => (if b then "True" else "False").toList
  | int n => (toString n).toList
  | float x => x.shortest.toList
  | str s => Text.quoted s.toList
  | arr items => '[' :: quotedItems items ++ [']']
  | obj fields => '{' :: quotedFields fields ++ ['}']

/-- 並びの中身。 -/
def quotedItems : List Json → List Char
  | [] => []
  | [item] => quotedText item
  | item :: rest => quotedText item ++ ',' :: ' ' :: quotedItems rest

/-- 対象の中身。 -/
def quotedFields : List (String × Json) → List Char
  | [] => []
  | [(key, value)] => Text.quoted key.toList ++ ':' :: ' ' :: quotedText value
  | (key, value) :: rest =>
    Text.quoted key.toList ++ ':' :: ' ' :: quotedText value ++ ',' :: ' ' :: quotedFields rest

end

/-- 値を文面に埋め込むときの書き方。文字列はそのまま書く。 -/
def plainText : Json → String
  | str s => s
  | value => String.ofList value.quotedText

end Json

end Tategaki
