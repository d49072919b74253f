import Tategaki.Markup.Fragment

/-!
# 木を書き出す

文字列と属性の値では、印付けに使う三文字だけを参照にして書く。中身を持たない要素は `<br/>` の形で
書く。
-/

namespace Tategaki.Markup

namespace Writer

/-- 一文字を、印付けの中での書き方にする。 -/
def escapeChar : Char → Text
  | '&' => ['&', 'a', 'm', 'p', ';']
  | '<' => ['&', 'l', 't', ';']
  | '>' => ['&', 'g', 't', ';']
  | c => [c]

/-- 文字列を、印付けの中での書き方にする。 -/
def escape (s : Text) : Text := s.flatMap escapeChar

@[simp] theorem escape_nil : escape [] = [] := rfl

@[simp] theorem escape_append (s t : Text) : escape (s ++ t) = escape s ++ escape t := by
  simp [escape]

/-- 書き出した文字列に、印の始まりや終わりは現れない。 -/
theorem escape_no_mark (s : Text) : ∀ c ∈ escape s, c ≠ '<' ∧ c ≠ '>' := by
  intro c hc
  simp only [escape, List.mem_flatMap] at hc
  obtain ⟨d, _, hd⟩ := hc
  unfold escapeChar at hd
  split at hd <;> simp_all
  all_goals rcases hd with rfl | rfl | rfl | rfl | rfl <;> decide

/-- 属性の値を引用符で囲む。二重の引用符だけを含む値は、一重の引用符で囲む。 -/
def quote (s : Text) : Text :=
  if !s.contains '"' then '"' :: s ++ ['"']
  else if !s.contains '\'' then '\'' :: s ++ ['\'']
  else '"' :: Text.replaceAll ['"'] ['&', 'q', 'u', 'o', 't', ';'] s ++ ['"']

/-- 属性を書き出す。 -/
def writeAttribute (a : Attribute) : Text :=
  ' ' :: a.name.toList ++ '=' :: quote (escape a.value)

/-- 注釈などを書き出す。 -/
def special (kind : Special) (s : Text) : Text :=
  match kind with
  | .comment => "<!--".toList ++ s ++ "-->".toList
  | .cdata => "<![CDATA[".toList ++ s ++ "]]>".toList
  | .instruction => "<?".toList ++ s ++ ">".toList
  | .declaration => "<?".toList ++ s ++ "?>".toList
  | .doctype => "<!DOCTYPE ".toList ++ s ++ ">\n".toList

/-- 要素の始まり。 -/
def opening (name : String) (attributes : List Attribute) (close : Text) : Text :=
  '<' :: name.toList ++ attributes.flatMap writeAttribute ++ close

/-- 要素の終わり。 -/
def closing (name : String) : Text := '<' :: '/' :: name.toList ++ ['>']

end Writer

open Writer in
/-- 木を書き出す。 -/
def write : Fragment → Text
  | .nil => []
  | .text s rest => escape s ++ write rest
  | .special kind s rest => special kind s ++ write rest
  | .element name attributes content rest =>
    if isVoid name && content == .nil then opening name attributes ['/', '>'] ++ write rest
    else opening name attributes ['>'] ++ write content ++ closing name ++ write rest

end Tategaki.Markup
