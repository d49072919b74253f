import Tategaki.Node

/-!
# 縦組みの様式

各章が参照する様式を、選択子と宣言の列として組み立てて書き出す。
-/

namespace Tategaki

/-- 様式の設定。値は書かれる綴りのまま持つ。 -/
structure StyleOptions where
  writingMode : String := "vertical-rl"
  lineHeight : String := "1.8"
  fontSize : String := "1em"
  padding : String := "2em 2.5em"
  fontFamilies : List String := [
    "Noto Serif CJK JP", "Noto Serif JP", "Hiragino Mincho ProN", "Yu Mincho", "YuMincho",
    "MS Mincho", "serif"]
  uprightClass : String := Tategaki.uprightClass

/-- 一つの宣言。 -/
structure Declaration where
  property : String
  value : String

/-- 選択子と、その宣言。 -/
structure StyleRule where
  selector : String
  declarations : List Declaration

namespace StyleRule

/-- 宣言の一行。 -/
def line (d : Declaration) : String := "  " ++ d.property ++ ": " ++ d.value ++ ";\n"

/-- 規則を書き出す。 -/
def render (r : StyleRule) : String :=
  "\n" ++ r.selector ++ " \x7b\n" ++ String.join (r.declarations.map line) ++ "\x7d\n"

end StyleRule

namespace StyleOptions

/-- 空白を含む書体の名前は引用符で囲む。 -/
def quotedFamily (name : String) : String :=
  if name.toList.contains ' ' then "\"" ++ name ++ "\"" else name

/-- 書体の並び。 -/
def fontStack (o : StyleOptions) : String :=
  String.intercalate ", " (o.fontFamilies.map quotedFamily)

/-- 実装ごとの接頭辞も付けて、同じ値を宣言する。 -/
def prefixed (property value : String) : List Declaration :=
  [⟨property, value⟩, ⟨"-webkit-" ++ property, value⟩, ⟨"-epub-" ++ property, value⟩]

/-- 様式の規則。 -/
def rules (o : StyleOptions) : List StyleRule := [
  ⟨"html", prefixed "writing-mode" o.writingMode ++ [
    ⟨"text-size-adjust", "100%"⟩,
    ⟨"-webkit-text-size-adjust", "100%"⟩,
    ⟨"margin", "0"⟩,
    ⟨"padding", o.padding⟩,
    ⟨"font-size", o.fontSize⟩]⟩,
  ⟨"body", prefixed "writing-mode" o.writingMode ++ prefixed "text-orientation" "mixed" ++ [
    ⟨"line-height", o.lineHeight⟩,
    ⟨"font-family", o.fontStack⟩,
    ⟨"margin", "0"⟩,
    ⟨"padding", o.padding⟩] ++ prefixed "line-break" "strict" ++ [
    ⟨"overflow-wrap", "break-word"⟩,
    ⟨"text-align", "justify"⟩,
    ⟨"text-justify", "inter-ideograph"⟩]⟩,
  ⟨"h1", [
    ⟨"font-size", "1.5em"⟩,
    ⟨"font-weight", "normal"⟩,
    ⟨"margin", "0 0 2em 0"⟩,
    ⟨"break-before", "page"⟩,
    ⟨"break-after", "avoid"⟩]⟩,
  ⟨"p", [
    ⟨"margin", "0"⟩,
    ⟨"padding", "0"⟩,
    ⟨"orphans", "2"⟩,
    ⟨"widows", "2"⟩,
    ⟨"hanging-punctuation", "force-end"⟩]⟩,
  ⟨"ruby", prefixed "ruby-position" "over"⟩,
  ⟨"rt", [⟨"font-size", "0.5em"⟩, ⟨"line-height", "1"⟩]⟩,
  ⟨"." ++ o.uprightClass, [
    ⟨"text-combine-upright", "all"⟩,
    ⟨"-webkit-text-combine", "horizontal"⟩,
    ⟨"-epub-text-combine", "horizontal"⟩,
    ⟨"-ms-text-combine-horizontal", "all"⟩,
    ⟨"font-variant-numeric", "tabular-nums"⟩,
    ⟨"letter-spacing", "0"⟩]⟩]

/-- 様式を書き出す。 -/
def render (o : StyleOptions) : String :=
  "@charset \"UTF-8\";\n" ++ String.join (o.rules.map StyleRule.render)

end StyleOptions

end Tategaki
