import Tategaki.Rule.Group

/-!
# 備え付けの規則

規則の置き場を指定しないときに使う五つの組。優先順位の基準が小さい組から順に並ぶ。

* 強調の印と引用符（中身をもう一度走査する）
* 話数や年号など、単位の付いた数
* 単独の数
* 約物
* 単独の英字
-/

namespace Tategaki.Bundled

/-- 整数の基準を持つ組。 -/
def group (name description : String) (base : Nat) (patterns : List Definition) : RuleGroup :=
  { name, description, basePriority := Binary64.ofInt base, patterns }

/-- どこでも何度でも照合する式。 -/
def expression (source : String) (lookbehind lookahead : Option String) : MatchExpression :=
  { source := source.toList
    lookbehind := lookbehind.map (·.toList)
    lookahead := lookahead.map (·.toList) }

/-- 字幅を変える段。 -/
def widen (target : WidthTarget) (direction : WidthDirection) : Step :=
  .convertWidth (.known target) (.known direction)

/-! ## 印と引用符 -/

/-- 二重山括弧を外し、中身を組む。 -/
def emphasisMarkers : Definition where
  name := "emphasis-markers"
  description := "Drop doubled angle brackets used as emphasis and typeset the enclosed text."
  expression := expression "《《([^《》]+)》》" none none
  output := .text
  steps := [.processGroup 1]

/-- 真っ直ぐな引用符を鉤括弧に替え、中身を組む。 -/
def asciiQuotes : Definition where
  name := "ascii-quotes"
  description := "Straight double quotes become corner brackets around the typeset quotation."
  expression := expression "\"([^\"\\n]+)\"" none none
  output := .text
  steps := [.processGroup 1, .wrap ['「'] ['」']]

/-- 印と引用符の組。 -/
def structureGroup : RuleGroup :=
  group "01_structure" "Markup-like delimiters whose inner text is typeset recursively." 1
    [emphasisMarkers, asciiQuotes]

/-! ## 単位の付いた数 -/

/-- 短い話数は縦中横にする。 -/
def chapterNumber : Definition where
  name := "chapter-number"
  description := "Short chapter numbers such as 第12話 are set upright."
  expression := expression "[0-9０-９]\x7b1,2\x7d" (some "(?<=第)") (some "(?=[話章巻部節回])")
  output := .upright
  steps := [widen .numbers .halfwidth]

/-- 四桁の年号は漢数字で書く。 -/
def yearNumber : Definition where
  name := "year-number"
  description := "Four digit years are spelled in kanji digits."
  expression := expression "([0-9]\x7b4\x7d)" (some "(?<![0-9])") (some "(?=年)")
  output := .text
  steps := [.convertGroups [⟨1, .toKanji⟩]]

/-- 単位の付いた数の組。 -/
def compoundGroup : RuleGroup :=
  group "02_compound" "Numbers bound to a counter or unit, matched before plain numerals." 2
    [chapterNumber, yearNumber]

/-! ## 単独の数 -/

/-- 小数は全角の数字を中黒でつなぐ。 -/
def decimalNumber : Definition where
  name := "decimal-number"
  description := "Decimals become full-width digits joined by a middle dot."
  expression := expression "[0-9]+\\.[0-9]+" (some "(?<![0-9.])") none
  output := .text
  steps := [.splitBy [['.']], widen .numbers .fullwidth,
    .join (some "\x7b1\x7d・\x7b2\x7d".toList) []]

/-- 一桁か二桁の数は縦中横にする。 -/
def uprightDigits : Definition where
  name := "tcy-digits"
  description := "One or two digits are set upright."
  expression := expression "[0-9０-９]\x7b1,2\x7d" (some "(?<![0-9０-９])") (some "(?![0-9０-９])")
  output := .upright
  steps := [widen .numbers .halfwidth]

/-- それより長い数は一桁ずつ漢数字にする。 -/
def longNumerals : Definition where
  name := "kanji-digits"
  description := "Longer numerals are spelled digit by digit in kanji."
  expression := expression "[0-9０-９]\x7b3,\x7d" (some "(?<![0-9０-９])") none
  output := .text
  steps := [.convertEach [.known .toKanji]]

/-- 単独の数の組。 -/
def numericGroup : RuleGroup :=
  group "03_numeric" "Free-standing numerals." 3 [decimalNumber, uprightDigits, longNumerals]

/-! ## 約物 -/

/-- 二つ続く感嘆符と疑問符は縦中横にする。 -/
def exclamationPair : Definition where
  name := "exclamation-pair"
  description := "Doubled !? marks are set upright as one unit."
  expression := expression "[!?！？]\x7b2\x7d" none none
  output := .upright
  steps := [widen .symbols .halfwidth]

/-- 一つだけの半角の感嘆符と疑問符は全角にする。 -/
def exclamationSingle : Definition where
  name := "exclamation-single"
  description := "A lone ASCII ! or ? is widened."
  expression := expression "[!?]" none none
  output := .text
  steps := [widen .symbols .fullwidth]

/-- 三つの点。 -/
def threeDots : Regex.Pattern :=
  ⟨.loop true 3 (some 3) (.test (.one false 0x2E .exact)), 0⟩

/-- 三つの点は、置き換えの段に書かれた式そのものである。 -/
example : (Regex.compile "\\.\x7b3\x7d".toList {}).toOption = some threeDots := by
  decide +kernel

/-- 三つ続く点は三点リーダーにする。 -/
def ellipsis : Definition where
  name := "ellipsis"
  description := "Runs of three ASCII dots become ellipsis characters."
  expression := expression "(?:\\.\x7b3\x7d)+" none none
  output := .text
  steps := [.replace "\\.\x7b3\x7d".toList threeDots ['…']]

/-- 約物の組。 -/
def symbolGroup : RuleGroup :=
  group "04_symbols" "Punctuation adjusted for vertical setting." 4
    [exclamationPair, exclamationSingle, ellipsis]

/-! ## 英字 -/

/-- 単独の英字は全角にして立てる。 -/
def singleLetter : Definition where
  name := "single-letter"
  description := "An isolated Latin letter is widened so it stands upright."
  expression := expression "[A-Za-z]" (some "(?<![A-Za-z])") (some "(?![A-Za-z])")
  output := .text
  steps := [widen .alphabet .fullwidth]

/-- 英字の組。 -/
def letterGroup : RuleGroup :=
  group "05_english" "Latin letters inside Japanese text." 5 [singleLetter]

/-- 備え付けの規則の組。 -/
def groups : List RuleGroup :=
  [structureGroup, compoundGroup, numericGroup, symbolGroup, letterGroup]

end Tategaki.Bundled
