import Tategaki.Node
import Tategaki.Regex.Basic
import Tategaki.Width

/-!
# 書き換えの段

規則が合った文字列は、段を順に通って節の並びになる。段の間を流れる値は、一つの文字列、文字列の
並び、節の並びのどれかで、段ごとに受け取れる種類（`Step.accepts`）と渡す種類
（`Step.outputKind`）が決まっている。
-/

namespace Tategaki

/-- 文字列を書き換える規則。 -/
inductive ConversionRule where
  | toKanji
  | toFullwidth
  deriving DecidableEq, Repr

namespace ConversionRule

/-- 設定での名前。 -/
def name : ConversionRule → String
  | toKanji => "toKanji"
  | toFullwidth => "toFullwidth"

/-- 名前から規則を引く。 -/
def ofName (s : String) : Named ConversionRule :=
  if s == "toKanji" then .known toKanji
  else if s == "toFullwidth" then .known toFullwidth
  else .unknown s

theorem ofName_name (r : ConversionRule) : ofName r.name = .known r := by cases r <;> rfl

end ConversionRule

/-- 名前の付いたものの名前。 -/
def Named.shown {α : Type} (nameOf : α → String) : Named α → String
  | known a => nameOf a
  | unknown s => s

/-- 組と、その組に使う規則。 -/
structure GroupRule where
  group : Nat
  rule : ConversionRule
  deriving DecidableEq, Repr

/-- 書き換えの段。 -/
inductive Step where
  /-- 字幅を変える。 -/
  | convertWidth (target : Named WidthTarget) (direction : Named WidthDirection)
  /-- 規則を順に使う。 -/
  | convertEach (rules : List (Named ConversionRule))
  /-- 組ごとに規則を使い、つなぐ。 -/
  | convertGroups (rules : List GroupRule)
  /-- 雛形があれば差し込み、なければ間に挟んでつなぐ。 -/
  | join (template : Option Text) (separator : Text)
  /-- 前後に付け加える。 -/
  | wrap (opening closing : Text)
  /-- 合うところを置き換える。 -/
  | replace (source : Text) (pattern : Regex.Pattern) (replacement : Text)
  /-- 区切りで分ける。 -/
  | splitBy (separators : List Text)
  /-- 組の文字列をもう一度走査する。 -/
  | processGroup (group : Nat)
  deriving DecidableEq, Repr

/-- 段の間を流れる値の種類。 -/
inductive ValueKind where
  | string
  | strings
  | nodes
  deriving DecidableEq, Repr

/-- 種類の名前。 -/
def ValueKind.name : ValueKind → String
  | string => "string"
  | strings => "strings"
  | nodes => "nodes"

namespace Step

/-- 設定での動作の名前。 -/
def action : Step → String
  | convertWidth .. => "convertWidth"
  | convertEach .. => "convertEach"
  | convertGroups .. => "convertGroups"
  | join .. => "join"
  | wrap .. => "wrap"
  | replace .. => "replace"
  | splitBy .. => "splitBy"
  | processGroup .. => "processGroup"

/-- その種類の値を受け取れるか。 -/
def accepts : Step → ValueKind → Bool
  | convertWidth .., .nodes => false
  | convertWidth .., _ => true
  | convertEach .., .nodes => false
  | convertEach .., _ => true
  | convertGroups .., kind => kind == .string
  | join .., .nodes => false
  | join .., _ => true
  | wrap .., .strings => false
  | wrap .., _ => true
  | replace .., kind => kind == .string
  | splitBy .., kind => kind == .string
  | processGroup .., _ => true

/-- 受け取った種類に対して、渡す値の種類。 -/
def outputKind : Step → ValueKind → ValueKind
  | convertWidth .., kind => kind
  | convertEach .., kind => kind
  | wrap .., kind => kind
  | convertGroups .., _ => .string
  | join .., _ => .string
  | replace .., _ => .string
  | splitBy .., _ => .strings
  | processGroup .., _ => .nodes

/-- 段が指す組。 -/
def groupsUsed : Step → List Nat
  | processGroup group => [group]
  | convertGroups rules => rules.map GroupRule.group
  | _ => []

end Step

/-- 規則の出力の種類。文字列か、縦中横の一組か。 -/
inductive OutputKind where
  | text
  | upright
  deriving DecidableEq, Repr

namespace OutputKind

/-- 設定での名前。 -/
def name : OutputKind → String
  | text => "text"
  | upright => "tcy"

/-- 名前から種類を引く。 -/
def ofName? (s : String) : Option OutputKind :=
  if s == "text" then some text else if s == "tcy" then some upright else none

theorem ofName?_name (k : OutputKind) : ofName? k.name = some k := by cases k <;> rfl

end OutputKind

end Tategaki
