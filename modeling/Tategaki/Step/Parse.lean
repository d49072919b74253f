import Tategaki.Regex.Reader
import Tategaki.Step.Basic

/-!
# 段の設定の読み取り

`action` の名前で段の種類が決まり、残りの項目を種類ごとに読む。知らない項目は無視する。
誤りのほかに、設定の値として扱えないもの（並びや対象が動作の名前になっているもの）と、
大きすぎる繰り返し回数は、誤りとして集められない中断になる。
-/

namespace Tategaki

/-- 段の設定の誤り。 -/
inductive StepError where
  | notObject
  | notString (key : String)
  | notGroup
  | rulesNotArray
  | unknownRule (shown : String)
  | groupRulesMissing
  | groupRuleNotObject
  | unknownTarget (shown : String)
  | unknownDirection (shown : String)
  | sourceMissing
  | invalidExpression (source : Text) (fault : Regex.Fault)
  | unreadableExpression (fault : Regex.Fault)
  | separatorKind
  | emptySeparator
  | unknownAction (shown : String)
  deriving DecidableEq, Repr

/-- 誤りの文面。 -/
def StepError.message : StepError → String
  | notObject => "transform step must be an object"
  | notString key => s!"'{key}' must be a string"
  | notGroup => "'group' must be a positive capture group number"
  | rulesNotArray => "'rules' must be an array"
  | unknownRule shown => s!"Unknown conversion rule: {shown}"
  | groupRulesMissing => "'rules' must be a non-empty array of \x7bgroup, type\x7d"
  | groupRuleNotObject => "each group rule must be an object"
  | unknownTarget shown => s!"Unknown width target: {shown}"
  | unknownDirection shown => s!"Unknown width direction: {shown}"
  | sourceMissing => "'from' is required for replace"
  | invalidExpression source fault =>
    let shown := String.ofList (Text.quoted source)
    let reason := fault.message source
    s!"Invalid replace expression {shown}: {reason}"
  | unreadableExpression fault => fault.message []
  | separatorKind => "'separator' must be a string or an array of strings"
  | emptySeparator => "separators must not be empty"
  | unknownAction shown => s!"Unknown transform action: {shown}"

/-- 段を読めなかった理由。 -/
inductive StepFailure where
  | invalid (error : StepError)
  /-- 動作の名前が並びか対象である。 -/
  | unusableAction
  /-- 繰り返し回数が大きすぎる。 -/
  | hugeRepeat
  deriving DecidableEq, Repr

namespace Step

open Json

/-- 項目の並び。 -/
abbrev Fields := List (String × Json)

/-- 失敗する。 -/
def invalid {α : Type} (e : StepError) : Except StepFailure α := .error (.invalid e)

/-- 文字列の項目。なければ `fallback`、`null` なら `none`。 -/
def stringField (fields : Fields) (key : String) (fallback : Option String) :
    Except StepFailure (Option String) :=
  match find fields key with
  | none => .ok fallback
  | some .null => .ok none
  | some (.str s) => .ok (some s)
  | some _ => invalid (.notString key)

/-- 文字列の項目。なければ空とする。 -/
def textField (fields : Fields) (key : String) : Except StepFailure Text := do
  return ((← stringField fields key none).getD "").toList

/-- 組の番号の項目。 -/
def groupField (fields : Fields) : Except StepFailure Nat :=
  match get fields "group" with
  | .int n => if 1 ≤ n then .ok n.toNat else invalid .notGroup
  | _ => invalid .notGroup

/-- 項目の値を名前として示す。 -/
def shownName : Option String → String
  | some s => s
  | none => "None"

/-- 規則の並びの一つ。 -/
def readRule (item : Json) : Except StepFailure (Named ConversionRule) :=
  let rule := match item with
    | .obj fields => get fields "type"
    | value => value
  match rule with
  | .str "toKanji" => .ok (.known .toKanji)
  | value => invalid (.unknownRule value.plainText)

/-- 規則の並び。書かれていなければ漢数字にする。 -/
def readRules (fields : Fields) : Except StepFailure (List (Named ConversionRule)) :=
  match get fields "rules" with
  | .null => .ok [.known .toKanji]
  | .arr items => items.mapM readRule
  | _ => invalid .rulesNotArray

/-- 組ごとの規則の一つ。 -/
def readGroupRule : Json → Except StepFailure GroupRule
  | .obj fields => do
    let rule ← match get fields "type" with
      | .str s =>
        match ConversionRule.ofName s with
        | .known rule => pure rule
        | .unknown name => invalid (.unknownRule name)
      | value => invalid (.unknownRule value.plainText)
    return ⟨← groupField fields, rule⟩
  | _ => invalid .groupRuleNotObject

/-- 組ごとの規則の並び。 -/
def readGroupRules (fields : Fields) : Except StepFailure (List GroupRule) :=
  match get fields "rules" with
  | .arr (item :: items) => (item :: items).mapM readGroupRule
  | _ => invalid .groupRulesMissing

/-- 字幅の変換。 -/
def readWidth (fields : Fields) : Except StepFailure Step := do
  let target := shownName (← stringField fields "target" (some "numbers"))
  let direction := shownName (← stringField fields "direction" (some "fullwidth"))
  match WidthTarget.ofName target, WidthDirection.ofName direction with
  | .known t, .known d => return convertWidth (.known t) (.known d)
  | .unknown name, _ => invalid (.unknownTarget name)
  | .known _, .unknown name => invalid (.unknownDirection name)

/-- 置き換え。 -/
def readReplace (fields : Fields) : Except StepFailure Step := do
  let source := ((← stringField fields "from" none).getD "").toList
  if source.isEmpty then invalid .sourceMissing
  else
    let pattern ← match Regex.compile source {} with
      | .ok pattern => pure pattern
      | .error .hugeRepeat => .error .hugeRepeat
      | .error (.rejected kind place) =>
        invalid (.invalidExpression source (.rejected kind place))
      | .error fault => invalid (.unreadableExpression fault)
    return replace source pattern (← textField fields "to")

/-- 区切りの並び。 -/
def readSeparators (fields : Fields) : Except StepFailure (List Text) :=
  let asText : Json → Option Text
    | .str s => some s.toList
    | _ => none
  match get fields "separator" with
  | .str s => .ok [s.toList]
  | .arr (item :: items) =>
    match (item :: items).mapM asText with
    | some separators => .ok separators
    | none => invalid .separatorKind
  | _ => invalid .separatorKind

/-- 区切りで分ける段。 -/
def readSplit (fields : Fields) : Except StepFailure Step := do
  let separators ← readSeparators fields
  if separators.any List.isEmpty then invalid .emptySeparator else return splitBy separators

/-- つなぐ段。空の雛形は、ないものとする。 -/
def readJoin (fields : Fields) : Except StepFailure Step := do
  let template ← textField fields "template"
  let separator ← textField fields "with"
  return join (if template.isEmpty then none else some template) separator

/-- 動作の名前に応じて読む。 -/
def readAction (fields : Fields) (action : String) : Except StepFailure Step :=
  match action with
  | "convertWidth" => readWidth fields
  | "convertEach" => do return convertEach (← readRules fields)
  | "numeralToKanji" => .ok (convertEach [.known .toKanji])
  | "convertGroups" => do return convertGroups (← readGroupRules fields)
  | "join" => readJoin fields
  | "wrap" => do
    let opening ← textField fields "prefix"
    let closing ← textField fields "suffix"
    return wrap opening closing
  | "replace" => readReplace fields
  | "splitBy" => readSplit fields
  | "splitBySeparator" => readSplit fields
  | "processGroup" => do return processGroup (← groupField fields)
  | "reprocessGroup" => do return processGroup (← groupField fields)
  | other => invalid (.unknownAction other)

/-- 設定の値から段を読む。 -/
def parse : Json → Except StepFailure Step
  | .obj fields =>
    match get fields "action" with
    | .str action => readAction fields action
    | .arr _ => .error .unusableAction
    | .obj _ => .error .unusableAction
    | value => invalid (.unknownAction value.plainText)
  | _ => invalid .notObject

end Step

end Tategaki
