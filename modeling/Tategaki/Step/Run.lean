import Tategaki.Regex.Replace
import Tategaki.Step.Basic

/-!
# 段の実行

一段の働き（`Step.eval`）は純粋で、新しい値を返すか、失敗するか、組の文字列をもう一度走査する
よう求める。走査は状態を変えうるので、求めに応じるのは並びの実行（`runSteps`）である。走査の
失敗はそのまま外へ伝わり、段そのものの失敗は、どの規則の何番目の段かを添えて報告される。
-/

namespace Tategaki

/-- 規則が合ったところ。 -/
structure Matched where
  /-- 照合した文字列。 -/
  input : Text
  found : Regex.Match
  /-- 式にある組の個数。 -/
  groupCount : Nat

namespace Matched

/-- 合った文字列。 -/
def whole (m : Matched) : Text := Text.slice m.input m.found.start m.found.stop

/-- 組が読んだ文字列。合わなかった組は `none`。 -/
def group? (m : Matched) (number : Nat) : Option Text :=
  (m.found.span? number).map fun span => Text.slice m.input span.1 span.2

end Matched

/-- 段の間を流れる値。 -/
inductive Value where
  | string (s : Text)
  | strings (parts : List Text)
  | nodes (ns : List Node)
  deriving DecidableEq, Repr

/-- 値の種類。 -/
def Value.kind : Value → ValueKind
  | string _ => .string
  | strings _ => .strings
  | nodes _ => .nodes

/-- 段の失敗の理由。 -/
inductive RunError where
  | cannotApply (action : String) (kind : ValueKind)
  | width (e : WidthError)
  | unknownRule (name : String)
  | noRescan
  | absentGroup (group : Nat)
  | missingGroup
  | tooManyDigits (count : Nat)
  | emptyGrouped
  deriving DecidableEq, Repr

/-- 理由の文面。 -/
def RunError.message : RunError → String
  | cannotApply action kind =>
    let name := kind.name
    s!"Cannot apply {action} to a {name} value"
  | width e => e.message
  | unknownRule name => s!"Unknown conversion rule: {name}"
  | noRescan => "processGroup needs a reprocess callback from the scanner"
  | absentGroup group => s!"Group {group} did not participate in the match"
  | missingGroup => "no such group"
  | tooManyDigits count => Json.tooManyDigitsText count
  | emptyGrouped => "Grouped output needs text content"

/-- 段の失敗。どの規則の何番目のどの段かを添える。 -/
structure TransformError where
  reason : RunError
  patternName : Option String
  step : Option (Nat × String)
  deriving DecidableEq, Repr

/-- 失敗の文面。分かっている場所だけを括弧で添える。 -/
def TransformError.message (e : TransformError) : String :=
  let pattern := match e.patternName with
    | some name => if name.isEmpty then [] else ["pattern " ++ name]
    | none => []
  let step := match e.step with
    | some (index, action) => [s!"step {index} ({action})"]
    | none => []
  match pattern ++ step with
  | [] => e.reason.message
  | places => e.reason.message ++ " [" ++ String.intercalate ", " places ++ "]"

/-! ## 一段の働き -/

/-- 規則を一つ使う。 -/
def applyRule (rule : Named ConversionRule) (text : Text) : Except RunError Text :=
  match rule with
  | .known .toKanji =>
    match numeralToKanji text with
    | .ok s => .ok s
    | .error e => .error (.width e)
  | .known .toFullwidth => .ok (convertWidth .numbers .fullwidth text)
  | .unknown name => .error (.unknownRule name)

/-- 規則を順に使う。 -/
def applyRules (rules : List (Named ConversionRule)) (text : Text) : Except RunError Text :=
  rules.foldlM (fun s rule => applyRule rule s) text

/-- 区切りで分ける。区切りごとに、切って、端の空白を落とし、空のものを除く。 -/
def splitParts (separators : List Text) (text : Text) : List Text :=
  separators.foldl (fun parts sep =>
    (parts.flatMap fun part => (Text.splitOn sep part).map Unicode.strip).filter (!·.isEmpty))
    [text]

/-- 雛形の番号に部品を差し込む。番号は 1 から数え、ない部品は空とする。 -/
def joinParts (template : Option Text) (separator : Text) (parts : List Text) :
    Except RunError Text :=
  match template with
  | none => .ok (Text.join separator parts)
  | some template =>
    let part (number : Nat) : Text := if number == 0 then [] else parts.getD (number - 1) []
    match Regex.fillBraces part (template.length + 1) template with
    | .ok s => .ok s
    | .error count => .error (.tooManyDigits count)

/-- 置き換えの文字列に、合ったところの組を差し込む。 -/
def expandReplacement (input : Text) (groupCount : Nat) (template : Text) (found : Regex.Match) :
    Except RunError Text :=
  let m : Matched := ⟨input, found, groupCount⟩
  let value (number : Nat) : Option Text :=
    if groupCount < number then none else some ((m.group? number).getD [])
  match Regex.fillDollars value (template.length + 1) template with
  | .ok s => .ok s
  | .error count => .error (.tooManyDigits count)

/-- 組の文字列。式にない組と、合わなかった組は失敗する。 -/
def groupText (m : Matched) (number : Nat) : Except RunError Text :=
  if m.groupCount < number then .error .missingGroup
  else
    match m.group? number with
    | some s => .ok s
    | none => .error (.absentGroup number)

/-- 組ごとに規則を使う。 -/
def convertGroupTexts (m : Matched) (rules : List GroupRule) : Except RunError (List Text) :=
  rules.mapM fun (r : GroupRule) =>
    match groupText m r.group with
    | .ok s => applyRule (.known r.rule) s
    | .error e => .error e

/-- 一段の結果。 -/
inductive Outcome where
  | value (v : Value)
  /-- 組の文字列を、その位置から始まるものとして走査する。 -/
  | rescan (segment : Text) (offset : Nat)
  deriving DecidableEq, Repr

namespace Step

/-- 文字列ごとに働く段を、文字列か文字列の並びに使う。 -/
def mapStrings (f : Text → Except RunError Text) : Value → Except RunError Value
  | .string s => (f s).map .string
  | .strings parts => (parts.mapM f).map .strings
  | .nodes ns => .ok (.nodes ns)

/-- 値を一つの文字列として見る。 -/
def asParts : Value → List Text
  | .string s => [s]
  | .strings parts => parts
  | .nodes _ => []

/-- 節の並びを挟む。空の文字列は挟まない。 -/
def wrapNodes (opening closing : Text) (ns : List Node) : List Node :=
  (if opening.isEmpty then [] else [.text opening]) ++ ns
    ++ (if closing.isEmpty then [] else [.text closing])

/-- 一段の働き。受け取れない種類の値では失敗する。 -/
def eval (m : Matched) (canRescan : Bool) (s : Step) (v : Value) : Except RunError Outcome :=
  if !s.accepts v.kind then .error (.cannotApply s.action v.kind)
  else
    match s, v with
    | convertWidth target direction, v =>
      (mapStrings (fun t =>
        match convertNamedWidth target direction t with
        | .ok r => .ok r
        | .error e => .error (.width e)) v).map .value
    | convertEach rules, v => (mapStrings (applyRules rules) v).map .value
    | convertGroups rules, _ =>
      (convertGroupTexts m rules).map fun parts => .value (.string parts.flatten)
    | join template separator, v =>
      (joinParts template separator (asParts v)).map fun s => .value (.string s)
    | wrap opening closing, .nodes ns => .ok (.value (.nodes (wrapNodes opening closing ns)))
    | wrap opening closing, v => .ok (.value (.string (opening ++ (asParts v).flatten ++ closing)))
    | replace _ pattern replacement, v =>
      let text := (asParts v).flatten
      (pattern.replaceAll text (expandReplacement text pattern.groupCount replacement)).map
        fun s => .value (.string s)
    | splitBy separators, v => .ok (.value (.strings (splitParts separators (asParts v).flatten)))
    | processGroup group, _ =>
      if !canRescan then .error .noRescan
      else
        match groupText m group with
        | .ok s => .ok (.rescan s (((m.found.span? group).map (·.1)).getD 0))
        | .error e => .error e

end Step

/-! ## 並びの実行 -/

/-- 状態を変えながら走査する手続き。失敗しても状態は残る。 -/
abbrev Rescan (σ ε : Type) := Text → Nat → σ → Except ε (List Node) × σ

/-- 走査するものを持つか。 -/
def rescanWith {σ ε : Type} (rescan : Option (Rescan σ ε)) (segment : Text) (offset : Nat)
    (state : σ) : Except ε (List Node) × σ :=
  match rescan with
  | some f => f segment offset state
  | none => (.ok [], state)

/-- 段を `index` 番目から順に実行する。 -/
def runSteps {σ ε : Type} (m : Matched) (patternName : Option String)
    (rescan : Option (Rescan σ ε)) (report : TransformError → ε) :
    List Step → Nat → Value → σ → Except ε Value × σ
  | [], _, v, state => (.ok v, state)
  | s :: rest, index, v, state =>
    match s.eval m rescan.isSome v with
    | .error reason => (.error (report ⟨reason, patternName, some (index, s.action)⟩), state)
    | .ok (.value v) => runSteps m patternName rescan report rest (index + 1) v state
    | .ok (.rescan segment offset) =>
      match rescanWith rescan segment offset state with
      | (.error e, state) => (.error e, state)
      | (.ok ns, state) =>
        runSteps m patternName rescan report rest (index + 1) (.nodes ns) state

/-- 最後の値を節の並びにする。縦中横は空にできない。 -/
def finalize (output : OutputKind) : Value → Except RunError (List Node)
  | .nodes ns => .ok ns
  | v =>
    let text := (Step.asParts v).flatten
    match output with
    | .upright =>
      if text.isEmpty then .error .emptyGrouped else .ok [.grouped text uprightClass]
    | .text => .ok (if text.isEmpty then [] else [.text text])

/-- 合った文字列に段を順に使い、節の並びを作る。 -/
def applySteps {σ ε : Type} (steps : List Step) (m : Matched) (output : OutputKind)
    (patternName : Option String) (rescan : Option (Rescan σ ε)) (report : TransformError → ε)
    (state : σ) : Except ε (List Node) × σ :=
  match runSteps m patternName rescan report steps 0 (.string m.whole) state with
  | (.error e, state) => (.error e, state)
  | (.ok v, state) =>
    match finalize output v with
    | .ok ns => (.ok ns, state)
    | .error reason => (.error (report ⟨reason, patternName, none⟩), state)

end Tategaki
