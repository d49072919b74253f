import Tategaki.Rule.Error

/-!
# 規則の定義

規則は、合わせる式と、合った文字列の書き換え方からなる。式は三つの部分（後ろを見る部分、本体、
前を見る部分）を文字列としてつないだもので、本体の選択は前後の部分にも及ぶ。

定義を読むだけでは式を解釈しない。解釈は `MatchExpression.compile` が行う。
-/

namespace Tategaki

open Json

/-- 合わせる式。 -/
structure MatchExpression where
  source : Text
  flags : String := "g"
  lookbehind : Option Text := none
  lookahead : Option Text := none
  deriving DecidableEq, Repr

namespace MatchExpression

/-- つないだ式の文字列。 -/
def fullSource (e : MatchExpression) : Text :=
  e.lookbehind.getD [] ++ e.source ++ e.lookahead.getD []

/-- 何度も続けて照合できることを表す指定か。 -/
def isResumable (c : Char) : Bool := c == 'g' || c == 'y'

/-- 照合の指定を一字ずつ解釈する。知らない字で失敗する。 -/
def readFlags : List Char → Regex.Flags → Except Char Regex.Flags
  | [], flags => .ok flags
  | c :: rest, flags =>
    if isResumable c || c == 'u' then readFlags rest flags
    else if c == 'i' then readFlags rest { flags with ignoreCase := true }
    else if c == 'm' then readFlags rest { flags with multiline := true }
    else if c == 's' then readFlags rest { flags with dotAll := true }
    else .error c

/-- 式を解釈する。位置を変えながら何度も照合するので、そのための指定がなければならない。 -/
def compile (e : MatchExpression) (patternName : Option String) :
    Except LoadError Regex.Pattern :=
  let shown := patternName.getD "None"
  let fail (cause : RuleCause) : Except LoadError Regex.Pattern :=
    .error (.rule { cause, patternName })
  if !e.flags.toList.any isResumable then fail (.notGlobal shown)
  else
    match readFlags e.flags.toList {} with
    | .error c => fail (.unsupportedFlag c shown)
    | .ok flags =>
      let source := e.fullSource
      match Regex.compile source flags with
      | .ok pattern => .ok pattern
      | .error (.rejected kind place) =>
        fail (.expressionInvalid shown source (.rejected kind place))
      | .error .hugeRepeat => .error (.interrupted (.overflow (Regex.Fault.message [] .hugeRepeat)))
      | .error fault => .error (.interrupted (.badValue (fault.message source)))

end MatchExpression

/-- 規則の定義。 -/
structure Definition where
  name : String
  expression : MatchExpression
  output : OutputKind
  steps : List Step := []
  description : String := ""
  disabled : Bool := false
  deriving DecidableEq, Repr

namespace Definition

/-- 誤りを作る。 -/
def fail {α : Type} (cause : RuleCause) (patternName source : Option String) :
    Except LoadError α := .error (.rule { cause, patternName, source })

/-- 文字列か、ないかのどちらかである部分。 -/
def optionalText (value : Json) (part name : String) : Except LoadError (Option String) :=
  match value with
  | .null => .ok none
  | .str s => .ok (some s)
  | _ => fail (.partInvalid part name) (some name) none

/-- 合わせる式を読む。 -/
def readExpression (value : Json) (name : String) (source : Option String) :
    Except LoadError MatchExpression :=
  match value with
  | .obj fields =>
    match get fields "source" with
    | .str text =>
      if text.isEmpty then fail (.sourceInvalid name) (some name) source
      else do
        let flags ← optionalText (get fields "flags") "regexp flags" name
        let lookbehind ← optionalText (get fields "lookbehind") "lookbehind" name
        let lookahead ← optionalText (get fields "lookahead") "lookahead" name
        return ⟨text.toList, flags.getD "g", lookbehind.map (·.toList), lookahead.map (·.toList)⟩
    | _ => fail (.sourceInvalid name) (some name) source
  | _ => fail (.expressionMissing name) (some name) source

/-- 段を順に読む。 -/
def readSteps (name : String) (source : Option String) :
    Nat → List Json → Except LoadError (List Step)
  | _, [] => .ok []
  | index, value :: rest =>
    match Step.parse value with
    | .ok s => do return s :: (← readSteps name source (index + 1) rest)
    | .error (.invalid e) => fail (.stepInvalid index name e) (some name) source
    | .error .unusableAction => .error (.interrupted .unusableAction)
    | .error .hugeRepeat => .error (.interrupted (.overflow (Regex.Fault.message [] .hugeRepeat)))

/-- 書き換え方を読む。 -/
def readTransform (value : Json) (name : String) (source : Option String) :
    Except LoadError (OutputKind × List Step) :=
  match value with
  | .obj fields =>
    let output := match get fields "type" with
      | .str s => OutputKind.ofName? s
      | _ => none
    match output with
    | none => fail (.outputInvalid name) (some name) source
    | some output =>
      match (find fields "steps").getD (.arr []) with
      | .arr items => do return (output, ← readSteps name source 0 items)
      | _ => fail (.stepsNotArray name) (some name) source
  | _ => fail (.transformMissing name) (some name) source

/-- 説明の文。文字列でなければ空とする。 -/
def readDescription (value : Json) : String :=
  match value with
  | .str s => s
  | _ => ""

/-- 定義を読む。`source` は規則の組の名前である。 -/
def parse (value : Json) (source : Option String) : Except LoadError Definition :=
  match value with
  | .obj fields =>
    match get fields "name" with
    | .str name =>
      if name.isEmpty then fail .nameMissing none source
      else do
        let expression ← readExpression (get fields "pattern") name source
        let (output, steps) ← readTransform (get fields "transform") name source
        return {
          name, expression, output, steps
          description := readDescription (get fields "description")
          disabled := ((find fields "disabled").getD (.bool false)).isTruthy }
    | _ => fail .nameMissing none source
  | _ => fail .notObject none source

/-- 式と段を確かめ、解釈した式を返す。 -/
def compile (d : Definition) : Except LoadError Regex.Pattern :=
  match d.expression.compile (some d.name) with
  | .error e => .error e
  | .ok pattern =>
    match Step.checkAll d.steps pattern.groupCount with
    | some e => fail (.stepsRejected e) (some d.name) none
    | none => .ok pattern

/-- 定義を解釈できるのは、式を解釈でき、段が検めを通るときである。 -/
theorem compile_ok_iff {d : Definition} {pattern : Regex.Pattern} :
    d.compile = .ok pattern ↔ d.expression.compile (some d.name) = .ok pattern ∧
      Step.checkAll d.steps pattern.groupCount = none := by
  unfold compile
  split
  · next e he => simp [he]
  · next p hp =>
    split
    · next e hcheck =>
      simp only [fail, hp, reduceCtorEq, Except.ok.injEq, false_iff]
      rintro ⟨rfl, hnone⟩
      rw [hcheck] at hnone
      cases hnone
    · next hcheck =>
      simp only [hp, Except.ok.injEq]
      constructor
      · rintro rfl
        exact ⟨rfl, hcheck⟩
      · exact fun h => h.1

end Definition

end Tategaki
