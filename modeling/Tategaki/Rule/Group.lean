import Tategaki.Rule.Definition

/-!
# 規則の組

一つの組は優先順位の基準を持ち、その中の規則は書かれた順に並ぶ。誤った定義は組全体を失敗させるが、
`skipInvalid` なら、その定義だけを除いて警告を残す。
-/

namespace Tategaki

open Json

/-- 規則の組。 -/
structure RuleGroup where
  name : String
  basePriority : Binary64
  patterns : List Definition := []
  description : String := ""
  disabled : Bool := false
  deriving DecidableEq, Repr

namespace RuleGroup

/-- 定義を一つ読み、式と段を確かめる。 -/
def readEntry (value : Json) (source : String) : Except LoadError Definition := do
  let definition ← Definition.parse value (some source)
  let _ ← definition.compile
  return definition

/-- 除いた定義の警告。 -/
def skipWarning (name : String) (e : RuleError) : String :=
  let reason := e.message
  s!"Skipping invalid pattern in {name}: {reason}"

/-- 定義を順に読む。警告も順に返す。警告は、途中で失敗したときもそれまでの分が残る。 -/
def readEntries (name : String) (skipInvalid : Bool) :
    List Json → Except LoadError (List Definition) × List String
  | [] => (.ok [], [])
  | value :: rest =>
    match readEntry value name with
    | .ok definition =>
      let (result, warnings) := readEntries name skipInvalid rest
      (result.map (definition :: ·), warnings)
    | .error (.rule e) =>
      if skipInvalid then
        let (result, warnings) := readEntries name skipInvalid rest
        (result, skipWarning name e :: warnings)
      else (.error (.rule (e.withSource name)), [])
    | .error (.interrupted i) => (.error (.interrupted i), [])

/-- 組の外側の誤り。 -/
def fail {α : Type} (cause : RuleCause) (name : String) :
    Except LoadError α × List String :=
  (.error (.rule { cause, source := some name }), [])

/-- 組全体を使わない指定。 -/
def readDisabled (options : Json) : Bool :=
  match options with
  | .obj fields => ((find fields "disabled").getD (.bool false)).isTruthy
  | _ => false

/-- 組を読む。警告も返す。 -/
def parse (data : Json) (name : String) (skipInvalid : Bool) :
    Except LoadError RuleGroup × List String :=
  match data with
  | .obj fields =>
    match (get fields "basePriority").number? with
    | none => fail .priorityNotNumber name
    | some base =>
      match get fields "patterns" with
      | .arr entries =>
        match readEntries name skipInvalid entries with
        | (.error e, warnings) => (.error e, warnings)
        | (.ok patterns, warnings) =>
          match base.toBinary64? with
          | none => (.error (.interrupted (.overflow hugeIntegerText)), warnings)
          | some basePriority =>
            (.ok {
              name, basePriority, patterns
              description := Definition.readDescription (get fields "description")
              disabled := readDisabled (get fields "options") }, warnings)
      | _ => fail .patternsNotArray name
  | _ => fail .groupNotObject name

end RuleGroup

end Tategaki
