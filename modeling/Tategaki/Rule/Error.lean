import Tategaki.Regex.Error
import Tategaki.Step.Check
import Tategaki.Step.Parse

/-!
# 規則の誤り

規則の定義、規則の組、登録のそれぞれで見つかる誤り。どの規則の、どの組の誤りかを併せて持つ。
定義の一つを飛ばして読み続けるときに飛ばせるのは、この誤りだけである。読み取りそのものを
続けられない事情は `Interruption` として別に表す。
-/

namespace Tategaki

/-- 規則の誤りの理由。 -/
inductive RuleCause where
  | notObject
  | nameMissing
  | unnamed
  | duplicateName (name : String)
  | expressionMissing (name : String)
  | sourceInvalid (name : String)
  | partInvalid (part name : String)
  | transformMissing (name : String)
  | outputInvalid (name : String)
  | stepsNotArray (name : String)
  | stepInvalid (index : Nat) (name : String) (e : StepError)
  | notGlobal (shown : String)
  | unsupportedFlag (flag : Char) (shown : String)
  | expressionInvalid (shown : String) (source : Text) (fault : Regex.Fault)
  | stepsRejected (e : CheckError)
  | groupNotObject
  | priorityNotNumber
  | patternsNotArray
  | directoryMissing (path : String)
  | noFiles (path : String)
  | fileUnreadable (name : String) (reason : String)
  deriving DecidableEq, Repr

/-- 理由の文面。 -/
def RuleCause.message : RuleCause → String
  | notObject => "Invalid pattern structure"
  | nameMissing => "Pattern name is required and must be a string"
  | unnamed => "Pattern name is required"
  | duplicateName name => s!"Duplicate pattern name: {name}"
  | expressionMissing name => s!"Pattern definition missing in {name}"
  | sourceInvalid name => s!"Invalid regexp source in {name}"
  | partInvalid part name => s!"Invalid {part} in {name}"
  | transformMissing name => s!"Transform definition missing in {name}"
  | outputInvalid name => s!"Invalid transform type in {name}"
  | stepsNotArray name => s!"Transform steps must be an array in {name}"
  | stepInvalid index name e =>
    let reason := e.message
    s!"Invalid step {index} in {name}: {reason}"
  | notGlobal shown => s!"Pattern {shown} must scan globally (add the 'g' flag)"
  | unsupportedFlag flag shown =>
    let mark := String.ofList (Text.quoted [flag])
    s!"Unsupported regex flag {mark} in {shown}"
  | expressionInvalid shown source fault =>
    let reason := fault.message source
    s!"Invalid regular expression in {shown}: {reason}"
  | stepsRejected e => e.message
  | groupNotObject => "Invalid pattern config structure"
  | priorityNotNumber => "basePriority must be a number"
  | patternsNotArray => "patterns must be an array"
  | directoryMissing path => s!"Patterns directory not found: {path}"
  | noFiles path => s!"No JSON pattern files found in {path}"
  | fileUnreadable name reason => s!"Failed to parse pattern file {name}: {reason}"

/-- 規則の誤り。 -/
structure RuleError where
  cause : RuleCause
  /-- 規則の名前。 -/
  patternName : Option String := none
  /-- 規則の組の名前。 -/
  source : Option String := none
  deriving DecidableEq, Repr

namespace RuleError

/-- 誤りの文面。 -/
def message (e : RuleError) : String := e.cause.message

/-- 組の名前がまだなければ補う。 -/
def withSource (e : RuleError) (name : String) : RuleError :=
  match e.source with
  | some s => if s.isEmpty then { e with source := some name } else e
  | none => { e with source := some name }

end RuleError

/-- 読み取りを続けられない事情。 -/
inductive Interruption where
  /-- 値が使えない。 -/
  | badValue (message : String)
  /-- 数が大きすぎる。 -/
  | overflow (message : String)
  /-- 動作の名前が並びか対象である。 -/
  | unusableAction
  /-- 文字として読めないバイト列。 -/
  | undecodable (message : String)
  /-- 読むべきものがディレクトリである。 -/
  | isDirectory (message : String)
  deriving DecidableEq, Repr

/-- 事情の文面。 -/
def Interruption.message : Interruption → String
  | badValue message | overflow message | undecodable message | isDirectory message => message
  | unusableAction => "step action must be a name"

/-- 規則を読めなかった理由。 -/
inductive LoadError where
  | rule (e : RuleError)
  | interrupted (i : Interruption)
  deriving DecidableEq, Repr

/-- 整数が倍精度の範囲を越えるときの文面。 -/
def hugeIntegerText : String := "int too large to convert to float"

end Tategaki
