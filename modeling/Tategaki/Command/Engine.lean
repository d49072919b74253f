import Tategaki.Command.Report
import Tategaki.Command.Settings

/-!
# 変換器の用意と経過の記録

設定から規則を読み、登録し、変換器を作る。経過を書く設定なら、読んだ組、登録した規則、規則の勝ち、
変換の結果を一行ずつ記録する。失敗しても、それまでの記録は残る。
-/

namespace Tategaki.Command

open Chapter

/-! ## 経過の行 -/

/-- 経過の行の先頭。 -/
def traceLead : Text := "[tatekumi debug] ".toList

/-- 引用符で囲んだ表記。 -/
def shown (s : Text) : String := String.ofList (Text.quoted s)

/-- 読んだ組。 -/
def groupLine (g : RuleGroup) : String :=
  let count := g.patterns.length
  s!"loaded pattern group {g.name} ({count} patterns)"

/-- 登録した規則。 -/
def ruleLine (r : Rule) : String :=
  let priority := r.priority.fixed 3
  let enabled := if r.enabled then "True" else "False"
  s!"registered {r.name} priority={priority} enabled={enabled}"

/-- 規則の勝ち。 -/
def winLine (w : Win) : String :=
  let matched := shown w.matched
  s!"{w.patternName} matched {matched} at {w.position} depth={w.depth}"

/-- 変換した章。 -/
def convertedLine (title : Text) (applications : Int) (document : Text) : String :=
  let title := shown title
  let length := document.length
  s!"converted {title}: {applications} rule applications, {length} chars"

/-- 変換できなかった章。 -/
def failedLine (index : Nat) (e : ConvertError) : String :=
  let reason := e.message
  s!"chapter {index} failed: {reason}"

/-- 一章の変換の経過。 -/
def conversionTrace {τ : Type} (html title : Json) (done : Conversion τ) : List String :=
  let wins := done.wins.reverse.map winLine
  match done.outcome, readRequest html title with
  | .ok document, .ok request => wins ++ [convertedLine request.title done.budget.count document]
  | _, _ => wins

/-- 経過を書く設定なら、記録の行にする。 -/
def traced (debug : Bool) (lines : List String) : List Text :=
  if debug then lines.map fun line => traceLead ++ line.toList else []

/-! ## 規則の用意 -/

/-- 規則の用意の結果。 -/
structure RulesReady where
  outcome : Except Fault Registry
  trace : List String := []
  warnings : List String := []

/-- 読んだ組を登録する。 -/
def registerLoaded (report : LoadReport) (limits : Limits) : RulesReady :=
  let loaded := report.groups.map groupLine
  match report.error with
  | some e => { outcome := .error (.rules e), trace := loaded, warnings := report.warnings }
  | none =>
    let (result, registry) := Registry.registerGroups report.groups (.empty limits)
    { outcome := match result with
        | .ok _ => .ok registry
        | .error e => .error (.rules e)
      trace := loaded ++ registry.rules.map ruleLine
      warnings := report.warnings }

/-- 備え付けの規則を読んで登録する経過。 -/
def bundledTrace (limits : Limits) : List String :=
  (registerLoaded { groups := Bundled.groups } limits).trace

/-- 規則を用意する。 -/
def readyRules {τ : Type} (w : World τ) (source : RuleSource) (limits : Limits) : RulesReady :=
  if source.directory.isEmpty then registerLoaded { groups := Bundled.groups } limits
  else
    match w.expand? source.directory with
    | none => { outcome := .error .homeUnknown }
    | some directory =>
      let lone := w.lone.getD .first
      registerLoaded (RuleGroup.loadDirectory lone w.files directory source.skipInvalid) limits

/-! ## 変換器の用意 -/

/-- 変換器の用意の結果。 -/
structure EngineReady (τ : Type) where
  outcome : Except Fault (Converter τ)
  log : List Text := []
  warnings : List String := []

/-- 変換器を用意する。規則のない登録簿には、備え付けの規則が代わりに使われる。 -/
def readyEngine {τ : Type} (w : World τ) (s : EngineSettings) : EngineReady τ :=
  match s.limits with
  | .error e => { outcome := .error (.limits e) }
  | .ok limits =>
    let rules := readyRules w s.rules limits
    match rules.outcome with
    | .error e =>
      { outcome := .error e, log := traced s.debug rules.trace, warnings := rules.warnings }
    | .ok registry =>
      let again := if registry.size == 0 then bundledTrace limits else []
      { outcome := .ok (.create (some registry) (some limits) stylesheetName w.read w.lone w.room)
        log := traced s.debug (rules.trace ++ again)
        warnings := rules.warnings }

end Tategaki.Command
