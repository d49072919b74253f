import Tategaki.Command.Engine
import Tategaki.Command.Styled

/-!
# 規則の一覧

規則を試す順に並べた表を出す。名前と出力の欄は札の読まれる文としてそのまま書き、式の欄では札に
見えるところも文字として書く。
-/

namespace Tategaki.Command

/-- 一覧の見出し。 -/
def listHeaders : List Text :=
  ["Priority", "Name", "Output", "Expression", "Enabled"].map (·.toList)

/-- 規則の行。札の読まれる文で書く。 -/
def ruleRow (r : Rule) : List Text := [
  (r.priority.fixed 3).toList,
  r.name.toList,
  r.definition.output.name.toList,
  Styled.escape r.definition.expression.fullSource,
  (if r.enabled then "yes" else "no").toList]

/-- 札を消した行。 -/
def renderRow (cells : List Text) : Option (List Text) :=
  cells.mapM fun cell => (Styled.render cell).map Unicode.strip

/-- 規則の表。札を消せない欄があれば `none`。 -/
def ruleTable (rules : List Rule) : Option Table :=
  let count := rules.length
  (rules.mapM fun r => renderRow (ruleRow r)).map fun rows =>
    { title := s!"{count} rule(s)".toList, headers := listHeaders, rows }

/-- 規則を一覧にする。 -/
def runList {τ : Type} (w : World τ) (s : ListSettings) : Report :=
  let ready := readyRules w s.rules {}
  let report := match ready.outcome with
    | .error e => w.fail e
    | .ok registry =>
      match ruleTable (if s.all then registry.allRules else registry.getAll.1.rules) with
      | none => w.fail .unopenedStyle
      | some table => { ending := .code 0, files := w.files, table := some table }
  report.after [] ready.warnings

end Tategaki.Command
