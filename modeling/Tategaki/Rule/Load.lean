import Tategaki.Files.Tree
import Tategaki.Rule.Group

/-!
# 規則の置き場

ディレクトリの直下にある `.json` のファイルを名前の順に読み、一つずつを規則の組とする。組の名前は
ファイルの語幹である。読めないバイト列や、ディレクトリである `.json` は、規則の誤りとしては
集められない。
-/

namespace Tategaki

open Surrogate

/-- 読み込みの経過。失敗しても、それまでに読んだ組と警告が残る。 -/
structure LoadReport where
  groups : List RuleGroup := []
  warnings : List String := []
  error : Option LoadError := none
  deriving Repr

/-- 読み書きの失敗を、読み取りの中断として見る。 -/
def FileError.interruption (e : FileError) : Interruption :=
  match e with
  | .undecodable _ => .undecodable e.message
  | _ => .isDirectory e.message

namespace RuleGroup

/-- ファイルの文を組として読む。`lone` は、対にならない代用符号の代わりをする区画。 -/
def ofText (lone : Block) (text : Text) (name : String) (skipInvalid : Bool) :
    Except LoadError RuleGroup × List String :=
  match Json.parse lone text with
  | .ok data => parse data name skipInvalid
  | .error (.syntaxError kind position) =>
    let reason := (Json.ReadError.syntaxError kind position).message text
    fail (.fileUnreadable name reason) name
  | .error (.tooManyDigits count) =>
    (.error (.interrupted (.badValue (Json.tooManyDigitsText count))), [])

/-- ファイルを順に読む。 -/
def loadFiles (lone : Block) (tree : FileTree) (directory : FilePath) (skipInvalid : Bool) :
    List String → LoadReport
  | [] => {}
  | name :: rest =>
    let path := directory.append ⟨"", [name]⟩
    match tree.readText path with
    | .error e => { error := some (.interrupted e.interruption) }
    | .ok text =>
      match ofText lone text path.stem skipInvalid with
      | (.error e, warnings) => { warnings, error := some e }
      | (.ok g, warnings) =>
        let report := loadFiles lone tree directory skipInvalid rest
        { report with groups := g :: report.groups, warnings := warnings ++ report.warnings }

/-- 置き場の失敗。 -/
def directoryFailure (cause : RuleCause) (path : String) : LoadReport :=
  { error := some (.rule { cause, source := some path }) }

/-- 規則の置き場を読む。 -/
def loadDirectory (lone : Block) (tree : FileTree) (directory : FilePath) (skipInvalid : Bool) :
    LoadReport :=
  let shown := directory.toString
  if !tree.isDirectoryAt directory then directoryFailure (.directoryMissing shown) shown
  else
    let names := (tree.childrenAt directory).filter (·.endsWith ".json")
    if names.isEmpty then directoryFailure (.noFiles shown) shown
    else loadFiles lone tree directory skipInvalid names

end RuleGroup

end Tategaki
