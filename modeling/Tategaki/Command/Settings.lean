import Tategaki.Command.Option
import Tategaki.Limits
import Tategaki.Number.Numeral

/-!
# 命令とその設定

三つの命令（一章の変換、ディレクトリごとの変換、規則の一覧）と、命令を選ばないときの、それぞれの
書き方と設定。空の文字列を与えた設定は、与えなかったものとして扱う。
-/

namespace Tategaki.Command

/-- 利用者に見せるこの道具の名前。 -/
def toolName : String := "tatekumi"

/-- 版の表示。 -/
def versionText : String := toolName ++ " 0.1.0\n"

/-! ## 設定 -/

/-- 規則の選び方。 -/
structure RuleSource where
  /-- 規則の置き場。空なら備え付けの規則を使う。 -/
  directory : Text := []
  skipInvalid : Bool := false
  deriving DecidableEq, Repr

/-- 変換の設定。 -/
structure EngineSettings where
  rules : RuleSource := {}
  maxDepth : Option Int := none
  maxIterations : Option Int := none
  timeout : Option Binary64 := none
  /-- 経過を書くか。 -/
  debug : Bool := false
  deriving DecidableEq, Repr

/-- 処理の上限。書かれていないものは既定値になる。 -/
def EngineSettings.limits (s : EngineSettings) : Except LimitsError Limits :=
  Limits.ofFields [
    ("max_recursion_depth", s.maxDepth.elim .null .int),
    ("max_pattern_iterations", s.maxIterations.elim .null .int),
    ("pattern_timeout", s.timeout.elim .null .float)]

/-- 一章の変換の設定。 -/
structure ConvertSettings where
  input : Text := []
  title : Text := []
  output : Text := []
  engine : EngineSettings := {}
  deriving DecidableEq, Repr

/-- ディレクトリごとの変換の設定。 -/
structure BatchSettings where
  input : Text := []
  output : Text := []
  /-- 同時に働く手の数。 -/
  jobs : Option Int := none
  engine : EngineSettings := {}
  deriving DecidableEq, Repr

/-- 規則の一覧の設定。 -/
structure ListSettings where
  /-- 無効な規則も含めるか。 -/
  all : Bool := false
  rules : RuleSource := {}
  deriving DecidableEq, Repr

/-! ## オプション -/

section Options

variable {α : Type}

/-- 使い方と版を示すオプション。 -/
def standardOptions : List (OptionSpec α) := [
  { names := ["-h", "--help"], action := .help, help := "show this help message and exit" },
  { names := ["-v", "--version"], action := .version,
    help := "show program's version number and exit" }]

/-- 文字列の値を覚える。 -/
def storeText (label : String) (set : Text → α → α) : OptionAction α :=
  .store label "str" fun s => some (set s)

/-- 整数の値を覚える。 -/
def storeInteger (label : String) (set : Int → α → α) : OptionAction α :=
  .store label "int" fun s => (Numeral.readInteger s).map set

/-- 小数の値を覚える。 -/
def storeReal (label : String) (set : Binary64 → α → α) : OptionAction α :=
  .store label "float" fun s => (Numeral.readFloat s).map set

/-- 規則の選び方のオプション。 -/
def ruleOptions (modify : (RuleSource → RuleSource) → α → α) (directoryHelp skipHelp : String) :
    List (OptionSpec α) := [
  { names := ["--patterns"], help := directoryHelp
    action := storeText "DIR" fun s => modify ({ · with directory := s }) },
  { names := ["--skip-invalid"], help := skipHelp
    action := .mark (modify ({ · with skipInvalid := true })) }]

/-- 変換のオプション。 -/
def engineOptions (modify : (EngineSettings → EngineSettings) → α → α) : List (OptionSpec α) :=
  ruleOptions (fun f => modify fun s => { s with rules := f s.rules })
    "Directory of rule group .json files to use instead of the bundled rules."
    "Drop malformed rules with a warning instead of failing." ++ [
  { names := ["--max-depth"]
    help := "Maximum nesting depth for group reprocessing (default: 10)."
    action := storeInteger "MAX_DEPTH" fun n => modify ({ · with maxDepth := some n }) },
  { names := ["--max-iterations"]
    help := "Maximum rule applications per chapter (default: 1000)."
    action := storeInteger "MAX_ITERATIONS" fun n => modify ({ · with maxIterations := some n }) },
  { names := ["--timeout"]
    help := "Per-chapter processing time limit in seconds (default: 10)."
    action := storeReal "TIMEOUT" fun x => modify ({ · with timeout := some x }) },
  { names := ["--debug"], help := "Print rule matches and loader diagnostics."
    action := .mark (modify ({ · with debug := true })) }]

end Options

/-! ## 命令 -/

/-- 一章の変換。 -/
def convertCommand : CommandSpec ConvertSettings where
  program := toolName ++ " convert"
  description := "Typeset one chapter of HTML as a vertical-writing XHTML document."
  argument := some {
    name := "input_path", help := "Chapter markup file (.html, .xhtml or .txt)."
    set := fun s a => { a with input := s } }
  options := standardOptions ++ [
    { names := ["-t", "--title"], help := "Chapter title (default: the file name stem)."
      action := storeText "TITLE" fun s a => { a with title := s } },
    { names := ["-o", "--output"]
      help := "Where to write the XHTML document (default: print to stdout)."
      action := storeText "OUTPUT" fun s a => { a with output := s } }]
    ++ engineOptions fun f a => { a with engine := f a.engine }
  initial := {}

/-- ディレクトリごとの変換。 -/
def batchCommand : CommandSpec BatchSettings where
  program := toolName ++ " batch"
  description := "Typeset every chapter file in a directory and write style.css beside them."
  argument := some {
    name := "input_dir", help := "Directory of chapter markup files."
    set := fun s a => { a with input := s } }
  options := standardOptions ++ [
    { names := ["-o", "--output-dir"], help := "Output directory (default: <input_dir>/xhtml)."
      action := storeText "OUTPUT_DIR" fun s a => { a with output := s } },
    { names := ["-j", "--jobs"], help := "Number of chapters converted in parallel."
      action := storeInteger "JOBS" fun n a => { a with jobs := some n } }]
    ++ engineOptions fun f a => { a with engine := f a.engine }
  initial := {}

/-- 規則の一覧。 -/
def listCommand : CommandSpec ListSettings where
  program := toolName ++ " patterns"
  description := "List compiled rules in the order the scanner tries them."
  options := standardOptions ++ [
    { names := ["--all"], help := "Include disabled rules."
      action := .mark ({ · with all := true }) }]
    ++ ruleOptions (fun f a => { a with rules := f a.rules })
      "Directory of rule group .json files." "Drop malformed rules with a warning."
  initial := {}

/-- 命令を選ばないときの命令。 -/
def rootCommand : CommandSpec Unit where
  program := toolName
  description := "Vertical Japanese (tategaki) typesetting for web novel chapters."
  epilogue := some ("Commands: convert, batch, patterns. Run \x60" ++ toolName
    ++ " <command> --help\x60 for options.")
  options := standardOptions
  initial := ()

/-- 何も書かれていなければ、上限は既定値になる。 -/
theorem limits_default : EngineSettings.limits {} = .ok {} := by
  rfl

end Tategaki.Command
