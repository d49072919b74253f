import Tategaki.Command.Engine
import Tategaki.Markup.Writer
import Tategaki.Stylesheet

/-!
# 一章の変換

章のファイルを読んで文書にし、書き出す。文字だけのファイルは、空でない行を一つずつ段落にする。
文書を書いた場所に様式がなければ、標準の様式も書く。
-/

namespace Tategaki.Command

open Chapter

/-! ## 章のファイル -/

/-- 文字だけの文を、行ごとの段落にする。 -/
def paragraphs (text : Text) : Text :=
  let lines := (Unicode.lines text).map Unicode.strip
  Text.join ['\n'] ((lines.filter (!·.isEmpty)).map fun line =>
    "<p>".toList ++ Markup.Writer.escape line ++ "</p>".toList)

/-- 小文字にした末尾。 -/
def lowerSuffix (path : FilePath) : String :=
  String.ofList (Unicode.lowerText path.suffix.toList)

/-- 章のファイルを読む。 -/
def readChapter (files : FileTree) (path : FilePath) : Except FileError Text :=
  (files.readText path).map fun text =>
    if lowerSuffix path == ".txt" then paragraphs text else text

/-! ## 書き出す -/

/-- 標準の様式。 -/
def defaultStylesheet : Text := (StyleOptions.render {}).toList

/-- 文書を書き、隣に様式がなければ書く。 -/
def writeDocument (files : FileTree) (path : FilePath) (document : Text) :
    Option FileError × FileTree :=
  match files.makeDirectory path.parent with
  | .error e => (some e, files)
  | .ok files =>
    match files.writeText path document with
    | .error e => (some e, files)
    | .ok files =>
      let stylesheet := path.parent.append ⟨"", [stylesheetName]⟩
      if files.existsAt stylesheet then (none, files)
      else files.writeEach [(stylesheet, defaultStylesheet)]

variable {τ : Type}

/-- 文書を、指定された場所か標準出力に出す。 -/
def deliver (w : World τ) (output document : Text) : Report :=
  if output.isEmpty then { ending := .code 0, files := w.files, output := document }
  else
    match w.expand? output with
    | none => w.fail .homeUnknown
    | some path =>
      match writeDocument w.files path document with
      | (some e, files) => { ending := Fault.ending (.file e), files }
      | (none, files) => { ending := .code 0, files }

/-- 読んだ章を変換する。 -/
def convertChapter (w : World τ) (s : ConvertSettings) (c : Converter τ) (path : FilePath)
    (html : Text) : Report :=
  let html := Json.str (String.ofList html)
  let title := Json.str (if s.title.isEmpty then path.stem else String.ofList s.title)
  let done := c.convert html title none w.clock
  let report := match done.outcome with
    | .error e => w.fail (.chapter e)
    | .ok document => deliver w s.output document
  report.after (traced s.engine.debug (conversionTrace html title done)) []

/-- 一章を変換する。 -/
def runConvert (w : World τ) (s : ConvertSettings) : Report :=
  match w.expand? s.input with
  | none => w.fail .homeUnknown
  | some path =>
    if !w.files.isFileAt path then
      w.stop (.message ("Input file not found: " ++ path.toString))
    else
      let engine := readyEngine w s.engine
      let report := match engine.outcome with
        | .error e => w.fail e
        | .ok c =>
          match readChapter w.files path with
          | .error e => w.fail (.file e)
          | .ok html => convertChapter w s c path html
      report.after engine.log engine.warnings

end Tategaki.Command
