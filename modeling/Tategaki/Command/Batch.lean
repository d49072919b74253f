import Tategaki.Command.Convert
import Tategaki.Command.Styled

/-!
# ディレクトリごとの変換

ディレクトリの直下の章のファイルを名前の順に読み、すべて変換してから、様式と文書を書く。変換
できなかった章は文書を書かずに報告し、ほかの章には響かない。読めないファイルがあれば、何も書かずに
止まる。
-/

namespace Tategaki.Command

open Chapter

/-- 章のファイルの末尾。 -/
def chapterSuffixes : List String := [".html", ".htm", ".xhtml", ".txt"]

/-- ディレクトリの直下の章のファイルを、名前の順に並べる。 -/
def chapterFiles (files : FileTree) (directory : FilePath) : List FilePath :=
  ((files.childrenAt directory).map fun name => directory.append ⟨"", [name]⟩).filter fun path =>
    files.isFileAt path && chapterSuffixes.contains (lowerSuffix path)

/-- 章のファイルを順に読む。 -/
def readChapters (files : FileTree) : List FilePath → Except FileError (List Text)
  | [] => .ok []
  | path :: rest =>
    match readChapter files path with
    | .error e => .error e
    | .ok text => (readChapters files rest).map (text :: ·)

/-! ## 書き出す -/

/-- 章の文書の場所。 -/
def documentPath (output source : FilePath) : FilePath :=
  output.append ⟨"", [source.stem ++ ".xhtml"]⟩

/-- 書くべき文書。変換できなかった章は除く。 -/
def documents (output : FilePath) (results : List (FilePath × ChapterResult)) :
    List (FilePath × Text) :=
  results.filterMap fun (path, r) =>
    match r.outcome with
    | .ok document => some (documentPath output path, document)
    | .error _ => none

/-- 変換できなかった章。 -/
def failures (results : List ChapterResult) : List (Text × ConvertError) :=
  results.filterMap fun r =>
    match r.outcome with
    | .ok _ => none
    | .error e => some ((match r.title with | .str s => s.toList | v => v.plainText.toList), e)

/-- 書き出す場所を作り、様式と文書を書く。 -/
def writeDocuments (files : FileTree) (output : FilePath)
    (results : List (FilePath × ChapterResult)) : Option FileError × FileTree :=
  match files.makeDirectory output with
  | .error e => (some e, files)
  | .ok files =>
    files.writeEach
      ((output.append ⟨"", [stylesheetName]⟩, defaultStylesheet) :: documents output results)

/-! ## 報告する -/

/-- まとめの行。書き出す場所は、札の読まれる文としてそのまま書く。 -/
def summaryLine (total failed : Nat) (output : FilePath) : Text :=
  let converted := total - failed
  s!"Converted {converted}/{total} chapter(s) into ".toList ++ output.toString.toList

/-- 変換できなかった章の行。 -/
def failureLine (title : Text) (e : ConvertError) : Text :=
  "[red]Failed[/red] ".toList ++ Styled.escape title ++ ": ".toList ++ e.kindName.toList
    ++ ": ".toList ++ Styled.escape e.message.toList

/-- 札を消しながら行を書く。消せない行があれば、そこで止まる。 -/
def renderLines : List Text → List Text × Option Fault
  | [] => ([], none)
  | line :: rest =>
    match Styled.render line with
    | none => ([], some .unopenedStyle)
    | some line =>
      let (lines, fault) := renderLines rest
      (line :: lines, fault)

/-- 変換の結果を報告する。 -/
def summarize (files : FileTree) (output : FilePath) (results : List ChapterResult) : Report :=
  let failed := failures results
  let lines := summaryLine results.length failed.length output
    :: failed.map fun (title, e) => failureLine title e
  let (log, fault) := renderLines lines
  let ending := match fault with
    | some e => e.ending
    | none => .code (if failed.isEmpty then 0 else 1)
  { ending, files, log }

/-! ## 変換する -/

variable {τ : Type}

/-- 各章の経過。 -/
def batchTrace (chapters : List (Json × Json)) (done : List (Conversion τ)) : List String :=
  ((chapters.zip done).zipIdx.map fun (((html, title), d), index) =>
    conversionTrace html title d ++
      match d.outcome with
      | .ok _ => []
      | .error e => if e.isReported then [failedLine index e] else []).flatten

/-- 読んだ章を変換して書く。 -/
def convertAll (w : World τ) (s : BatchSettings) (c : Converter τ) (output : FilePath)
    (paths : List FilePath) (texts : List Text) : Report :=
  let titles := paths.map fun path => Json.str path.stem
  let chapters := (texts.map fun text => Json.str (String.ofList text)).zip titles
  let done := c.convertEach chapters w.clock
  let report := match collect titles (done.map (·.outcome)) with
    | .error e => w.fail (.chapters e)
    | .ok results =>
      match writeDocuments w.files output (paths.zip results) with
      | (some e, files) => { ending := Fault.ending (.file e), files }
      | (none, files) => summarize files output results
  report.after (traced s.engine.debug (batchTrace chapters done)) []

/-- 章のファイルを読んで変換する。 -/
def convertFiles (w : World τ) (s : BatchSettings) (output : FilePath)
    (paths : List FilePath) : Report :=
  let engine := readyEngine w s.engine
  let report := match engine.outcome with
    | .error e => w.fail e
    | .ok c =>
      match readChapters w.files paths with
      | .error e => w.fail (.file e)
      | .ok texts => convertAll w s c output paths texts
  report.after engine.log engine.warnings

/-- 書き出す場所。指定がなければ、ディレクトリの下に作る。 -/
def batchOutput? (w : World τ) (s : BatchSettings) (input : FilePath) : Option FilePath :=
  if s.output.isEmpty then some (input.append ⟨"", ["xhtml"]⟩) else w.expand? s.output

/-- ディレクトリの章をすべて変換する。 -/
def runBatch (w : World τ) (s : BatchSettings) : Report :=
  match w.expand? s.input with
  | none => w.fail .homeUnknown
  | some input =>
    if !w.files.isDirectoryAt input then
      w.stop (.message ("Input directory not found: " ++ input.toString))
    else
      let paths := chapterFiles w.files input
      if paths.isEmpty then
        w.stop (.message ("No chapter files found in directory: " ++ input.toString))
      else
        match batchOutput? w s input with
        | none => w.fail .homeUnknown
        | some output =>
          if s.jobs.any (· < 1) then w.stop (.message "--jobs must be at least 1.")
          else convertFiles w s output paths

end Tategaki.Command
