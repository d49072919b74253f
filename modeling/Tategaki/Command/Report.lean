import Tategaki.Failure

/-!
# 命令の場と報告

命令は、見えるファイルと時計を持つ場で働き、報告を返す。報告には、終わり方、書いた後のファイル、
標準出力と標準エラー出力に書くもの、警告が含まれる。

利用者に示して終わる失敗と、そのまま止まる失敗がある。前者は種類と文面を一行で示す。
-/

namespace Tategaki.Command

open Chapter

/-- 命令の場。 -/
structure World (τ : Type) where
  files : FileTree
  /-- 利用者のディレクトリ。 -/
  home : Option String := none
  read : ReadClock τ
  clock : τ
  /-- 走査の枠を積める段数。`none` は、いくらでも積めることを表す。 -/
  room : Option Nat := none
  /-- 命令行の語。 -/
  words : List Text := []

/-- 道筋の先頭の `~` を利用者のディレクトリに直す。直せなければ `none`。 -/
def World.expand? {τ : Type} (w : World τ) (written : Text) : Option FilePath :=
  let path := FilePath.ofString (String.ofList written)
  match path.root.isEmpty, path.parts with
  | true, first :: rest =>
    if first == "~" then
      w.home.map fun home => (FilePath.ofString home).append ⟨"", rest⟩
    else if first.startsWith "~" then none
    else some path
  | _, _ => some path

/-! ## 代用符号の代わり -/

/-- 文の始めに書かれた文字の番号。`\u` の後ろの四桁か、`&#` の後ろの番号である。 -/
def numberAt? (s : Text) : Option Nat :=
  if ['\\', 'u'].isPrefixOf s then (Json.hexQuad (s.drop 2)).map (·.1)
  else if ['&', '#'].isPrefixOf s then
    (Markup.Reference.numeral? (s.drop 2)).bind fun (n, _) => n.value.toOption
  else none

/-- 文に書かれた文字の番号。 -/
def numbers : Text → List Nat
  | [] => []
  | c :: s => (numberAt? (c :: s)).toList ++ numbers s

/-- 区画の文字が、文に、そのままでも番号でも現れないか。 -/
def isFree (b : Surrogate.Block) (s : Text) : Bool :=
  !s.any b.contains && !(numbers s).any b.isNamedBy

/-- 対にならない代用符号の代わりをする区画。場にある文のどれにも現れないものを選ぶ。代用符号位置を番号で書いた
文がなければ、代わりはいらない。 -/
def World.lone {τ : Type} (w : World τ) : Option Surrogate.Block :=
  let texts := w.words ++ w.files.texts
  let blocks := (List.finRange 67).map Surrogate.Block.mk
  if texts.any fun s => (numbers s).any Surrogate.isSurrogate then
    some ((blocks.find? fun b => texts.all (isFree b)).getD .first)
  else none

/-! ## 終わり方 -/

/-- 終わり方。 -/
inductive Ending where
  /-- 番号で終わる。 -/
  | code (n : Nat)
  /-- 文面を示して終わる。 -/
  | message (text : String)
  /-- 報告できない失敗で止まる。 -/
  | crash (kind text : String)
  deriving DecidableEq, Repr

/-- 命令の失敗。 -/
inductive Fault where
  | limits (e : LimitsError)
  | rules (e : LoadError)
  | chapter (e : ConvertError)
  | chapters (e : BatchError)
  | file (e : FileError)
  | homeUnknown
  /-- 開いていない装飾を閉じた。 -/
  | unopenedStyle
  deriving DecidableEq, Repr

namespace Fault

/-- 失敗の種類。 -/
def kindName : Fault → String
  | limits _ => LimitsError.kindName
  | rules (.rule _) => RuleError.kindName
  | rules (.interrupted i) => i.kindName
  | chapter e => e.kindName
  | chapters .noWorkers => "ValueError"
  | chapters (.unencodable run) => (ConvertError.unencodable run).kindName
  | file e => e.kindName
  | homeUnknown => "RuntimeError"
  | unopenedStyle => "MarkupError"

/-- 失敗の文面。 -/
def message : Fault → String
  | limits e => e.message
  | rules (.rule e) => e.message
  | rules (.interrupted i) => i.message
  | chapter e => e.message
  | chapters e => e.message
  | file e => e.message
  | homeUnknown => "Could not determine home directory."
  | unopenedStyle => "closing tag has nothing to close"

/-- 利用者に示して終わるか。 -/
def isReported : Fault → Bool
  | limits _ | rules (.rule _) => true
  | chapter e => e.isReported
  | _ => false

/-- 失敗したときの終わり方。 -/
def ending (e : Fault) : Ending :=
  if e.isReported then .message ("[tatekumi] " ++ e.kindName ++ ": " ++ e.message)
  else .crash e.kindName e.message

end Fault

/-! ## 報告 -/

/-- 表。 -/
structure Table where
  title : Text
  headers : List Text
  rows : List (List Text)
  deriving DecidableEq, Repr

namespace Table

/-- 各列の幅。 -/
def widths (t : Table) : List Nat :=
  (List.range t.headers.length).map fun i =>
    ((t.headers :: t.rows).map fun row => (row.getD i []).length).foldl max 0

/-- 行を、列の幅に揃えて書く。 -/
def renderRow (widths : List Nat) (row : List Text) : Text :=
  let cells := (widths.zip row).map fun (width, cell) =>
    cell ++ List.replicate (width - cell.length) ' '
  Unicode.stripRight (Text.join [' ', ' '] cells)

/-- 表を行にする。 -/
def render (t : Table) : List Text :=
  t.title :: (t.headers :: t.rows).map (renderRow t.widths)

end Table

/-- 命令の報告。 -/
structure Report where
  ending : Ending
  files : FileTree
  /-- 標準出力に書く文。 -/
  output : Text := []
  /-- 標準出力に書く表。 -/
  table : Option Table := none
  /-- 標準エラー出力に書く行。 -/
  log : List Text := []
  warnings : List String := []

/-- 記録を前に加える。 -/
def Report.after (r : Report) (log : List Text) (warnings : List String) : Report :=
  { r with log := log ++ r.log, warnings := warnings ++ r.warnings }

/-- 記録を二度加えるのは、つないで一度加えるのと同じである。 -/
theorem Report.after_after (r : Report) (log log2 : List Text) (warnings warnings2 : List String) :
    (r.after log2 warnings2).after log warnings = r.after (log ++ log2) (warnings ++ warnings2) := by
  simp [Report.after]

/-- 何も書かずに終わる報告。 -/
def World.stop {τ : Type} (w : World τ) (ending : Ending) : Report := { ending, files := w.files }

/-- 何も書かずに失敗で終わる報告。 -/
def World.fail {τ : Type} (w : World τ) (e : Fault) : Report := w.stop e.ending

end Tategaki.Command
