import Tategaki.Command.Batch
import Tategaki.Command.Convert
import Tategaki.Command.Listing
import Tategaki.Command.Usage

/-!
# 命令を選ぶ

最初の語が命令の名前なら、残りの語でその命令を実行する。語がなければ使い方を示す。
-/

namespace Tategaki.Command

variable {τ : Type}

/-- 文を行にする。最後の改行は行を作らない。 -/
def logLines (text : String) : List Text :=
  let lines := Text.splitOn ['\n'] text.toList
  if lines.getLast? == some [] then lines.dropLast else lines

/-- 命令を実行しない終わり方の報告。 -/
def reportHalt {α : Type} (w : World τ) (c : CommandSpec α) : Halt → Report
  | .help => { ending := .code 0, files := w.files, output := c.helpText.toList }
  | .version => { ending := .code 0, files := w.files, output := versionText.toList }
  | .misuse e => { ending := .code 2, files := w.files, log := logLines (c.misuseText e) }

/-- 語を読んで命令を実行する。 -/
def perform {α : Type} (w : World τ) (c : CommandSpec α) (act : World τ → α → Report)
    (words : List Text) : Report :=
  match c.read words with
  | .error h => reportHalt w c h
  | .ok settings => act w settings

/-- 命令行を実行する。 -/
def run (w : World τ) (words : List String) : Report :=
  let w := { w with words := words.map (·.toList) }
  match words with
  | [] => reportHalt w rootCommand .help
  | first :: rest =>
    let rest := rest.map (·.toList)
    if first == "convert" then perform w convertCommand runConvert rest
    else if first == "batch" then perform w batchCommand runBatch rest
    else if first == "patterns" then perform w listCommand runList rest
    else
      perform w rootCommand
        (fun w _ => reportHalt w rootCommand (.misuse (.unknownCommand first.toList)))
        (first.toList :: rest)

end Tategaki.Command
