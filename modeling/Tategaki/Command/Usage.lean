import Tategaki.Command.Option

/-!
# 使い方の表示

使い方は、一行の形、説明、引数とオプションの一覧、結びの文からなり、間を一行ずつ空ける。一覧では
書き方の右に説明を揃える。説明の始まりは、一番長い書き方に合わせるが、24 桁目より右にはしない。
それに収まらない書き方の説明は、次の行に書く。
-/

namespace Tategaki.Command

variable {α : Type}

/-- 一覧の字下げ。 -/
def listIndent : Nat := 2

/-- 説明の始まりの右限。 -/
def maxHelpColumn : Nat := 24

namespace OptionSpec

/-- 名前に、値があればその名前を添える。 -/
def withLabel (o : OptionSpec α) (name : String) : String :=
  match o.action with
  | .store label _ _ => name ++ " " ++ label
  | _ => name

/-- 一覧に書く書き方。 -/
def invocation (o : OptionSpec α) : String := String.intercalate ", " (o.names.map o.withLabel)

/-- 一行の形の中での書き方。最初の名前だけを書く。 -/
def brief (o : OptionSpec α) : String := "[" ++ o.withLabel (o.names.headD "") ++ "]"

end OptionSpec

/-- 空白を並べる。 -/
def blanks (n : Nat) : String := String.ofList (List.replicate n ' ')

/-- 一覧の一項目。説明は `column` 桁目から書く。 -/
def listEntry (column : Nat) (invocation help : String) : String :=
  let left := blanks listIndent ++ invocation
  if left.length + listIndent ≤ column then
    left ++ blanks (column - left.length) ++ help ++ "\n"
  else left ++ "\n" ++ blanks column ++ help ++ "\n"

/-- 見出しの付いた一覧。項目がなければ何も書かない。 -/
def listSection (column : Nat) (heading : String) (entries : List (String × String)) :
    List String :=
  if entries.isEmpty then []
  else [heading ++ ":\n" ++ String.join (entries.map fun (a, b) => listEntry column a b)]

namespace CommandSpec

/-- 一行の形。 -/
def usageLine (c : CommandSpec α) : String :=
  let arguments := c.argument.toList.map (·.name)
  "usage: " ++ String.intercalate " " (c.program :: c.options.map (·.brief) ++ arguments) ++ "\n"

/-- 引数の項目。 -/
def argumentEntries (c : CommandSpec α) : List (String × String) :=
  c.argument.toList.map fun a => (a.name, a.help)

/-- オプションの項目。 -/
def optionEntries (c : CommandSpec α) : List (String × String) :=
  c.options.map fun o => (o.invocation, o.help)

/-- 説明の始まりの桁。 -/
def helpColumn (c : CommandSpec α) : Nat :=
  let longest := ((c.argumentEntries ++ c.optionEntries).map fun e => e.1.length).foldl max 0
  min (longest + 2 * listIndent) maxHelpColumn

/-- 使い方の全体。 -/
def helpText (c : CommandSpec α) : String :=
  String.intercalate "\n"
    ([c.usageLine, c.description ++ "\n"]
      ++ listSection c.helpColumn "positional arguments" c.argumentEntries
      ++ listSection c.helpColumn "options" c.optionEntries
      ++ c.epilogue.toList.map (· ++ "\n"))

/-- 誤りの報告。 -/
def misuseText (c : CommandSpec α) (e : UsageError) : String :=
  c.usageLine ++ c.program ++ ": error: " ++ e.message ++ "\n"

end CommandSpec

end Tategaki.Command
