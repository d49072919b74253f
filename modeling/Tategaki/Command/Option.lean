import Tategaki.Text.Basic
import Tategaki.Text.Quoted
import Tategaki.Unicode.Digit

/-!
# 命令行の読み取り

命令は、名前のないただ一つの引数と、名前のあるオプションを取る。語の列を二段で読む。

* まず、すべての語を見分ける。`--` より後の語はどれも引数である。長い名前は、一つに決まれば先頭
  だけでもよく、`=` の後に値を書ける。短い名前には値や別の短い名前を続けて書ける。
* 次に、左から順に働かせる。使い方と版の求めは、そこまでの語に誤りがなければ、その場で終わる。

どのオプションか一つに決まらない語は最初の段で誤りになるので、使い方の求めより先に報告される。
-/

namespace Tategaki.Command

/-! ## 命令の形 -/

/-- オプションの働き。`α` は読み取る設定の型である。 -/
inductive OptionAction (α : Type) where
  /-- 使い方を示して終わる。 -/
  | help
  /-- 版を示して終わる。 -/
  | version
  /-- 書かれたことを覚える。 -/
  | mark (set : α → α)
  /-- 値を読んで覚える。`label` は使い方に書く値の名前、`kind` は値の種類である。 -/
  | store (label kind : String) (read : Text → Option (α → α))

/-- オプション。 -/
structure OptionSpec (α : Type) where
  /-- 名前。短いものから並ぶ。 -/
  names : List String
  action : OptionAction α
  help : String

/-- 値を取るか。 -/
def OptionSpec.takesValue {α : Type} (o : OptionSpec α) : Bool :=
  match o.action with
  | .store _ _ _ => true
  | _ => false

/-- 名前のない引数。 -/
structure ArgumentSpec (α : Type) where
  name : String
  help : String
  set : Text → α → α

/-- 命令。 -/
structure CommandSpec (α : Type) where
  program : String
  description : String
  epilogue : Option String := none
  argument : Option (ArgumentSpec α) := none
  options : List (OptionSpec α)
  initial : α

/-! ## 誤り -/

/-- 書き方の誤り。オプションはすべての名前で示す。 -/
inductive UsageError where
  | ambiguous (word : Text) (candidates : List String)
  | valueMissing (names : List String)
  | valueIgnored (names : List String) (value : Text)
  | valueInvalid (names : List String) (kind : String) (value : Text)
  | argumentMissing (name : String)
  | unrecognized (words : List Text)
  | unknownCommand (name : Text)
  deriving DecidableEq, Repr

/-- オプションについての文面。 -/
def UsageError.aboutOption (names : List String) (text : String) : String :=
  "argument " ++ String.intercalate "/" names ++ ": " ++ text

/-- 誤りの文面。 -/
def UsageError.message : UsageError → String
  | ambiguous word candidates =>
    "ambiguous option: " ++ String.ofList word ++ " could match "
      ++ String.intercalate ", " candidates
  | valueMissing names => aboutOption names "expected one argument"
  | valueIgnored names value =>
    aboutOption names ("ignored explicit argument " ++ String.ofList (Text.quoted value))
  | valueInvalid names kind value =>
    aboutOption names
      ("invalid " ++ kind ++ " value: " ++ String.ofList (Text.quoted value))
  | argumentMissing name => "the following arguments are required: " ++ name
  | unrecognized words =>
    "unrecognized arguments: " ++ String.intercalate " " (words.map String.ofList)
  | unknownCommand name => "Unknown command: " ++ String.ofList name

/-- 命令を実行しない終わり方。 -/
inductive Halt where
  | help
  | version
  | misuse (e : UsageError)
  deriving DecidableEq, Repr

/-! ## 語を見分ける -/

/-- オプションの名前に続けて書かれたもの。 -/
inductive Attached where
  | nothing
  /-- 短い名前のすぐ後に書かれた、空でないもの。 -/
  | glued (text : Text)
  /-- `=` の後に書かれたもの。 -/
  | assigned (text : Text)
  deriving DecidableEq, Repr

/-- 語の見分け。 -/
inductive Word (α : Type) where
  | argument
  /-- `--` の区切り。 -/
  | divider
  | option (o : OptionSpec α) (attached : Attached)
  /-- オプションの形をした、知らない語。 -/
  | stray

/-- 最初の `=` の前と後。なければ後は `none` になる。 -/
def splitAssignment : Text → Text × Option Text
  | [] => ([], none)
  | c :: rest =>
    if c == '=' then ([], some rest)
    else
      let (name, value) := splitAssignment rest
      (c :: name, value)

/-- 負の数のように見えるか。末尾の改行は一つまで許す。 -/
def looksNegative : Text → Bool
  | '-' :: rest =>
    let body := if rest.getLast? == some '\n' then rest.dropLast else rest
    let fraction := body.dropWhile Unicode.isDecimal
    match fraction with
    | [] => !body.isEmpty
    | '.' :: digits => !digits.isEmpty && digits.all Unicode.isDecimal
    | _ => false
  | _ => false

namespace CommandSpec

variable {α : Type}

/-- 名前のとおりのオプション。 -/
def find? (c : CommandSpec α) (name : Text) : Option (OptionSpec α) :=
  c.options.find? fun o => o.names.any (·.toList == name)

/-- 名前が条件を満たすものを、書かれた順に並べる。 -/
def namesWhere (c : CommandSpec α) (test : Text → Bool) (attached : Attached) :
    List (String × Word α) :=
  c.options.flatMap fun o =>
    (o.names.filter fun name => test name.toList).map fun name => (name, .option o attached)

/-- 語が指しているかもしれないオプション。 -/
def candidates (c : CommandSpec α) (word : Text) : List (String × Word α) :=
  if word.take 2 == ['-', '-'] then
    let (name, value) := splitAssignment word
    c.namesWhere (fun full => name.isPrefixOf full) (value.elim .nothing .assigned)
  else c.namesWhere (· == word.take 2) (.glued (word.drop 2))

/-- `=` の前が名前のとおりのオプション。 -/
def assignment? (c : CommandSpec α) (word : Text) : Option (Word α) :=
  match splitAssignment word with
  | (name, some value) => (c.find? name).map fun o => .option o (.assigned value)
  | (_, none) => none

/-- `-` で始まる二文字以上の語を、名前の先頭や続け書きとして見分ける。 -/
def guess (c : CommandSpec α) (word : Text) : Except UsageError (Word α) :=
  match c.candidates word with
  | [] => .ok (if looksNegative word || word.contains ' ' then .argument else .stray)
  | [(_, w)] => .ok w
  | several => .error (.ambiguous word (several.map (·.1)))

/-- 語を見分ける。 -/
def classify (c : CommandSpec α) (word : Text) : Except UsageError (Word α) :=
  if word.head? != some '-' then .ok .argument
  else
    match c.find? word with
    | some o => .ok (.option o .nothing)
    | none =>
      if word.length == 1 then .ok .argument
      else
        match c.assignment? word with
        | some w => .ok w
        | none => c.guess word

/-- すべての語を見分ける。 -/
def classifyAll (c : CommandSpec α) : List Text → Except UsageError (List (Text × Word α))
  | [] => .ok []
  | word :: rest =>
    if word == ['-', '-'] then .ok ((word, .divider) :: rest.map fun w => (w, .argument))
    else
      match c.classify word with
      | .error e => .error e
      | .ok w =>
        match classifyAll c rest with
        | .error e => .error e
        | .ok ws => .ok ((word, w) :: ws)

end CommandSpec

/-! ## 続け書きをほどく -/

/-- 続け書きの最後。 -/
inductive BundleEnd (α : Type) where
  /-- 続くものがない。 -/
  | bare (o : OptionSpec α)
  | filled (o : OptionSpec α) (value : Text)
  /-- 知らない名前。 -/
  | stray (word : Text)

/-- 一つの語にまとめて書かれたオプション。 -/
structure Bundle (α : Type) where
  /-- 最後の一つより前のもの。値を取らない。 -/
  leading : List (OptionSpec α) := []
  last : BundleEnd α

namespace Bundle

variable {α : Type}

/-- 先頭に一つ加える。 -/
def push (o : OptionSpec α) (b : Bundle α) : Bundle α := { b with leading := o :: b.leading }

/-- `=` で値を与えたもの。 -/
def ofAssigned (o : OptionSpec α) (value : Text) : Except UsageError (Bundle α) :=
  if o.takesValue then .ok { last := .filled o value }
  else .error (.valueIgnored o.names value)

/-- 短い名前に続けて書いたもの。 -/
def ofGlued (c : CommandSpec α) (o : OptionSpec α) : Text → Except UsageError (Bundle α)
  | [] => .ok { last := .bare o }
  | x :: rest =>
    if o.takesValue then .ok { last := .filled o (x :: rest) }
    else if x == '-' then .error (.valueIgnored o.names (x :: rest))
    else
      match c.find? ['-', x] with
      | none => .ok { leading := [o], last := .stray ('-' :: x :: rest) }
      | some next =>
        match rest with
        | '=' :: value => (ofAssigned next value).map (push o)
        | _ => (ofGlued c next rest).map (push o)

/-- オプションの語をほどく。 -/
def ofWord (c : CommandSpec α) (o : OptionSpec α) : Attached → Except UsageError (Bundle α)
  | .nothing => .ok { last := .bare o }
  | .assigned value => ofAssigned o value
  | .glued text => ofGlued c o text

end Bundle

/-! ## 働かせる -/

/-- オプションを働かせる。値を取らないものは `value` を見ない。 -/
def OptionSpec.perform {α : Type} (o : OptionSpec α) (value : Text) (settings : α) :
    Except Halt α :=
  match o.action with
  | .help => .error .help
  | .version => .error .version
  | .mark set => .ok (set settings)
  | .store _ kind read =>
    match read value with
    | some set => .ok (set settings)
    | none => .error (.misuse (.valueInvalid o.names kind value))

/-- 読み取りの途中。 -/
structure Reading (α : Type) where
  settings : α
  /-- まだ書かれていない引数。 -/
  pending : Option (ArgumentSpec α)
  /-- 行き場のない語。 -/
  extras : List Text := []

namespace Reading

variable {α : Type}

/-- 行き場のない語を加える。 -/
def refuse (r : Reading α) (word : Text) : Reading α := { r with extras := r.extras ++ [word] }

/-- 引数を埋める。 -/
def fill (r : Reading α) (a : ArgumentSpec α) (word : Text) : Reading α :=
  { r with settings := a.set word r.settings, pending := none }

/-- 値を取らないオプションを順に働かせる。 -/
def performEach (r : Reading α) : List (OptionSpec α) → Except Halt (Reading α)
  | [] => .ok r
  | o :: rest =>
    match o.perform [] r.settings with
    | .error h => .error h
    | .ok settings => performEach { r with settings } rest

/-- 前のものを働かせてから、最後のものを働かせる。 -/
def performWith (r : Reading α) (leading : List (OptionSpec α)) (o : OptionSpec α)
    (value : Text) : Except Halt (Reading α) :=
  match r.performEach leading with
  | .error h => .error h
  | .ok r => (o.perform value r.settings).map fun settings => { r with settings }

end Reading

namespace CommandSpec

variable {α : Type}

/-- 見分けた語を左から順に読む。引数を埋めた語のすぐ後の区切りは、その語と一緒に読む。 -/
def readWords (c : CommandSpec α) : List (Text × Word α) → Reading α → Except Halt (Reading α)
  | [], r => .ok r
  | (word, .argument) :: rest, r =>
    match r.pending with
    | none => readWords c rest (r.refuse word)
    | some a =>
      match rest with
      | (_, .divider) :: rest => readWords c rest (r.fill a word)
      | rest => readWords c rest (r.fill a word)
  | (word, .divider) :: rest, r =>
    match r.pending, rest with
    | some a, (next, _) :: rest => readWords c rest (r.fill a next)
    | _, rest => readWords c rest (r.refuse word)
  | (word, .stray) :: rest, r => readWords c rest (r.refuse word)
  | (_, .option o attached) :: rest, r =>
    match Bundle.ofWord c o attached with
    | .error e => .error (.misuse e)
    | .ok ⟨leading, .stray word⟩ =>
      match r.performEach leading with
      | .error h => .error h
      | .ok r => readWords c rest (r.refuse word)
    | .ok ⟨leading, .filled o value⟩ =>
      match r.performWith leading o value with
      | .error h => .error h
      | .ok r => readWords c rest r
    | .ok ⟨leading, .bare o⟩ =>
      if o.takesValue then
        match rest with
        | (value, .argument) :: rest =>
          match r.performWith leading o value with
          | .error h => .error h
          | .ok r => readWords c rest r
        | _ => .error (.misuse (.valueMissing o.names))
      else
        match r.performWith leading o [] with
        | .error h => .error h
        | .ok r => readWords c rest r

/-- 読み残しがないことを確かめる。 -/
def finish (r : Reading α) : Except Halt α :=
  match r.pending with
  | some a => .error (.misuse (.argumentMissing a.name))
  | none => if r.extras.isEmpty then .ok r.settings else .error (.misuse (.unrecognized r.extras))

/-- 語の列から設定を読む。 -/
def read (c : CommandSpec α) (words : List Text) : Except Halt α :=
  match c.classifyAll words with
  | .error e => .error (.misuse e)
  | .ok ws =>
    match c.readWords ws ⟨c.initial, c.argument, []⟩ with
    | .error h => .error h
    | .ok r => finish r

end CommandSpec

end Tategaki.Command
