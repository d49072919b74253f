import Tategaki.Number.Numeral
import Tategaki.Regex.Basic
import Tategaki.Regex.Error
import Tategaki.Unicode.Identifier

/-!
# 正規表現の読み取り

式の文字列を構文木にする。文字列は一字ずつ、または逆斜線とその次の一字の組として読む。
読み手は一つ先の字句を持っていて、字句を取るたびに次を用意する。末尾の逆斜線の誤りは、
その一つ前の字句を取ったときに見つかる。

## 部品

列の要素（`Piece`）は、木のほかに幅と種類を持つ。幅は後ろを見る条件の検査に、種類は
繰り返しの検査に使う。名前も指定もない組は、列が終わったときに周りの列へ溶け込む。

## 選択の整理

選択肢がすべて同じ葉で始まれば、その葉を選択の前へ出す。残りがすべて一文字の条件なら、選択を
文字の集まりにまとめる。

## 燃料

再帰の深さは字句の個数の定数倍で抑えられる。
-/

namespace Tategaki.Regex

open Unicode

/-! ## 字句 -/

/-- 字句。一字か、逆斜線の付いた一字。 -/
inductive Token where
  | plain (c : Char)
  | escaped (c : Char)
  deriving DecidableEq, Repr

namespace Token

/-- 字句の文字。 -/
def chars : Token → Text
  | plain c => [c]
  | escaped c => ['\\', c]

/-- 字句の長さ。 -/
def length (t : Token) : Nat := t.chars.length

/-- 逆斜線のない字で、条件を満たすか。 -/
def isPlain (p : Char → Bool) : Token → Bool
  | plain c => p c
  | escaped _ => false

end Token

/-- 字句の読み手。`rest` は用意した字句より後ろ、`index` はそこまでの文字数。 -/
structure Source where
  rest : Text
  index : Nat
  next : Option Token
  deriving Repr

namespace Source

/-- 用意した字句の位置。 -/
def position (s : Source) : Nat :=
  s.index - match s.next with
    | some t => t.length
    | none => 0

/-- 次の字句を用意する。 -/
def advance (s : Source) : Except Fault Source :=
  match s.rest with
  | [] => .ok { s with next := none }
  | ['\\'] => .error (.rejected .trailingEscape (some s.index))
  | '\\' :: c :: rest => .ok ⟨rest, s.index + 2, some (.escaped c)⟩
  | c :: rest => .ok ⟨rest, s.index + 1, some (.plain c)⟩

end Source

/-! ## 読み手の状態 -/

/-- 幅。 -/
structure Width where
  low : Nat
  high : Nat
  deriving DecidableEq, Repr

/-- 幅の上限。 -/
def maxWidth : Nat := 0x10000000000000000

namespace Width

/-- 並べた幅。 -/
def add (a b : Width) : Width := ⟨a.low + b.low, a.high + b.high⟩

/-- 選択の幅。 -/
def join (a b : Width) : Width := ⟨min a.low b.low, max a.high b.high⟩

/-- 上限で切る。 -/
def capped (w : Width) : Width := ⟨min w.low maxWidth, min w.high maxWidth⟩

/-- 繰り返しの幅。 -/
def repeated (w : Width) (least : Nat) : Option Nat → Width
  | some most => ⟨w.low * least, w.high * most⟩
  | none => ⟨w.low * least, if w.high == 0 then 0 else maxWidth⟩

end Width

/-- 読み取りの状態。 -/
structure ReadState where
  source : Source
  /-- 式全体に掛かる指定。 -/
  flags : Flags
  /-- 組の幅。閉じていない組は `none`。最初の要素は式全体を表す。 -/
  groups : List (Option Width)
  /-- 組の名前と番号。 -/
  names : List (Text × Nat)
  /-- 後ろを見る条件を読んでいる間、その始まりでの組の個数。 -/
  lookbehindGroups : Option Nat
  /-- 条件に現れた組の番号と、その位置。 -/
  references : List (Nat × Nat)

/-- 状態を持ち回る読み手。 -/
abbrev Read (α : Type) := StateT ReadState (Except Fault) α

namespace Read

/-- 失敗する。 -/
def fault {α : Type} (f : Fault) : Read α := fun _ => .error f

/-- 用意した字句の位置から `back` だけ戻ったところを指して失敗する。 -/
def fail {α : Type} (kind : ErrorKind) (back : Nat) : Read α := fun s =>
  .error (.rejected kind (some (s.source.position - back)))

/-- 用意した字句。 -/
def peek : Read (Option Token) := do return (← get).source.next

/-- 用意した字句の位置。 -/
def position : Read Nat := do return (← get).source.position

/-- 字句を取る。 -/
def take : Read (Option Token) := fun s =>
  match s.source.advance with
  | .ok source => .ok (s.source.next, { s with source })
  | .error f => .error f

/-- 用意した字句が `c` なら取る。 -/
def accept (c : Char) : Read Bool := do
  if (← peek) == some (.plain c) then
    let _ ← take
    return true
  else return false

/-- 条件を満たす字を、多くても `count` 個まで取る。 -/
def takeUpTo (p : Char → Bool) : Nat → Read Text
  | 0 => return []
  | count + 1 => do
    match ← peek with
    | some (.plain c) =>
      if p c then
        let _ ← take
        let rest ← takeUpTo p count
        return c :: rest
      else return []
    | _ => return []

/-- 残りの文字数。繰り返しの回数の目安にする。 -/
def remaining : Read Nat := do return (← get).source.rest.length + 2

/-- 条件を満たす字を続くだけ取る。 -/
def takeAll (p : Char → Bool) : Read Text := do takeUpTo p (← remaining)

/-- 終わりの印までの名前を読む。 -/
def nameLoop (terminator : Char) (what : String) : Nat → Text → Read Text
  | 0, _ => fail (.missingName what) 0
  | fuel + 1, taken => do
    match ← take with
    | none =>
      if taken.isEmpty then fail (.missingName what) 0
      else fail (.unterminatedName terminator) taken.length
    | some t =>
      if t == .plain terminator then
        if taken.isEmpty then fail (.missingName what) 1 else return taken
      else nameLoop terminator what fuel (taken ++ t.chars)

/-- 終わりの印までの名前を読む。空の名前は誤りである。 -/
def name (terminator : Char) (what : String) : Read Text := do
  nameLoop terminator what (← remaining) []

/-- 組の名前の形を確かめる。 -/
def checkName (s : Text) : Read Unit :=
  if isName s then return () else fail (.badGroupName s) (s.length + 1)

end Read

open Read

/-! ## 組 -/

/-- 組の番号の上限。 -/
def maxGroups : Nat := 1073741823

/-- 組を開く。 -/
def openGroup (label : Option Text) : Read Nat := do
  let s ← get
  let number := s.groups.length
  match label with
  | none =>
    set { s with groups := s.groups ++ [none] }
    return number
  | some label =>
    match s.names.find? (·.1 == label) with
    | some earlier => fail (.redefinedGroup label number earlier.2) (label.length + 1)
    | none =>
      set { s with groups := s.groups ++ [none], names := s.names ++ [(label, number)] }
      return number

/-- 組を閉じて幅を記す。 -/
def closeGroup (number : Nat) (w : Width) : Read Unit :=
  modify fun s => { s with groups := s.groups.set number (some w) }

/-- 開いた組の個数。式全体も数える。 -/
def groupCount : Read Nat := do return (← get).groups.length

/-- 閉じた組の幅。 -/
def groupWidth (number : Nat) : Read (Option Width) := do
  return ((← get).groups[number]?).join

/-- 名前の付いた組の番号。 -/
def findName (label : Text) : Read (Option Nat) := do
  return ((← get).names.find? (·.1 == label)).map (·.2)

/-- 式全体に掛かる指定。 -/
def wholeFlags : Read Flags := do return (← get).flags

/-- 後ろを見る条件を読んでいる間、その始まりでの組の個数。 -/
def lookbehindStart : Read (Option Nat) := do return (← get).lookbehindGroups

/-- 後ろを見る条件の中から指せる組か。 -/
def checkLookbehind (number : Nat) : Read Unit := do
  match ← lookbehindStart with
  | none => return ()
  | some before =>
    if (← groupWidth number).isNone then fail .openGroup 0
    else if before ≤ number then fail .sameLookbehind 0
    else return ()

/-! ## 部品 -/

mutual

/-- 部品の種類。 -/
inductive PieceKind where
  | other
  | anchor
  | repetition
  /-- 指定の付いた組。中身が一文字の条件でも、葉とは見なさない。 -/
  | scoped
  /-- 名前も指定もない組。列が終わると中身が溶け込む。 -/
  | plainGroup (content : List Piece)

/-- 列の要素。 -/
inductive Piece where
  | mk (expr : Expr) (width : Width) (kind : PieceKind)

end

namespace Piece

/-- 木。 -/
def expr : Piece → Expr
  | mk e _ _ => e

/-- 幅。 -/
def width : Piece → Width
  | mk _ w _ => w

/-- 種類。 -/
def kind : Piece → PieceKind
  | mk _ _ k => k

/-- 一文字の条件の部品。 -/
def ofTest (t : CharTest) : Piece := mk (.test t) ⟨1, 1⟩ .other

/-- 位置の条件の部品。 -/
def ofAnchor (a : Anchor) : Piece := mk (.anchor a) ⟨0, 0⟩ .anchor

/-- 部品を並べた木。 -/
def exprOf : List Piece → Expr
  | [] => .empty
  | [p] => p.expr
  | p :: rest => .seq p.expr (exprOf rest)

/-- 部品を並べた幅。 -/
def widthOf (pieces : List Piece) : Width :=
  (pieces.foldl (fun (w : Width) p => w.add p.width) ⟨0, 0⟩).capped

/-- 中身の溶け込む組を開く。 -/
def flatten (pieces : List Piece) : List Piece :=
  pieces.flatMap fun p =>
    match p.kind with
    | .plainGroup content => content
    | _ => [p]

/-- 選択の頭として比べられる葉。 -/
def leaf? (p : Piece) : Option Expr :=
  match p.kind, p.expr with
  | .scoped, _ => none
  | _, .test t => some (.test t)
  | _, .anchor a => some (.anchor a)
  | _, .backref n f => some (.backref n f)
  | _, _ => none

/-- 集まりにまとめられる一文字の条件なら、その要素と大文字小文字の扱い。 -/
def setItems? (p : Piece) : Option (List SetItem × Folding) :=
  match p.kind, p.expr with
  | .scoped, _ => none
  | _, .test (.one false code f) => some ([.one code], f)
  | _, .test (.set false items f) => some (items, f)
  | _, _ => none

/-- すべての選択肢に共通の頭。 -/
def commonHead? : List (List Piece) → Option Piece
  | [] => none
  | [] :: _ => none
  | (p :: _) :: others =>
    match p.leaf? with
    | none => none
    | some e =>
      if others.all fun pieces => (pieces.head?.bind leaf?) == some e then some p else none

/-- 共通の頭を前へ出す。 -/
def factor : Nat → List (List Piece) → List Piece × List (List Piece)
  | 0, items => ([], items)
  | fuel + 1, items =>
    match commonHead? items with
    | none => ([], items)
    | some p =>
      let (heads, rest) := factor fuel (items.map (·.drop 1))
      (p :: heads, rest)

/-- すべてが一文字の条件なら、一つの集まりにまとめる。 -/
def mergeSets? (items : List (List Piece)) : Option Piece := do
  let parts ← items.mapM fun pieces =>
    match pieces with
    | [p] => p.setItems?
    | _ => none
  let (_, f) ← parts.head?
  some (ofTest (.set false (parts.flatMap (·.1)).eraseDups f))

/-- 選択の木。 -/
def branches : List (List Piece) → Expr
  | [] => .empty
  | [pieces] => exprOf pieces
  | pieces :: rest => .alt (exprOf pieces) (branches rest)

/-- 選択肢の列から、選択を表す部品の列を作る。 -/
def choose (items : List (List Piece)) : List Piece :=
  match items with
  | [only] => only
  | _ =>
    let (heads, rest) := factor ((items.map List.length).foldl max 0) items
    let body := match mergeSets? rest with
      | some p => p
      | none =>
        let widths := rest.map widthOf
        let w := widths.tail.foldl Width.join (widths.headD ⟨0, 0⟩)
        mk (branches rest) w .other
    heads ++ [body]

end Piece

/-! ## 逆斜線 -/

/-- 16 進の数字か。 -/
def isHexDigit (c : Char) : Bool := (Json.hexValue c).isSome

/-- 八進の数字か。 -/
def isOctalDigit (c : Char) : Bool := '0' ≤ c && c ≤ '7'

/-- 16 進の数字の列の値。 -/
def hexNumber (s : Text) : Nat := s.foldl (fun n c => 16 * n + (Json.hexValue c).getD 0) 0

/-- 八進の数字の列の値。 -/
def octalNumber (s : Text) : Nat := s.foldl (fun n c => 8 * n + (c.toNat - 0x30)) 0

/-- 一文字の略記が表す文字の番号。 -/
def controlEscape : Char → Option Nat
  | 'a' => some 0x07
  | 'b' => some 0x08
  | 'f' => some 0x0C
  | 'n' => some 0x0A
  | 'r' => some 0x0D
  | 't' => some 0x09
  | 'v' => some 0x0B
  | '\\' => some 0x5C
  | _ => none

/-- 分類の略記。 -/
def categoryEscape (ascii : Bool) : Char → Option Category
  | 'd' => some ⟨.digit, false, ascii⟩
  | 'D' => some ⟨.digit, true, ascii⟩
  | 's' => some ⟨.space, false, ascii⟩
  | 'S' => some ⟨.space, true, ascii⟩
  | 'w' => some ⟨.word, false, ascii⟩
  | 'W' => some ⟨.word, true, ascii⟩
  | _ => none

/-- 決まった桁数の 16 進の番号。 -/
def fixedHex (c : Char) (count : Nat) : Read Nat := do
  let digits ← takeUpTo isHexDigit count
  if digits.length != count then
    fail (.incompleteEscape ('\\' :: c :: digits)) (digits.length + 2)
  else return hexNumber digits

/-- 番号で書かれた文字。番号の形でなければ `none`。 -/
def numericEscape (c : Char) : Read (Option Nat) :=
  match c with
  | 'x' => return some (← fixedHex c 2)
  | 'u' => return some (← fixedHex c 4)
  | 'U' => do
    let digits ← takeUpTo isHexDigit 8
    let shown := '\\' :: c :: digits
    if digits.length != 8 then fail (.incompleteEscape shown) shown.length
    else if 0x10FFFF < hexNumber digits then fail (.badEscape shown) shown.length
    else return some (hexNumber digits)
  | 'N' => do
    if !(← accept '{') then fail .missingBrace 0
    else
      let label ← name '}' "character name"
      fail (.unknownCharacter label) (label.length + 4)
  | _ => return none

/-- 決まった意味のない逆斜線。英字と数字は誤り、それ以外はその字を表す。 -/
def literalEscape (c : Char) : Read Nat :=
  if c.isAlphanum then fail (.badEscape ['\\', c]) 2 else return c.toNat

/-- 集まりの中の要素。一文字か分類。 -/
inductive SetAtom where
  | code (n : Nat)
  | category (c : Category)

/-- 要素を集まりに入れる形。 -/
def SetAtom.item : SetAtom → SetItem
  | code n => .one n
  | category c => .category c

/-- 集まりの中の逆斜線。 -/
def readSetEscape (flags : Flags) (c : Char) : Read SetAtom := do
  match controlEscape c with
  | some n => return .code n
  | none =>
    match categoryEscape flags.ascii c with
    | some category => return .category category
    | none =>
      match ← numericEscape c with
      | some n => return .code n
      | none =>
        if isOctalDigit c then
          let digits := c :: (← takeUpTo isOctalDigit 2)
          if 0o377 < octalNumber digits then
            fail (.octalRange ('\\' :: digits)) (digits.length + 1)
          else return .code (octalNumber digits)
        else return .code (← literalEscape c)

/-- 位置の条件の略記。 -/
def anchorEscape (flags : Flags) : Char → Option Anchor
  | 'A' => some .textStart
  | 'b' => some (.boundary false flags.ascii)
  | 'B' => some (.boundary true flags.ascii)
  | 'Z' => some .veryEnd
  | _ => none

/-- 一つの文字の部品。 -/
def literalPiece (flags : Flags) (code : Nat) : Piece :=
  .ofTest (.one false code flags.folding)

/-- 閉じた組への参照。 -/
def backreference (flags : Flags) (number back : Nat) : Read Piece := do
  match ← groupWidth number with
  | none => fail .openGroup back
  | some w =>
    checkLookbehind number
    return .mk (.backref number flags.folding) w .other

/-- 八進の番号の三桁目。前の二桁が八進の数字なら読む。 -/
def thirdDigit (c : Char) (second : Text) : Read Text :=
  match second with
  | [d] => if isOctalDigit c && isOctalDigit d then takeUpTo isOctalDigit 1 else return []
  | _ => return []

/-- 組への参照か、八進の番号。 -/
def readReference (flags : Flags) (c : Char) : Read Piece := do
  let second ← takeUpTo Char.isDigit 1
  let third ← thirdDigit c second
  let digits := c :: second ++ third
  if !third.isEmpty then
    if 0o377 < octalNumber digits then fail (.octalRange ('\\' :: digits)) 4
    else return literalPiece flags (octalNumber digits)
  else
    let number := Json.naturalOf digits
    if number < (← groupCount) then backreference flags number (digits.length + 1)
    else fail (.invalidReference number) digits.length

/-- 集まりの外の逆斜線。 -/
def readEscape (flags : Flags) (c : Char) : Read Piece := do
  match anchorEscape flags c, categoryEscape flags.ascii c, controlEscape c with
  | some a, _, _ => return .ofAnchor a
  | none, some category, _ =>
    return .ofTest (.set false [.category category] flags.folding)
  | none, none, some n => return literalPiece flags n
  | none, none, none =>
    match ← numericEscape c with
    | some n => return literalPiece flags n
    | none =>
      if c == '0' then
        let digits ← takeUpTo isOctalDigit 2
        return literalPiece flags (octalNumber digits)
      else if c.isDigit then readReference flags c
      else return literalPiece flags (← literalEscape c)

/-! ## 文字の集まり -/

/-- 字句が表す集まりの要素。 -/
def readSetAtom (flags : Flags) (t : Token) : Read SetAtom :=
  match t with
  | .escaped c => readSetEscape flags c
  | .plain c => return .code c.toNat

/-- 集まりの残りを読む。`start` は開きの括弧の位置。 -/
def setLoop (flags : Flags) (start : Nat) : Nat → List SetItem → Read (List SetItem)
  | 0, _ => do fail .unterminatedSet ((← position) - start)
  | fuel + 1, items => do
    match ← take with
    | none => fail .unterminatedSet ((← position) - start)
    | some this =>
      if this == .plain ']' && !items.isEmpty then return items
      else
        let first ← readSetAtom flags this
        if ← accept '-' then
          match ← take with
          | none => fail .unterminatedSet ((← position) - start)
          | some that =>
            if that == .plain ']' then return items ++ [first.item, .one 0x2D]
            else
              let last ← readSetAtom flags that
              let bad : ErrorKind := .badRange this.chars that.chars
              let back := this.length + 1 + that.length
              match first, last with
              | .code a, .code b =>
                if b < a then fail bad back
                else setLoop flags start fuel (items ++ [.span a b])
              | _, _ => fail bad back
        else setLoop flags start fuel (items ++ [first.item])

/-- 開きの括弧の後ろから集まりを読む。 -/
def readSet (flags : Flags) : Read Piece := do
  let start := (← position) - 1
  let negated ← accept '^'
  let items := (← setLoop flags start (← remaining) []).eraseDups
  match items with
  | [.one code] => return .ofTest (.one negated code flags.folding)
  | _ => return .ofTest (.set negated items flags.folding)

/-! ## 繰り返し -/

/-- 繰り返し回数の上限。これ以上は書けない。 -/
def maxRepeat : Nat := 4294967295

/-- 回数として書かれた数。 -/
def readCount (digits : Text) : Read Nat :=
  if Json.maxIntegerDigits < digits.length then fault (.tooManyDigits digits.length)
  else if maxRepeat ≤ Json.naturalOf digits then fault .hugeRepeat
  else return Json.naturalOf digits

/-- 上限の数字。読点がなければ、下限と同じである。 -/
def readMost (low : Text) : Read Text := do
  if ← accept ',' then takeAll Char.isDigit else return low

/-- 下限。書かれていなければ零である。 -/
def leastCount (low : Text) : Read Nat := if low.isEmpty then return 0 else readCount low

/-- 読み取れなければ、字句を元の位置に戻す。 -/
def attempt {α : Type} (r : Read (Option α)) : Read (Option α) := do
  let saved := (← get).source
  match ← r with
  | some a => return some a
  | none =>
    modify fun s => { s with source := saved }
    return none

/-- 閉じの波括弧までの、下限と上限の数字。 -/
def readRange : Read (Option (Text × Text)) := do
  let low ← takeAll Char.isDigit
  let high ← readMost low
  if ← accept '}' then return some (low, high) else return none

/-- 数字から回数を読む。`here` は開きの波括弧の後ろの位置。 -/
def readCounts (here : Nat) (low high : Text) : Read (Nat × Option Nat) := do
  let least ← leastCount low
  if high.isEmpty then return (least, none)
  else
    let most ← readCount high
    if most < least then fail .minOverMax ((← position) - here)
    else return (least, some most)

/-- 波括弧で書かれた回数。回数の形でなければ `none` とする。 -/
def readBounds : Read (Option (Nat × Option Nat)) := do
  let here ← position
  if (← peek) == some (.plain '}') then return none
  else
    match ← attempt readRange with
    | none => return none
    | some (low, high) => return some (← readCounts here low high)

/-- 繰り返しの向きの印を読む。 -/
def readLoop (least : Nat) (most : Option Nat) (body : Expr) : Read Expr := do
  if ← accept '?' then return .loop false least most body
  else if ← accept '+' then return .atomic (.loop true least most (.atomic body))
  else return .loop true least most body

/-- 繰り返せる部品なら、その木と幅。 -/
def Piece.repeatable (p : Piece) : Except ErrorKind (Expr × Width) :=
  match p.kind with
  | .anchor => .error .nothingToRepeat
  | .repetition => .error .multipleRepeat
  | .plainGroup content => .ok (exprOf content, widthOf content)
  | .other | .scoped => .ok (p.expr, p.width.capped)

/-- 直前の部品を繰り返しに替える。`mark` は回数の印の位置。 -/
def repeatLast (mark : Nat) (least : Nat) (most : Option Nat) (taken : List Piece) :
    Read (List Piece) := do
  let back := (← position) - mark
  match taken with
  | [] => fail .nothingToRepeat back
  | last :: earlier =>
    match last.repeatable with
    | .error kind => fail kind back
    | .ok (body, w) =>
      return .mk (← readLoop least most body) (w.repeated least most) .repetition :: earlier

/-! ## 指定 -/

/-- 指定の文字。`L` は読めるが使えない。 -/
def flagOf : Char → Option Flags
  | 'i' => some { ignoreCase := true }
  | 'm' => some { multiline := true }
  | 's' => some { dotAll := true }
  | 'x' => some { verbose := true }
  | 'a' => some { ascii := true }
  | 'u' => some { unicode := true }
  | 't' => some { template := true }
  | _ => none

/-- 指定の文字か。 -/
def isFlag (c : Char) : Bool := (flagOf c).isSome || c == 'L'

/-- 指定でない字句に出会ったときの失敗。 -/
def flagFailure {α : Type} (t : Token) (otherwise : ErrorKind) : Read α :=
  fail (if t.isPlain isLetter then .unknownFlag else otherwise) t.length

/-- 加える指定を読む。読み終えた区切りの字も返す。 -/
def addedFlags : Nat → Char → Flags → Read (Flags × Char)
  | 0, _, _ => fail .missingFlagEnd 0
  | fuel + 1, c, added => do
    match flagOf c with
    | none => fail .localeFlag 0
    | some flag =>
      let added := added.union flag
      if (flag.ascii || flag.unicode) && added.ascii && added.unicode then
        fail .clashingTypeFlags 0
      else
        match ← take with
        | none => fail .missingFlagEnd 0
        | some t =>
          match t with
          | .plain d =>
            if d == ')' || d == '-' || d == ':' then return (added, d)
            else if isFlag d then addedFlags fuel d added
            else flagFailure t .missingFlagEnd
          | .escaped _ => flagFailure t .missingFlagEnd

/-- 外す指定を読む。 -/
def removedFlags : Nat → Char → Flags → Read Flags
  | 0, _, _ => fail .missingColon 0
  | fuel + 1, c, removed => do
    match flagOf c with
    | none => fail .typeFlagOff 0
    | some flag =>
      if flag.ascii || flag.unicode then fail .typeFlagOff 0
      else
        let removed := removed.union flag
        match ← take with
        | none => fail .missingColon 0
        | some t =>
          match t with
          | .plain d =>
            if d == ':' then return removed
            else if isFlag d then removedFlags fuel d removed
            else flagFailure t .missingColon
          | .escaped _ => flagFailure t .missingColon

/-- 指定の組の頭で、加える指定を読む。負号から始まれば、加えるものはない。 -/
def leadingFlags (fuel : Nat) (c : Char) : Read (Flags × Char) :=
  if c == '-' then return ({}, '-') else addedFlags fuel c {}

/-- 指定の組の頭で、外す指定を読む。`mark` はその前の区切りの字である。 -/
def trailingFlags (fuel : Nat) (mark : Char) : Read Flags := do
  if mark != '-' then return {}
  else
    match ← take with
    | none => fail .missingFlag 0
    | some t =>
      match t with
      | .plain d => if isFlag d then removedFlags fuel d {} else flagFailure t .missingFlag
      | .escaped _ => flagFailure t .missingFlag

/-- 指定の組の頭。 -/
inductive FlagGroup where
  /-- 式全体に掛かる指定。 -/
  | whole
  /-- 組の中だけに掛かる指定。 -/
  | inside (added removed : Flags)

/-- 組の頭の指定を読む。`c` は最初の字。 -/
def readFlags (c : Char) : Read FlagGroup := do
  let fuel ← remaining
  let (added, mark) ← leadingFlags fuel c
  if mark == ')' then
    modify fun s => { s with flags := s.flags.union added }
    return .whole
  else if added.template then fail .globalFlagOn 1
  else
    let removed ← trailingFlags fuel mark
    if removed.template then fail .globalFlagOff 1
    else if added.meets removed then fail .flagOnAndOff 1
    else return .inside added removed

/-! ## 列と選択 -/

/-- 読み飛ばす空白か（注釈を許す書き方のとき）。 -/
def isVerboseBlank (c : Char) : Bool :=
  c == ' ' || c == '\t' || c == '\n' || c == '\r' || c == '\x0b' || c == '\x0c'

/-- 改行まで飛ばす。 -/
def skipLine : Nat → Read Unit
  | 0 => return ()
  | fuel + 1 => do
    match ← take with
    | none => return ()
    | some t => if t == .plain '\n' then return () else skipLine fuel

/-- 行末までの注釈を飛ばす。 -/
def skipLineComment : Read Unit := do skipLine (← remaining)

/-- 括弧の注釈を飛ばす。`start` は開きの括弧の位置。 -/
def skipComment (start : Nat) : Nat → Read Unit
  | 0 => do fail .unterminatedComment ((← position) - start)
  | fuel + 1 => do
    if (← peek).isNone then fail .unterminatedComment ((← position) - start)
    else
      let t ← take
      if t == some (.plain ')') then return () else skipComment start fuel

/-- 組の閉じの括弧を読む。 -/
def closeParen (start : Nat) : Read Unit := do
  if ← accept ')' then return () else fail .unterminatedGroup ((← position) - start)

/-- 行頭の条件。 -/
def startAnchor (flags : Flags) : Anchor := if flags.multiline then .lineStart else .textStart

/-- 行末の条件。 -/
def endAnchor (flags : Flags) : Anchor := if flags.multiline then .lineEnd else .textEnd

/-- 組の名前による参照。 -/
def readNamedReference (flags : Flags) : Read Piece := do
  let label ← name ')' "group name"
  checkName label
  match ← findName label with
  | none => fail (.unknownGroup label) (label.length + 1)
  | some number => backreference flags number (label.length + 1)

/-- 条件に現れた組の番号を、その最初の位置とともに記す。 -/
def noteReference (number place : Nat) : Read Unit :=
  modify fun s =>
    if s.references.any (·.1 == number) then s
    else { s with references := s.references ++ [(number, place)] }

/-- 条件に書かれた組の番号。 -/
def readCondition : Read Nat := do
  let label ← name ')' "group name"
  let back := label.length + 1
  if isName label then
    match ← findName label with
    | none => fail (.unknownGroup label) back
    | some number =>
      checkLookbehind number
      return number
  else
    match Numeral.readInteger label with
    | none => fail (.badGroupName label) back
    | some n =>
      if n < 0 then fail (.badGroupName label) back
      else if n == 0 then fail .badGroupNumber back
      else
        let number := n.toNat
        if maxGroups ≤ number then fail (.invalidReference number) back
        else
          let at_ := (← position) - back
          noteReference number at_
          checkLookbehind number
          return number

/-- 開きの括弧の後ろに書かれた、組の種類。 -/
inductive GroupHead where
  | capture (label : Option Text)
  | plain
  | atomic
  | flagged (added removed : Flags)
  | look (behind : Bool) (negated : Bool)
  | condition
  /-- 組ではなく、すでに読み終えたもの。 -/
  | done (piece : Option Piece)
  /-- 式全体に掛かる指定を読んだ。 -/
  | wholeFlags

/-- 疑問符と `P` の後ろを読む。 -/
def readNamedHead (flags : Flags) : Read GroupHead := do
  if ← accept '<' then
    let label ← name '>' "group name"
    checkName label
    return .capture (some label)
  else if ← accept '=' then
    return .done (some (← readNamedReference flags))
  else
    match ← take with
    | none => fail .unexpectedEnd 0
    | some t => fail (.unknownExtension ('P' :: t.chars)) (t.length + 2)

/-- 疑問符の後ろを読む。`start` は開きの括弧の位置。 -/
def readExtension (flags : Flags) (start : Nat) : Read GroupHead := do
  match ← take with
  | none => fail .unexpectedEnd 0
  | some (.escaped c) => fail (.unknownExtension ['\\', c]) 3
  | some (.plain c) =>
    match c with
    | 'P' => readNamedHead flags
    | ':' => return .plain
    | '#' =>
      skipComment start (← remaining)
      return .done none
    | '=' => return .look false false
    | '!' => return .look false true
    | '<' =>
      match ← take with
      | none => fail .unexpectedEnd 0
      | some t =>
        if t == .plain '=' then return .look true false
        else if t == .plain '!' then return .look true true
        else fail (.unknownExtension ('<' :: t.chars)) (t.length + 2)
    | '(' => return .condition
    | '>' => return .atomic
    | _ =>
      if isFlag c || c == '-' then
        match ← readFlags c with
        | .whole => return .wholeFlags
        | .inside added removed => return .flagged added removed
      else fail (.unknownExtension [c]) 2

/-- 字句を一つ読んだ結果。 -/
inductive Item where
  /-- 読み飛ばした。 -/
  | nothing
  | piece (p : Piece)
  /-- 直前の部品を繰り返す。 -/
  | again (least : Nat) (most : Option Nat)
  /-- 式全体に掛かる指定。 -/
  | wholeFlags

/-- 取ったばかりの字句 `this` から始まるものを読む。`start` はその位置、`group` は組の中身の読み手である。 -/
def readItem (group : Flags → Nat → GroupHead → Read Piece) (flags : Flags) (start : Nat)
    (this : Token) : Read Item := do
  match this with
  | .escaped c => return .piece (← readEscape flags c)
  | .plain c =>
    if flags.verbose && isVerboseBlank c then return .nothing
    else if flags.verbose && c == '#' then
      skipLineComment
      return .nothing
    else
      match c with
      | '[' => return .piece (← readSet flags)
      | '.' => return .piece (.ofTest (.any flags.dotAll))
      | '^' => return .piece (.ofAnchor (startAnchor flags))
      | '$' => return .piece (.ofAnchor (endAnchor flags))
      | '*' => return .again 0 none
      | '+' => return .again 1 none
      | '?' => return .again 0 (some 1)
      | '{' =>
        match ← readBounds with
        | none => return .piece (literalPiece flags c.toNat)
        | some (least, most) => return .again least most
      | '(' =>
        if ← accept '?' then
          match ← readExtension flags start with
          | .wholeFlags => return .wholeFlags
          | .done none => return .nothing
          | .done (some piece) => return .piece piece
          | head => return .piece (← group flags start head)
        else return .piece (← group flags start (.capture none))
      | _ => return .piece (literalPiece flags c.toNat)

/-- 読んだものを部品の列に加える。これから先の指定も返す。`taken` は読んだ部品を逆順に持つ。
`first` なら式の頭で、まだ何も読んでいなければ、式全体に掛かる指定を書ける。 -/
def place (start : Nat) (flags : Flags) (first : Bool) (taken : List Piece) :
    Item → Read (Flags × List Piece)
  | .nothing => return (flags, taken)
  | .piece p => return (flags, p :: taken)
  | .again least most => return (flags, ← repeatLast start least most taken)
  | .wholeFlags => do
    let whole ← wholeFlags
    if !first || !taken.isEmpty then fail .flagsNotAtStart ((← position) - start)
    else return (whole, taken)

/-- 後ろを見る条件の中身を読む。条件が重なるときは、一番外側の始まりを覚えておく。 -/
def withLookbehind (behind : Bool) (body : Read (List Piece)) : Read (List Piece) := do
  if behind && (← lookbehindStart).isNone then
    modify fun s => { s with lookbehindGroups := some s.groups.length }
    let content ← body
    modify fun s => { s with lookbehindGroups := none }
    return content
  else body

/-- 中身を読み、続けて閉じの括弧を読む。 -/
def closed {α : Type} (start : Nat) (body : Read α) : Read α := do
  let content ← body
  closeParen start
  return content

/-- 番号の付く組を読む。`body` は中身の読み手である。 -/
def readCapture (label : Option Text) (body : Read (List Piece)) : Read Piece := do
  let number ← openGroup label
  let content ← body
  let w := Piece.widthOf content
  closeGroup number w
  return .mk (.group number (Piece.exprOf content)) w .other

/-- 組が合ったときの列と、合わなかったときの列を読む。 -/
def readBranches (branch : Read (List Piece)) :
    Read (List Piece × Option (List Piece)) := do
  let present ← branch
  if ← accept '|' then
    let absent ← branch
    if (← peek) == some (.plain '|') then fail .tooManyBranches 0
    else return (present, some absent)
  else return (present, none)

/-- 組が合ったかどうかで分かれる組を読む。`branch` は列の読み手である。 -/
def readConditional (start : Nat) (branch : Read (List Piece)) : Read Piece := do
  let number ← readCondition
  let (present, absent) ← closed start (readBranches branch)
  let w := match absent with
    | some absent => (Piece.widthOf present).join (Piece.widthOf absent)
    | none => ⟨0, (Piece.widthOf present).high⟩
  let other := Piece.exprOf (absent.getD [])
  return .mk (.ifGroup number (Piece.exprOf present) other) w .other

mutual

/-- 縦棒で区切られた選択を読む。`top` なら式の一番外側である。 -/
def readChoice : Nat → Flags → Bool → List (List Piece) → Read (List Piece)
  | 0, _, _, _ => fail .unexpectedEnd 0
  | fuel + 1, flags, top, items => do
    let item ← readSequence fuel flags (top && items.isEmpty) []
    let items := items ++ [item]
    if ← accept '|' then
      let whole ← wholeFlags
      readChoice fuel (if top then whole else flags) top items
    else return Piece.choose items

/-- 部品の列を読む。`taken` は読んだ部品を逆順に持つ。`first` なら式の頭である。 -/
def readSequence : Nat → Flags → Bool → List Piece → Read (List Piece)
  | 0, _, _, _ => fail .unexpectedEnd 0
  | fuel + 1, flags, first, taken => do
    match ← peek with
    | none => return Piece.flatten taken.reverse
    | some this =>
      if this == .plain '|' || this == .plain ')' then return Piece.flatten taken.reverse
      else
        let start ← position
        let _ ← take
        let item ← readItem (readGroup fuel) flags start this
        let (flags, taken) ← place start flags first taken item
        readSequence fuel flags first taken

/-- 組の中身と閉じの括弧を読む。 -/
def readGroup : Nat → Flags → Nat → GroupHead → Read Piece
  | 0, _, _, _ => fail .unexpectedEnd 0
  | fuel + 1, flags, start, head => do
    match head with
    | .look behind negated =>
      let body ← closed start (withLookbehind behind (readChoice fuel flags false []))
      let w := Piece.widthOf body
      let e := Piece.exprOf body
      let expr := if behind then Expr.lookBehind negated w.low w.high e else .lookAhead negated e
      return .mk expr ⟨0, 0⟩ .other
    | .condition => readConditional start (readSequence fuel flags false [])
    | .capture label => readCapture label (closed start (readChoice fuel flags false []))
    | .atomic =>
      let body ← closed start (readChoice fuel flags false [])
      return .mk (.atomic (Piece.exprOf body)) (Piece.widthOf body) .other
    | .flagged added removed =>
      let inner := (flags.adding added).removing removed
      let body ← closed start (readChoice fuel inner false [])
      return .mk (Piece.exprOf body) (Piece.widthOf body) .scoped
    | _ =>
      let body ← closed start (readChoice fuel flags false [])
      return .mk (Piece.exprOf body) (Piece.widthOf body) (.plainGroup body)

end

/-! ## 式の全体 -/

/-- 後ろを見る条件で読める幅の上限。 -/
def maxLookbehind : Nat := 4294967295

/-- 幅の定まらない後ろを見る条件を、外側から順に探す。 -/
def Expr.lookbehindFault : Expr → Option ErrorKind
  | seq a b => a.lookbehindFault.or b.lookbehindFault
  | alt a b => a.lookbehindFault.or b.lookbehindFault
  | group _ e => e.lookbehindFault
  | loop _ _ _ e => e.lookbehindFault
  | atomic e => e.lookbehindFault
  | lookAhead _ e => e.lookbehindFault
  | lookBehind _ low high e =>
    if maxLookbehind < low then some .distantLookbehind
    else if low != high then some .variableLookbehind
    else e.lookbehindFault
  | ifGroup _ a b => a.lookbehindFault.or b.lookbehindFault
  | _ => none

/-- 雛形の指定の下では使えない繰り返しを探す。 -/
def Expr.repeatFault : Expr → Option ErrorKind
  | seq a b => a.repeatFault.or b.repeatFault
  | alt a b => a.repeatFault.or b.repeatFault
  | group _ e => e.repeatFault
  | loop greedy _ _ _ => some (.templateRepeat (if greedy then "MAX_REPEAT" else "MIN_REPEAT"))
  | atomic (loop _ _ _ (atomic _)) => some (.templateRepeat "POSSESSIVE_REPEAT")
  | atomic e => e.repeatFault
  | lookAhead _ e => e.repeatFault
  | lookBehind _ _ _ e => e.repeatFault
  | ifGroup _ a b => a.repeatFault.or b.repeatFault
  | _ => none

/-- 読み終えた式を検める。 -/
def finish (body : List Piece) : Read Pattern := do
  let s ← get
  if s.flags.ascii && s.flags.unicode then fault .clashingFlags
  else if (← peek).isSome then fail .unbalanced 0
  else
    match s.references.find? fun r => s.groups.length ≤ r.1 with
    | some (number, place) => fault (.rejected (.invalidReference number) (some place))
    | none =>
      let expr := Piece.exprOf body
      match (if s.flags.template then expr.repeatFault else none).or expr.lookbehindFault with
      | some kind => fault (.rejected kind none)
      | none => return ⟨expr, s.groups.length - 1⟩

/-- 式の文字列を読む。 -/
def compile (source : Text) (flags : Flags) : Except Fault Pattern :=
  match Source.advance ⟨source, 0, none⟩ with
  | .error f => .error f
  | .ok start =>
    let state : ReadState := ⟨start, flags, [none], [], none, []⟩
    let read : Read Pattern := do
      finish (← readChoice (4 * source.length + 8) flags true [])
    (read.run state).map (·.1)

end Tategaki.Regex
