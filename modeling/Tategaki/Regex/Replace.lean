import Tategaki.Json.Reader
import Tategaki.Regex.Matcher

/-!
# 置き換えと差し込み

合うところを左から順に置き換える。何も読まない合い方も数えるが、何も読まなかった位置では次に
何か読む合い方だけを認めるので、必ず先へ進む。

差し込みの雛形は二種類ある。`$1` は組の文字列、`{1}` は部品の文字列になる。番号はどの文字体系の
数字でもよく、続く限りの数字を取る。
-/

namespace Tategaki.Regex

/-- 置き換えを進める。`kept` は次に写す位置、`position` は次に探す位置。 -/
def Pattern.replaceLoop {ε : Type} (p : Pattern) (input : Array Char)
    (replacement : Match → Except ε Text) :
    Nat → Nat → Nat → Bool → List Text → Except ε (List Text)
  | 0, _, _, _, done => .ok done
  | fuel + 1, kept, position, advancing, done =>
    match p.search input position advancing with
    | none => .ok ((input.toList.drop kept) :: done)
    | some m =>
      match replacement m with
      | .error e => .error e
      | .ok s =>
        replaceLoop p input replacement fuel m.stop m.stop m.isEmpty
          (s :: Text.slice input.toList kept m.start :: done)

/-- 合うところをすべて置き換える。 -/
def Pattern.replaceAll {ε : Type} (p : Pattern) (text : Text)
    (replacement : Match → Except ε Text) : Except ε Text :=
  let input := text.toArray
  (p.replaceLoop input replacement (2 * input.size + 3) 0 0 false []).map fun parts =>
    parts.reverse.flatten

/-! ## 番号の差し込み -/

/-- 先頭に続く十進数字と、その後ろ。 -/
def leadingDigits (s : Text) : Text × Text := (s.takeWhile Unicode.isDecimal,
  s.dropWhile Unicode.isDecimal)

/-- 数字の列を番号として読む。桁が多すぎれば、その桁数を返して失敗する。 -/
def referenceNumber (digits : Text) : Except Nat Nat :=
  if Json.maxIntegerDigits < digits.length then .error digits.length
  else .ok (Unicode.decimalValue (digits.filterMap Unicode.digitValue))

/-- `$` と番号を、`value` の与える文字列に替える。値のない番号はそのまま残す。 -/
def fillDollars (value : Nat → Option Text) : Nat → Text → Except Nat Text
  | 0, s => .ok s
  | _ + 1, [] => .ok []
  | fuel + 1, c :: rest => do
    let (digits, after) := leadingDigits rest
    if c == '$' && !digits.isEmpty then
      let number ← referenceNumber digits
      let tail ← fillDollars value fuel after
      return (value number).getD (c :: digits) ++ tail
    else return c :: (← fillDollars value fuel rest)

/-- 波括弧の中の番号を、`value` の与える文字列に替える。 -/
def fillBraces (value : Nat → Text) : Nat → Text → Except Nat Text
  | 0, s => .ok s
  | _ + 1, [] => .ok []
  | fuel + 1, c :: rest => do
    let (digits, after) := leadingDigits rest
    if c == '{' && !digits.isEmpty && after.head? == some '}' then
      let number ← referenceNumber digits
      return value number ++ (← fillBraces value fuel (after.drop 1))
    else return c :: (← fillBraces value fuel rest)

end Tategaki.Regex
