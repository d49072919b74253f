import Tategaki.Text.Basic
import Tategaki.Text.Quoted
import Tategaki.Json.Reader

/-!
# 正規表現の誤り

読み取りで見つかる誤りの種類と、その文面。多くは位置を伴い、式が改行を含むときは行と桁も添える。
指定の食い違いと、大きすぎる繰り返し回数は、式の誤りとは別の失敗である。
-/

namespace Tategaki.Regex

/-- 誤りの種類。 -/
inductive ErrorKind where
  | badEscape (shown : Text)
  | trailingEscape
  | incompleteEscape (shown : Text)
  | octalRange (shown : Text)
  | missingBrace
  | missingName (what : String)
  | unterminatedName (terminator : Char)
  | unknownCharacter (name : Text)
  | badGroupName (name : Text)
  | unknownGroup (name : Text)
  | redefinedGroup (name : Text) (number earlier : Nat)
  | openGroup
  | sameLookbehind
  | invalidReference (number : Nat)
  | badGroupNumber
  | unterminatedSet
  | badRange (first last : Text)
  | nothingToRepeat
  | multipleRepeat
  | minOverMax
  | unexpectedEnd
  | unknownExtension (shown : Text)
  | unterminatedComment
  | unterminatedGroup
  | tooManyBranches
  | flagsNotAtStart
  | localeFlag
  | clashingTypeFlags
  | missingFlagEnd
  | unknownFlag
  | missingFlag
  | missingColon
  | globalFlagOn
  | typeFlagOff
  | globalFlagOff
  | flagOnAndOff
  | unbalanced
  | variableLookbehind
  | distantLookbehind
  | templateRepeat (name : String)
  deriving DecidableEq, Repr

/-- 誤りの文面（位置を除く）。 -/
def ErrorKind.text : ErrorKind → String
  | badEscape shown => "bad escape " ++ String.ofList shown
  | trailingEscape => "bad escape (end of pattern)"
  | incompleteEscape shown => "incomplete escape " ++ String.ofList shown
  | octalRange shown =>
    "octal escape value " ++ String.ofList shown ++ " outside of range 0-0o377"
  | missingBrace => "missing \x7b"
  | missingName what => "missing " ++ what
  | unterminatedName terminator =>
    "missing " ++ String.ofList [terminator] ++ ", unterminated name"
  | unknownCharacter name => "undefined character name " ++ String.ofList (Text.quoted name)
  | badGroupName name => "bad character in group name " ++ String.ofList (Text.quoted name)
  | unknownGroup name => "unknown group name " ++ String.ofList (Text.quoted name)
  | redefinedGroup name number earlier =>
    "redefinition of group name " ++ String.ofList (Text.quoted name)
      ++ s!" as group {number}; was group {earlier}"
  | openGroup => "cannot refer to an open group"
  | sameLookbehind => "cannot refer to group defined in the same lookbehind subpattern"
  | invalidReference number => s!"invalid group reference {number}"
  | badGroupNumber => "bad group number"
  | unterminatedSet => "unterminated character set"
  | badRange first last =>
    "bad character range " ++ String.ofList first ++ "-" ++ String.ofList last
  | nothingToRepeat => "nothing to repeat"
  | multipleRepeat => "multiple repeat"
  | minOverMax => "min repeat greater than max repeat"
  | unexpectedEnd => "unexpected end of pattern"
  | unknownExtension shown => "unknown extension ?" ++ String.ofList shown
  | unterminatedComment => "missing ), unterminated comment"
  | unterminatedGroup => "missing ), unterminated subpattern"
  | tooManyBranches => "conditional backref with more than two branches"
  | flagsNotAtStart => "global flags not at the start of the expression"
  | localeFlag => "bad inline flags: cannot use 'L' flag with a str pattern"
  | clashingTypeFlags => "bad inline flags: flags 'a', 'u' and 'L' are incompatible"
  | missingFlagEnd => "missing -, : or )"
  | unknownFlag => "unknown flag"
  | missingFlag => "missing flag"
  | missingColon => "missing :"
  | globalFlagOn => "bad inline flags: cannot turn on global flag"
  | typeFlagOff => "bad inline flags: cannot turn off flags 'a', 'u' and 'L'"
  | globalFlagOff => "bad inline flags: cannot turn off global flag"
  | flagOnAndOff => "bad inline flags: flag turned on and off"
  | unbalanced => "unbalanced parenthesis"
  | variableLookbehind => "look-behind requires fixed-width pattern"
  | distantLookbehind => "looks too much behind"
  | templateRepeat name => "internal: unsupported template operator " ++ name

/-- 読み取りの失敗。 -/
inductive Fault where
  /-- 式の誤り。位置を持たないものもある。 -/
  | rejected (kind : ErrorKind) (position : Option Nat)
  /-- 分類の指定が食い違う。 -/
  | clashingFlags
  /-- 繰り返し回数が大きすぎる。 -/
  | hugeRepeat
  /-- 繰り返し回数の桁が多すぎる。 -/
  | tooManyDigits (count : Nat)
  deriving DecidableEq, Repr

/-- 失敗の文面。`source` は式の文字列である。 -/
def Fault.message (source : Text) : Fault → String
  | rejected kind none => kind.text
  | rejected kind (some position) =>
    let head := kind.text ++ s!" at position {position}"
    if source.contains '\n' then
      let place := Text.lineColumn source position
      let line := place.1
      let column := place.2
      head ++ s!" (line {line}, column {column})"
    else head
  | clashingFlags => "ASCII and UNICODE flags are incompatible"
  | hugeRepeat => "the repetition number is too large"
  | tooManyDigits count => Json.tooManyDigitsText count

end Tategaki.Regex
