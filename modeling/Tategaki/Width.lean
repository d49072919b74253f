import Tategaki.Json.Reader
import Tategaki.Text.Basic
import Tategaki.Unicode.Digit

/-!
# 字幅の変換と漢数字

数字・英字・記号の三種について、全角と半角の間を一文字ずつ変換する。数字と英字は code point を
一定の差だけずらす。記号は表による。全角の記号には一つの半角の記号に対応するものが複数あるので、
二つの表は互いの逆ではない。

漢数字は桁ごとに一字で書き、位取りの字は使わない。
-/

namespace Tategaki

/-- 変換する文字の種類。 -/
inductive WidthTarget where
  | numbers
  | alphabet
  | symbols
  deriving DecidableEq, Repr

/-- 変換の向き。 -/
inductive WidthDirection where
  | fullwidth
  | halfwidth
  deriving DecidableEq, Repr

/-- 設定に書かれた名前。知られたものか、知られていない綴りか。 -/
inductive Named (α : Type) where
  | known (a : α)
  | unknown (name : String)
  deriving DecidableEq, Repr

namespace WidthTarget

/-- 設定での名前。 -/
def name : WidthTarget → String
  | numbers => "numbers"
  | alphabet => "alphabet"
  | symbols => "symbols"

/-- 名前から種類を引く。 -/
def ofName (s : String) : Named WidthTarget :=
  if s == "numbers" then .known numbers
  else if s == "alphabet" then .known alphabet
  else if s == "symbols" then .known symbols
  else .unknown s

theorem ofName_name (t : WidthTarget) : ofName t.name = .known t := by cases t <;> rfl

end WidthTarget

namespace WidthDirection

/-- 設定での名前。 -/
def name : WidthDirection → String
  | fullwidth => "fullwidth"
  | halfwidth => "halfwidth"

/-- 名前から向きを引く。 -/
def ofName (s : String) : Named WidthDirection :=
  if s == "fullwidth" then .known fullwidth
  else if s == "halfwidth" then .known halfwidth
  else .unknown s

theorem ofName_name (d : WidthDirection) : ofName d.name = .known d := by cases d <;> rfl

end WidthDirection

/-- 字幅の変換と漢数字の失敗。 -/
inductive WidthError where
  | unknownDirection (name : String)
  | unknownTarget (name : String)
  | notNumeral (text : Text)
  | tooManyDigits (count : Nat)
  deriving DecidableEq, Repr

/-- 失敗の文面。 -/
def WidthError.message : WidthError → String
  | unknownDirection name => s!"Unknown width direction: {name}"
  | unknownTarget name => s!"Unknown width target: {name}"
  | notNumeral text =>
    let shown := String.ofList (Text.quoted text)
    s!"Invalid number for kanji conversion: {shown}"
  | tooManyDigits count => Json.tooManyDigitsText count

/-! ## 一文字の変換 -/

/-- 全角の形と ASCII の形の差。 -/
def fullwidthOffset : Nat := 0xFEE0

/-- `lo` から `hi` までの文字か。 -/
def between (lo hi c : Char) : Bool := lo ≤ c && c ≤ hi

/-- 半角の数字か。 -/
def isHalfDigit (c : Char) : Bool := between '0' '9' c

/-- 半角の英字か。 -/
def isHalfLetter (c : Char) : Bool := between 'A' 'Z' c || between 'a' 'z' c

/-- 全角の数字か。 -/
def isFullDigit (c : Char) : Bool := between '０' '９' c

/-- 全角の英字か。 -/
def isFullLetter (c : Char) : Bool := between 'Ａ' 'Ｚ' c || between 'ａ' 'ｚ' c

/-- 半角の記号と、その全角の形。 -/
def symbolWidenings : List (Char × Char) := [
  ('!', '！'), ('"', '”'), ('#', '＃'), ('$', '＄'), ('%', '％'), ('&', '＆'), ('\'', '’'),
  ('(', '（'), (')', '）'), ('*', '＊'), ('+', '＋'), (',', '，'), ('-', '－'), ('.', '．'),
  ('/', '／'), (':', '：'), (';', '；'), ('<', '＜'), ('=', '＝'), ('>', '＞'), ('?', '？'),
  ('@', '＠'), ('[', '［'), ('\\', '＼'), (']', '］'), ('^', '＾'), ('_', '＿'), ('`', '｀'),
  ('{', '｛'), ('|', '｜'), ('}', '｝'), ('~', '～'), (' ', '　')]

/-- 全角の記号と、その半角の形。 -/
def symbolNarrowings : List (Char × Char) := [
  ('！', '!'), ('”', '"'), ('“', '"'), ('＂', '"'), ('＃', '#'), ('＄', '$'), ('％', '%'),
  ('＆', '&'), ('’', '\''), ('‘', '\''), ('＇', '\''), ('（', '('), ('）', ')'), ('＊', '*'),
  ('＋', '+'), ('，', ','), ('－', '-'), ('．', '.'), ('／', '/'), ('：', ':'), ('；', ';'),
  ('＜', '<'), ('＝', '='), ('＞', '>'), ('？', '?'), ('＠', '@'), ('［', '['), ('＼', '\\'),
  ('￥', '\\'), ('］', ']'), ('＾', '^'), ('＿', '_'), ('｀', '`'), ('｛', '{'), ('｜', '|'),
  ('｝', '}'), ('～', '~'), ('〜', '~'), ('　', ' ')]

/-- 表を引く。載っていなければそのまま。 -/
def lookUp (table : List (Char × Char)) (c : Char) : Char :=
  match table.find? (·.1 == c) with
  | some entry => entry.2
  | none => c

/-- 一文字の字幅を変える。対象でない文字はそのまま。 -/
def convertChar (target : WidthTarget) (direction : WidthDirection) (c : Char) : Char :=
  match target, direction with
  | .numbers, .fullwidth => if isHalfDigit c then Char.ofNat (c.toNat + fullwidthOffset) else c
  | .numbers, .halfwidth => if isFullDigit c then Char.ofNat (c.toNat - fullwidthOffset) else c
  | .alphabet, .fullwidth => if isHalfLetter c then Char.ofNat (c.toNat + fullwidthOffset) else c
  | .alphabet, .halfwidth => if isFullLetter c then Char.ofNat (c.toNat - fullwidthOffset) else c
  | .symbols, .fullwidth => lookUp symbolWidenings c
  | .symbols, .halfwidth => lookUp symbolNarrowings c

/-! ## 文字列の変換 -/

/-- 字幅を変える。 -/
def convertWidth (target : WidthTarget) (direction : WidthDirection) (text : Text) : Text :=
  text.map (convertChar target direction)

@[simp] theorem convertWidth_length (target : WidthTarget) (direction : WidthDirection)
    (text : Text) : (convertWidth target direction text).length = text.length := by
  simp [convertWidth]

/-- 名前で指定された変換。向きの名前を先に調べる。 -/
def convertNamedWidth (target : Named WidthTarget) (direction : Named WidthDirection)
    (text : Text) : Except WidthError Text :=
  match direction, target with
  | .unknown name, _ => .error (.unknownDirection name)
  | .known _, .unknown name => .error (.unknownTarget name)
  | .known d, .known t => .ok (convertWidth t d text)

/-! ## 漢数字 -/

/-- 数字を表す漢字。 -/
def kanjiDigits : List Char := ['〇', '一', '二', '三', '四', '五', '六', '七', '八', '九']

/-- 一桁の数を漢字にする。 -/
def kanjiDigit (d : Nat) : Char := kanjiDigits.getD d '〇'

/-- すべてが十進数字なら、その値を並べる。 -/
def digitValues (text : Text) : Option (List Nat) := text.mapM Unicode.digitValue

theorem digitValues_length {text : Text} {ds : List Nat} (h : digitValues text = some ds) :
    ds.length = text.length := by
  induction text generalizing ds with
  | nil => simp_all [digitValues]
  | cons c rest ih =>
    simp only [digitValues, List.mapM_cons, Option.bind_eq_bind, Option.pure_def,
      Option.bind_eq_some_iff, Option.some.injEq] at h
    obtain ⟨d, -, tail, htail, rfl⟩ := h
    simp [ih htail]

/-- 自然数の十進の桁を、上の桁から並べる。 -/
def decimalDigits (n : Nat) : List Nat := (digitsOf n).map fun c => c.toNat - 0x30

/--
数字だけの文字列を漢数字にする。

値を一度整数として読むので、先頭の零は消え、どの文字体系の数字も受ける。
-/
def numeralToKanji (text : Text) : Except WidthError Text :=
  let numeral := Unicode.strip text
  match digitValues numeral with
  | none => .error (.notNumeral text)
  | some ds =>
    if ds.isEmpty then .error (.notNumeral text)
    else if Json.maxIntegerDigits < ds.length then .error (.tooManyDigits ds.length)
    else .ok ((decimalDigits (Unicode.decimalValue ds)).map kanjiDigit)

end Tategaki
