import Tategaki.Unicode.Blank
import Tategaki.Unicode.Case
import Tategaki.Unicode.Digit
import Tategaki.Unicode.Word

/-!
# 一文字の条件

正規表現の葉のうち、ちょうど一文字を読むもの。指定（大文字小文字の区別、ASCII だけの分類、
改行を含むか）は読み取りのときに葉へ織り込まれ、照合のときには参照されない。

## 大文字小文字を区別しない照合

一文字の指定は、その文字に相手がなければ、そのままの文字だけに合う。相手があれば、小文字に
した文字どうしを比べ、大文字を共有する別の小文字も同じと見なす。文字の集まりは、どれか一つでも
相手を持つときに限り、小文字にした文字で調べる。
-/

namespace Tategaki.Regex

open Unicode

/-- 分類の種類。 -/
inductive CategoryKind where
  | digit
  | space
  | word
  deriving DecidableEq, Repr

/-- 分類。`ascii` なら ASCII の文字だけが入り、`negated` なら入らない方に合う。 -/
structure Category where
  kind : CategoryKind
  negated : Bool
  ascii : Bool
  deriving DecidableEq, Repr

/-- ASCII の範囲での分類。 -/
def CategoryKind.holdsAscii (kind : CategoryKind) (n : Nat) : Bool :=
  match kind with
  | .digit => 0x30 ≤ n && n ≤ 0x39
  | .space => (0x09 ≤ n && n ≤ 0x0D) || n == 0x20
  | .word => (0x30 ≤ n && n ≤ 0x39) || isAsciiCased n || n == 0x5F

/-- Unicode 全体での分類。 -/
def CategoryKind.holds (kind : CategoryKind) (n : Nat) : Bool :=
  match kind with
  | .digit => isDecimal (Char.ofNat n)
  | .space => isBlank (Char.ofNat n)
  | .word => isWord (Char.ofNat n)

/-- 分類に入るか。 -/
def Category.holds (c : Category) (n : Nat) : Bool :=
  (if c.ascii then c.kind.holdsAscii n else c.kind.holds n) != c.negated

/-- 文字の集まりの要素。 -/
inductive SetItem where
  | one (code : Nat)
  | span (first last : Nat)
  | category (c : Category)
  deriving DecidableEq, Repr

/-- 大文字小文字の扱い。 -/
inductive Folding where
  | exact
  | ascii
  | unicode
  deriving DecidableEq, Repr

namespace Folding

/-- 比べる前の小文字化。 -/
def lowered : Folding → Nat → Nat
  | exact, n => n
  | ascii, n => asciiLower n
  | unicode, n => lower n

/-- 相手を持つか。 -/
def cased : Folding → Nat → Bool
  | exact, _ => false
  | ascii, n => isAsciiCased n
  | unicode, n => isCased n

/-- 小文字にした文字と同一視する、他の小文字。 -/
def siblings : Folding → Nat → List Nat
  | unicode, n => sharers n
  | _, _ => []

/-- 小文字にすると `n` になる文字。 -/
def sources : Folding → Nat → List Nat
  | exact, n => [n]
  | ascii, n =>
    (if asciiLower n == n then [n] else [])
      ++ (if 0x61 ≤ n && n ≤ 0x7A then [n - 0x20] else [])
  | unicode, n => lowerSources n

/-- 区間に、相手を持つ文字があるか。 -/
def casedIn (f : Folding) (first last : Nat) : Bool :=
  match f with
  | exact => false
  | ascii => (first ≤ 0x5A && 0x41 ≤ last) || (first ≤ 0x7A && 0x61 ≤ last)
  | unicode =>
    within casedBounds first || casedBounds.any fun b => first < b && b ≤ last

end Folding

namespace SetItem

/-- 文字がそのまま入るか。 -/
def has (item : SetItem) (n : Nat) : Bool :=
  match item with
  | one code => n == code
  | span first last => first ≤ n && n ≤ last
  | category c => c.holds n

/-- 基本多言語面の外の文字は、小文字にした文字で調べる側に入る。 -/
def needsFolding (f : Folding) (item : SetItem) : Bool :=
  match item with
  | one code => f != .exact && (f.cased code || 0x10000 ≤ code)
  | span first last => f != .exact && (f.casedIn first last || 0x10000 ≤ last)
  | category _ => false

/-- 小文字にした文字 `low` が入るか。 -/
def hasLowered (f : Folding) (item : SetItem) (low : Nat) : Bool :=
  match item with
  | one code =>
    if 0x10000 ≤ code then low == code
    else
      let target := f.lowered code
      low == target || (f.siblings target).contains low
  | span first last =>
    (first ≤ low && low ≤ last && 0x10000 ≤ last)
      || (low :: f.siblings low).any fun e =>
        (f.sources e).any fun source => first ≤ source && source ≤ last
  | category c => c.holds low

end SetItem

/-- 一文字の条件。 -/
inductive CharTest where
  /-- 任意の文字。`lineEnds` でなければ改行を除く。 -/
  | any (lineEnds : Bool)
  /-- 一つの文字、または（`negated` なら）それ以外の文字。 -/
  | one (negated : Bool) (code : Nat) (folding : Folding)
  /-- 集まりに入る文字、または（`negated` なら）入らない文字。 -/
  | set (negated : Bool) (items : List SetItem) (folding : Folding)
  deriving DecidableEq, Repr

namespace CharTest

/-- 一つの文字の指定に合うか。 -/
def sameChar (code : Nat) (f : Folding) (n : Nat) : Bool :=
  if f.cased code then
    let target := f.lowered code
    let low := f.lowered n
    low == target || (f.siblings target).contains low
  else n == code

/-- 集まりに入るか。 -/
def inSet (items : List SetItem) (f : Folding) (n : Nat) : Bool :=
  if items.any (·.needsFolding f) then
    let low := f.lowered n
    items.any (·.hasLowered f low)
  else items.any (·.has n)

/-- 文字が条件に合うか。 -/
def matches? (t : CharTest) (c : Char) : Bool :=
  match t with
  | any lineEnds => lineEnds || c != '\n'
  | one negated code f => sameChar code f c.toNat != negated
  | set negated items f => inSet items f c.toNat != negated

/-- 区別する照合では、一つの文字の指定はその文字だけに合う。 -/
theorem matches?_one_exact (code : Nat) (c : Char) :
    (one false code .exact).matches? c = (c.toNat == code) := by
  simp [matches?, sameChar, Folding.cased]

/-- 区別する照合では、集まりへの所属は要素への所属である。 -/
theorem matches?_set_exact (negated : Bool) (items : List SetItem) (c : Char) :
    (set negated items .exact).matches? c = (items.any (·.has c.toNat) != negated) := by
  have h : items.any (·.needsFolding .exact) = false := by
    rw [List.any_eq_false]
    intro item _
    cases item <;> simp [SetItem.needsFolding]
  simp [matches?, inSet, h]

end CharTest

end Tategaki.Regex
