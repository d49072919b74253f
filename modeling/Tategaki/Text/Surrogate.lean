import Tategaki.Text.Basic
import Tategaki.Text.Quoted

/-!
# 対にならない代用符号

データの文字列は、代用符号位置（U+D800 から U+DFFF）を番号で書ける。対になるものは一つの文字を表すが、
対にならないものは文字でない。それには、ほかに現れない私用領域の文字で代わりをさせる。

## 区画

代わりの文字は、2048 文字の区画を一つ選んで割り当てる。区画の文字は代用符号位置と同じ順に並び、どちらも、
字でも数字でも空白でもなく、大文字も小文字もない。最初の区画は代用符号位置のすぐ後ろにあるので、ほかの文字との
前後も変わらない。だから、区画に本来の文字が現れない限り、規則の合い方も書き換えも、代用符号位置のままで行うのと
同じである。

違いが現れるのは、書き上げた文書を符号化するところで、そこで見つけて断る（`Block.firstRun?`）。
-/

namespace Tategaki.Surrogate

open Text

/-- 代用符号位置か。 -/
def isSurrogate (n : Nat) : Bool := 0xD800 ≤ n && n ≤ 0xDFFF

/-- 書き出せない、代用符号位置の続き。 -/
structure LoneRun where
  /-- 最初の代用符号位置。 -/
  code : Nat
  /-- 文書の中での範囲 `[start, stop)`。 -/
  start : Nat
  stop : Nat
  deriving DecidableEq, Repr

/-- 断るときの文面。 -/
def LoneRun.message (r : LoneRun) : String :=
  let start := r.start
  if r.start + 1 == r.stop then
    let shown := String.ofList (hex 4 r.code)
    s!"'utf-8' codec can't encode character '\\u{shown}' in position {start}: "
      ++ "surrogates not allowed"
  else
    let last := r.stop - 1
    s!"'utf-8' codec can't encode characters in position {start}-{last}: "
      ++ "surrogates not allowed"

/-- 代わりの文字の区画。私用領域の何番目の区画かで表す。 -/
structure Block where
  index : Fin 67
  deriving DecidableEq, Repr

namespace Block

/-- 最初の区画。 -/
def first : Block := ⟨0⟩

/-- 区画の最初の文字の番号。初めの三つは基本多言語面に、残りは十五面と十六面にある。 -/
def base (b : Block) : Nat :=
  if b.index < 3 then 0xE000 + 0x800 * b.index else 0xF0000 + 0x800 * (b.index - 3)

/-- 区画は私用領域にあり、代用符号位置より後ろである。 -/
theorem le_base (b : Block) : 0xE000 ≤ b.base := by
  unfold base
  split <;> omega

/-- 区画の文字か。 -/
def contains (b : Block) (c : Char) : Bool := b.base ≤ c.toNat && c.toNat < b.base + 0x800

/-- 代用符号位置の代わりをする文字。 -/
def standIn (b : Block) (n : Nat) : Char := Char.ofNat (b.base + (n - 0xD800))

/-- 区画の文字の最初の続き。`position` は数え始めの位置。 -/
def firstRun? (b : Block) (position : Nat) : Text → Option LoneRun
  | [] => none
  | c :: s =>
    if b.contains c then
      some ⟨c.toNat - b.base + 0xD800, position,
        position + 1 + (s.takeWhile b.contains).length⟩
    else firstRun? b (position + 1) s

/-- 続きがないのは、区画の文字が一つもないときである。 -/
theorem firstRun?_eq_none_iff {b : Block} {s : Text} {position : Nat} :
    b.firstRun? position s = none ↔ s.any b.contains = false := by
  induction s generalizing position with
  | nil => simp [firstRun?]
  | cons c s ih =>
    rw [firstRun?, List.any_cons]
    cases hc : b.contains c with
    | true => simp
    | false => simpa using ih

/-- 番号 `n` を書くと、区画の文字を表すことがあるか。上位の代用符号は、対になって区画の文字を表す。 -/
def isNamedBy (b : Block) (n : Nat) : Bool :=
  let lead := 0xD7C0 + b.base / 0x400
  (b.base ≤ n && n < b.base + 0x800) || n == lead || n == lead + 1

end Block

end Tategaki.Surrogate
