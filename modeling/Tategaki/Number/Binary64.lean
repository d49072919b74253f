import Tategaki.Number.Power

/-!
# 倍精度の数

仮数と指数を整数で持つ倍精度浮動小数点数。四則のうち加減と乗、比較、十進との行き来を、
すべて整数の計算で行う。丸めは一か所（`Binary64.ofRatio`）だけで起こり、最も近い数へ、
ちょうど中間なら仮数が偶数の側へ丸める。

## 表し方

有限の数は `±mantissa · 2 ^ exponent` である。`ofRatio` が作る数は正規形をしていて、
`mantissa < 2 ^ 53` かつ `-1074 ≤ exponent ≤ 971` であり、`exponent` が `-1074` でなければ
`2 ^ 52 ≤ mantissa` である。
-/

namespace Tategaki

/-- 倍精度の数。 -/
inductive Binary64 where
  | nan
  | infinite (negative : Bool)
  | finite (negative : Bool) (mantissa : Nat) (exponent : Int)
  deriving DecidableEq, Repr

/-- 商を最も近い整数に丸める。ちょうど中間なら偶数にする。 -/
def roundDiv (num den : Nat) : Nat :=
  let q := num / den
  let r := num % den
  if 2 * r < den then q else if den < 2 * r then q + 1 else if q % 2 == 0 then q else q + 1

namespace Binary64

/-- `num · 2 ^ e / den` を分数のまま表す。 -/
def scale (num den : Nat) (e : Int) : Nat × Nat :=
  if 0 ≤ e then (num * twoPow e.toNat, den) else (num, den * twoPow (-e).toNat)

/-- `±num / den` に最も近い倍精度の数。`den` は正である。 -/
def ofRatio (negative : Bool) (num den : Nat) : Binary64 :=
  if num == 0 then finite negative 0 (-1074)
  else
    let low : Int := max ((Nat.log2 num : Int) - Nat.log2 den - 53) (-1074)
    let wide := scale num den (-low)
    let e := if twoPow 53 ≤ wide.1 / wide.2 then low + 1 else low
    let part := scale num den (-e)
    let m := roundDiv part.1 part.2
    let (m, e) := if m == twoPow 53 then (twoPow 52, e + 1) else (m, e)
    if 971 < e then infinite negative else finite negative m e

/-- 整数に最も近い数。範囲を越えれば無限大になる。 -/
def ofInt (n : Int) : Binary64 := ofRatio (n < 0) n.natAbs 1

/-- `±digits · 10 ^ exponent` に最も近い数。 -/
def ofDecimal (negative : Bool) (digits : Nat) (exponent : Int) : Binary64 :=
  let size : Int := (Nat.toDigits 10 digits).length
  if digits == 0 then finite negative 0 (-1074)
  else if 400 < size + exponent then infinite negative
  else if size + exponent < -400 then finite negative 0 (-1074)
  else if 0 ≤ exponent then ofRatio negative (digits * tenPow exponent.toNat) 1
  else ofRatio negative digits (tenPow (-exponent).toNat)

/-- `n · 2 ^ e` に最も近い数。零になるときの符号は `zeroNegative` とする。 -/
def ofDyadic (zeroNegative : Bool) (n e : Int) : Binary64 :=
  let part := scale n.natAbs 1 e
  ofRatio (if n == 0 then zeroNegative else n < 0) part.1 part.2

/-- 符号を付けた仮数。 -/
def signed (negative : Bool) (m : Nat) : Int := if negative then -(m : Int) else m

/-- 符号を変える。 -/
def neg : Binary64 → Binary64
  | nan => nan
  | infinite s => infinite (!s)
  | finite s m e => finite (!s) m e

/-- 和。 -/
def add : Binary64 → Binary64 → Binary64
  | nan, _ => nan
  | _, nan => nan
  | infinite s, infinite t => if s == t then infinite s else nan
  | infinite s, _ => infinite s
  | _, infinite t => infinite t
  | finite s m e, finite t n f =>
    let low := min e f
    let total := signed s m * (twoPow (e - low).toNat : Int)
      + signed t n * (twoPow (f - low).toNat : Int)
    ofDyadic (s && t) total low

/-- 差。 -/
def sub (x y : Binary64) : Binary64 := add x y.neg

/-- 積。 -/
def mul : Binary64 → Binary64 → Binary64
  | nan, _ => nan
  | _, nan => nan
  | infinite s, infinite t => infinite (s != t)
  | infinite s, finite t n _ => if n == 0 then nan else infinite (s != t)
  | finite s m _, infinite t => if m == 0 then nan else infinite (s != t)
  | finite s m e, finite t n f =>
    ofDyadic (s != t) (signed (s != t) (m * n)) (e + f)

/-- 有限の数どうしの大小。共通の指数に揃えた仮数を比べる。 -/
def aligned (s : Bool) (m : Nat) (e : Int) (t : Bool) (n : Nat) (f : Int) : Int × Int :=
  let low := min e f
  (signed s m * (twoPow (e - low).toNat : Int), signed t n * (twoPow (f - low).toNat : Int))

/-- 小さいか。非数とは比べられない。 -/
def lt : Binary64 → Binary64 → Bool
  | nan, _ => false
  | _, nan => false
  | infinite s, infinite t => s && !t
  | infinite s, finite .. => s
  | finite .., infinite t => !t
  | finite s m e, finite t n f =>
    let pair := aligned s m e t n f
    pair.1 < pair.2

/-- 値が等しいか。二つの零は等しく、非数は何とも等しくない。 -/
def eq : Binary64 → Binary64 → Bool
  | nan, _ => false
  | _, nan => false
  | infinite s, infinite t => s == t
  | infinite _, finite .. => false
  | finite .., infinite _ => false
  | finite s m e, finite t n f =>
    let pair := aligned s m e t n f
    pair.1 == pair.2

/-- 正の零。 -/
def zero : Binary64 := finite false 0 (-1074)

/-- 記憶される 64 ビット。符号、11 ビットの指数、52 ビットの仮数が上から並ぶ。 -/
def bits : Binary64 → Nat
  | nan => 0x7FF8000000000000
  | infinite s => (if s then twoPow 63 else 0) + 0x7FF0000000000000
  | finite s m e =>
    let sign := if s then twoPow 63 else 0
    if m < twoPow 52 then sign + m else sign + (e + 1075).toNat * twoPow 52 + (m - twoPow 52)

end Binary64

end Tategaki
