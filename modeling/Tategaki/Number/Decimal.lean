import Tategaki.Number.Binary64

/-!
# 倍精度の数の十進表記

二通りの書き方がある。

* **小数点以下の桁数を決めた書き方**（`fixed`）。正確な値を最後の桁で丸め、中間は偶数にする。
* **読み戻せる最短の書き方**（`shortest`）。読み戻すと元の数になる十進数のうち桁が最も少ない
  もの、同じ桁数なら元の数に最も近いものを選ぶ。指数が `-4` 以上 `16` 未満なら小数点の位置で、
  それ以外は指数を付けて書く。

最短の桁は、元の数に丸められる区間に十進の格子点が入るかを桁数の小さい順に調べて求める。
ある格子の点が区間に入るなら、元の数を挟む二点のどちらかが入るので、二点だけ見れば足りる。
-/

namespace Tategaki

/-- 自然数の十進表記。 -/
def digitsOf (n : Nat) : List Char := Nat.toDigits 10 n

/-- 左を `'0'` で埋めて `width` 桁以上にする。 -/
def padZero (width : Nat) (s : List Char) : List Char :=
  List.replicate (width - s.length) '0' ++ s

namespace Binary64

/-- 小数点以下 `places` 桁の表記。 -/
def fixed (places : Nat) : Binary64 → String
  | nan => "nan"
  | infinite s => if s then "-inf" else "inf"
  | finite s m e =>
    let part := scale (m * tenPow places) 1 e
    let all := padZero (places + 1) (digitsOf (roundDiv part.1 part.2))
    let cut := all.length - places
    String.ofList ((if s then ['-'] else []) ++ all.take cut
      ++ (if places == 0 then [] else '.' :: all.drop cut))

/-- 元の数に丸められる区間の端を、`2 ^ (exponent - 2)` を単位として表す。 -/
def roundingEnds (m : Nat) (e : Int) : Nat × Nat :=
  (if m == twoPow 52 && -1074 < e then 4 * m - 1 else 4 * m - 2, 4 * m + 2)

/-- 十進の格子点 `c · 10 ^ k` を `2 ^ (e - 2)` で測った値と、その分母。 -/
def measure (c : Nat) (k e : Int) : Nat × Nat :=
  let num := if 0 ≤ k then c * tenPow k.toNat else c
  let den := if 0 ≤ k then 1 else tenPow (-k).toNat
  scale num den (2 - e)

/-- 格子点が、元の数に丸められる区間に入るか。端は仮数が偶数のときだけ含む。 -/
def roundsTo (m : Nat) (e : Int) (c : Nat) (k : Int) : Bool :=
  let ends := roundingEnds m e
  let p := measure c k e
  if m % 2 == 0 then ends.1 * p.2 ≤ p.1 && p.1 ≤ ends.2 * p.2
  else ends.1 * p.2 < p.1 && p.1 < ends.2 * p.2

/-- 格子点と元の数の隔たりを、分母の倍だけ伸ばして測る。 -/
def gap (m : Nat) (e : Int) (c : Nat) (k : Int) : Nat :=
  let p := measure c k e
  max (4 * m * p.2) p.1 - min (4 * m * p.2) p.1

/-- 間隔 `10 ^ k` の格子で、区間に入る点を探す。二つ入れば近い方、同じなら偶数を選ぶ。 -/
def onGrid (m : Nat) (e k : Int) : Option Nat :=
  let part := scale m 1 e
  let c := if 0 ≤ k then part.1 / (part.2 * tenPow k.toNat) else part.1 * tenPow (-k).toNat / part.2
  let down := c != 0 && roundsTo m e c k
  let up := roundsTo m e (c + 1) k
  if down && up then
    let a := gap m e c k
    let b := gap m e (c + 1) k
    some (if a < b then c else if b < a then c + 1 else if c % 2 == 0 then c else c + 1)
  else if down then some c
  else if up then some (c + 1)
  else none

/-- 間隔を十分の一ずつ狭めながら、区間に入る格子点を探す。 -/
def refine (m : Nat) (e : Int) : Nat → Int → Nat × Int
  | 0, k => (m, k)
  | tries + 1, k =>
    match onGrid m e k with
    | some c => (c, k)
    | none => refine m e tries (k - 1)

/-- `num / den` を越えない最大の十の冪の指数。 -/
def decimalExponent (num den : Nat) : Int :=
  let guess : Int := (digitsOf num).length - (digitsOf den).length
  let reaches : Bool := if 0 ≤ guess then den * tenPow guess.toNat ≤ num
    else den ≤ num * tenPow (-guess).toNat
  if reaches then guess else guess - 1

/-- 正の数 `m · 2 ^ e` の最短の桁と、最後の桁の位。末尾の零は持たない。 -/
def shortestDigits (m : Nat) (e : Int) : List Char × Int :=
  let part := scale m 1 e
  let (c, k) := refine m e 20 (decimalExponent part.1 part.2 + 1)
  let ds := digitsOf c
  let kept := (ds.reverse.dropWhile (· == '0')).reverse
  (kept, k + (ds.length - kept.length))

/-- 桁 `ds` に、`point` 桁目の後ろへ小数点を置く。整数なら `.0` を付ける。 -/
def positional (ds : List Char) (point : Int) : List Char :=
  if point ≤ 0 then '0' :: '.' :: List.replicate (-point).toNat '0' ++ ds
  else if (ds.length : Int) ≤ point then
    ds ++ List.replicate (point - ds.length).toNat '0' ++ ['.', '0']
  else ds.take point.toNat ++ '.' :: ds.drop point.toNat

/-- 指数を付けた表記。指数は符号と二桁以上の数字で書く。 -/
def scientific (ds : List Char) (point : Int) : List Char :=
  let power := point - 1
  ds.take 1 ++ (if ds.length ≤ 1 then [] else '.' :: ds.drop 1) ++ ['e']
    ++ [if power < 0 then '-' else '+'] ++ padZero 2 (digitsOf power.natAbs)

/-- 読み戻せる最短の表記。 -/
def shortest : Binary64 → String
  | nan => "nan"
  | infinite s => if s then "-inf" else "inf"
  | finite s m e =>
    let sign := if s then ['-'] else []
    if m == 0 then String.ofList (sign ++ ['0', '.', '0'])
    else
      let (ds, k) := shortestDigits m e
      let point := k + ds.length
      String.ofList (sign
        ++ (if -4 < point && point ≤ 16 then positional ds point else scientific ds point))

end Binary64

end Tategaki
