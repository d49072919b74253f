import Tategaki.Number.Decimal

/-!
# 数

整数と倍精度の数のどちらか。設定や時計の値は書かれたとおりの種類を保ち、計算で混ざったときだけ
倍精度に移る。大小は丸めずに比べる。
-/

namespace Tategaki

/-- 整数または倍精度の数。 -/
inductive Number where
  | int (n : Int)
  | float (x : Binary64)
  deriving DecidableEq, Repr

namespace Number

/-- 倍精度に直す。範囲を越える整数は無限大になる。 -/
def toBinary64 : Number → Binary64
  | int n => Binary64.ofInt n
  | float x => x

/-- 倍精度に直す。範囲を越える整数なら `none`。 -/
def toBinary64? : Number → Option Binary64
  | int n =>
    match Binary64.ofInt n with
    | .infinite _ => none
    | x => some x
  | float x => some x

/-- 和。 -/
def add : Number → Number → Number
  | int m, int n => int (m + n)
  | x, y => float (x.toBinary64.add y.toBinary64)

/-- 差。 -/
def sub : Number → Number → Number
  | int m, int n => int (m - n)
  | x, y => float (x.toBinary64.sub y.toBinary64)

/-- 整数を、指数 0 の仮数と見る。範囲で切り詰めない。 -/
def exact : Number → Binary64
  | int n => .finite (n < 0) n.natAbs 0
  | float x => x

/-- 小さいか。 -/
def lt (x y : Number) : Bool := x.exact.lt y.exact

/-- 零以下か。 -/
def isNonpositive (x : Number) : Bool :=
  x.exact.lt .zero || x.exact.eq .zero

/-- 書かれたとおりの種類での表記。 -/
def text : Number → String
  | int n => toString n
  | float x => x.shortest

/-- 小数点以下 `places` 桁の表記。 -/
def fixed (places : Nat) (x : Number) : String := x.toBinary64.fixed places

/-- 符号と絶対値から元の整数に戻る。 -/
theorem signed_natAbs (n : Int) : Binary64.signed (decide (n < 0)) n.natAbs = n := by
  unfold Binary64.signed
  by_cases h : n < 0
  · rw [decide_eq_true h, if_pos rfl]
    omega
  · rw [decide_eq_false h, if_neg Bool.false_ne_true]
    omega

end Number

end Tategaki
