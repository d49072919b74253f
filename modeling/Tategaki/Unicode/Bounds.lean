/-!
# 境目の列で表す文字の集合

文字の性質（語をなす文字、印字できる文字など）は code point の区間の和で与えられる。
ここでは区間の両端を昇順に並べた **境目の列** で集合を表す。境目を一つ越えるたびに
集合の内と外が入れ替わるので、`n` 以下の境目の個数の偶奇だけで所属が決まる。
-/

namespace Tategaki.Unicode

/-- 境目の列を左から辿り、`n` が内側にあるかを返す。`inside` は今いる区間の側。 -/
def crosses (inside : Bool) : List Nat → Nat → Bool
  | [], _ => inside
  | b :: rest, n => if n < b then inside else crosses (!inside) rest n

/-- 昇順の境目の列 `bounds` が表す集合に `n` が入るか。 -/
def within (bounds : List Nat) (n : Nat) : Bool := crosses false bounds n

end Tategaki.Unicode
