/-!
# 並べ替え

規則を試す順に並べる。比べ方が全順序なら、どう並べ替えても結果は同じである。非数の優先順位があると
全順序でなくなり、どの二つをどの順に比べるかで結果が変わるので、その手順まで決めてある。

1. 先頭から、順に並んでいるか、真に逆順に並んでいるところを一続き取り出す。逆順なら裏返す
2. 残りを一つずつ、二分探索で見つけた位置に入れる

六十四個より短い並びでは、これが比べ方の手順のすべてである。それより長い並びでは、全順序でない比べ方のときの結果は、
続きを併合する手順による結果と違うことがある。

## 停止性

二分探索は、並びを必ず短くする。
-/

namespace Tategaki

variable {α : Type} (before : α → α → Bool)

/-- `prev` に続けて、隣どうしが `keep` を満たす限り取り出す。取り出したものと残りを返す。 -/
def takeChain (keep : α → α → Bool) (prev : α) : List α → List α × List α
  | [] => ([], [])
  | x :: rest =>
    if keep prev x then
      let (taken, rest) := takeChain keep x rest
      (x :: taken, rest)
    else ([], x :: rest)

/-- 先頭の一続きを順に並べたものと、残り。 -/
def leadingRun : List α → List α × List α
  | [] => ([], [])
  | [x] => ([x], [])
  | x :: y :: rest =>
    if before y x then
      let (taken, rest) := takeChain (fun a b => before b a) y rest
      ((x :: y :: taken).reverse, rest)
    else
      let (taken, rest) := takeChain (fun a b => !before b a) y rest
      (x :: y :: taken, rest)

/-- 並びの中の、二分探索で見つけた位置に入れる。 -/
def insertInto (x : α) (sorted : List α) : List α :=
  if h : sorted.length = 0 then [x]
  else
    let middle := sorted.length / 2
    have hmiddle : middle < sorted.length := Nat.div_lt_self (Nat.pos_of_ne_zero h) (by decide)
    if before x sorted[middle] then insertInto x (sorted.take middle) ++ sorted.drop middle
    else sorted.take (middle + 1) ++ insertInto x (sorted.drop (middle + 1))
  termination_by sorted.length
  decreasing_by
  · simp only [List.length_take]
    omega
  · simp only [List.length_drop]
    omega

/-- 並べ替える。比べられない要素（非数の優先順位）があるとき、結果が、続きに分けて併合する整列と同じ並びになるのは、
要素が六十四個より少ないときだけである。それより長い並びを、その整列は短い続きに分けるが、ここでは分けない。 -/
def arrange (items : List α) : List α :=
  let (run, rest) := leadingRun before items
  rest.foldl (fun sorted x => insertInto before x sorted) run

/-! ## 要素は変わらない -/

theorem takeChain_append (keep : α → α → Bool) (prev : α) (items : List α) :
    (takeChain keep prev items).1 ++ (takeChain keep prev items).2 = items := by
  induction items generalizing prev with
  | nil => rfl
  | cons x rest ih =>
    rw [takeChain]
    split
    · exact congrArg (x :: ·) (ih x)
    · rfl

theorem leadingRun_perm (items : List α) :
    ((leadingRun before items).1 ++ (leadingRun before items).2).Perm items := by
  match items with
  | [] => exact .refl _
  | [x] => exact .refl _
  | x :: y :: rest =>
    have hchain : ∀ keep, x :: y :: (takeChain keep y rest).1 ++ (takeChain keep y rest).2
        = x :: y :: rest := fun keep => by
      rw [List.cons_append, List.cons_append, takeChain_append]
    rw [leadingRun]
    split
    · exact ((List.reverse_perm _).append_right _).trans (.of_eq (hchain _))
    · exact .of_eq (hchain _)

theorem insertInto_perm (x : α) (sorted : List α) :
    (insertInto before x sorted).Perm (x :: sorted) := by
  induction sorted using insertInto.induct before x with
  | case1 sorted h =>
    rw [insertInto, dif_pos h, List.eq_nil_of_length_eq_zero h]
  | case2 sorted h middle hmiddle hbefore ih =>
    rw [insertInto, dif_neg h, if_pos hbefore]
    refine (ih.append_right _).trans ?_
    rw [List.cons_append, List.take_append_drop]
  | case3 sorted h middle hmiddle hbefore ih =>
    rw [insertInto, dif_neg h, if_neg hbefore]
    refine (ih.append_left _).trans (List.perm_middle.trans ?_)
    rw [List.take_append_drop]

/-- **並べ替えても、要素は変わらない。** -/
theorem arrange_perm (items : List α) : (arrange before items).Perm items := by
  have key : ∀ (rest sorted : List α),
      (rest.foldl (fun sorted x => insertInto before x sorted) sorted).Perm (sorted ++ rest) := by
    intro rest
    induction rest with
    | nil => intro sorted; rw [List.append_nil]; exact .refl _
    | cons x rest ih =>
      intro sorted
      rw [List.foldl_cons]
      refine (ih _).trans (((insertInto_perm before x sorted).append_right rest).trans ?_)
      exact List.perm_middle.symm
  exact (key _ _).trans (leadingRun_perm before items)

end Tategaki
