import Mathlib.Order.Lattice
import Tategaki.Rule.Arrange

/-!
# 並べ替えの正しさ

比べ方が、要素の鍵の大小と一致するなら、並べ替えた結果は鍵の小さい順に並ぶ（`pairwise_arrange`）。
鍵が要素ごとに異なれば、小さい順の並びは一つしかないので、どう並べ替えても結果は同じである
（`arrange_eq`）。

鍵の大小と一致するのは、条件 `P` を満たす要素の間だけでよい。
-/

namespace Tategaki

variable {α β : Type} [LinearOrder β] {before : α → α → Bool} (key : α → β) {P : α → Prop}

/-- 隣どうしが推移的な関係 `r` にあれば、一続きのどの二つもその関係にある。 -/
theorem pairwise_takeChain {r : α → α → Prop} (htrans : ∀ {a b c}, r a b → r b c → r a c)
    {keep : α → α → Bool} (hkeep : ∀ a b, P a → P b → keep a b = true → r a b) {prev : α}
    {items : List α} (hprev : P prev) (hitems : ∀ x ∈ items, P x) :
    (prev :: (takeChain keep prev items).1).Pairwise r := by
  induction items generalizing prev with
  | nil => exact List.pairwise_singleton r prev
  | cons x rest ih =>
    have hx : P x := hitems x List.mem_cons_self
    rw [takeChain]
    split
    · next h =>
      have hrest := ih hx fun y hy => hitems y (List.mem_cons_of_mem x hy)
      have hfirst := hkeep prev x hprev hx h
      refine List.pairwise_cons.mpr ⟨fun y hy => ?_, hrest⟩
      rcases List.mem_cons.mp hy with rfl | hy
      · exact hfirst
      · exact htrans hfirst ((List.pairwise_cons.mp hrest).1 y hy)
    · exact List.pairwise_singleton r prev

/-- 先頭の一続きは、小さい順に並ぶ。 -/
theorem pairwise_leadingRun (hbefore : ∀ a b, P a → P b → (before a b = true ↔ key a < key b))
    {items : List α} (hitems : ∀ x ∈ items, P x) :
    (leadingRun before items).1.Pairwise fun a b => key a ≤ key b := by
  match items with
  | [] => exact .nil
  | [x] => exact List.pairwise_singleton _ x
  | x :: y :: rest =>
    have hx : P x := hitems x List.mem_cons_self
    have hy : P y := hitems y (List.mem_cons_of_mem x List.mem_cons_self)
    have hall : ∀ z ∈ y :: rest, P z := fun z hz => hitems z (List.mem_cons_of_mem x hz)
    -- 先頭の二つも隣どうしなので、`x` から続くものとして扱う
    rw [leadingRun]
    split
    · next h =>
      have hchain := pairwise_takeChain (r := fun a b => key b < key a)
        (fun hab hbc => lt_trans hbc hab) (fun a b ha hb hk => (hbefore b a hb ha).mp hk) hx hall
      rw [takeChain, if_pos h] at hchain
      exact List.pairwise_reverse.mpr (hchain.imp fun hab => le_of_lt hab)
    · next h =>
      have hkeep : ∀ a b, P a → P b → (!before b a) = true → key a ≤ key b := by
        intro a b ha hb hk
        rw [Bool.not_eq_true', ← Bool.not_eq_true, hbefore b a hb ha, not_lt] at hk
        exact hk
      have hchain := pairwise_takeChain (r := fun a b => key a ≤ key b)
        (fun hab hbc => le_trans hab hbc) hkeep hx hall
      rw [takeChain, if_pos (by simpa using h)] at hchain
      exact hchain

/-- 小さい順の並びに入れても、小さい順のままである。 -/
theorem pairwise_insertInto (hbefore : ∀ a b, P a → P b → (before a b = true ↔ key a < key b))
    {x : α} {sorted : List α} (hx : P x) (hsorted : ∀ y ∈ sorted, P y)
    (h : sorted.Pairwise fun a b => key a ≤ key b) :
    (insertInto before x sorted).Pairwise fun a b => key a ≤ key b := by
  induction sorted using insertInto.induct before x with
  | case1 sorted hempty =>
    rw [insertInto, dif_pos hempty]
    exact List.pairwise_singleton _ x
  | case2 sorted hne middle hmiddle hlt ih =>
    rw [insertInto, dif_neg hne, if_pos hlt]
    have hsplit := List.take_append_drop middle sorted
    rw [← hsplit, List.pairwise_append] at h
    obtain ⟨hleft, hright, hcross⟩ := h
    have hleftP : ∀ y ∈ sorted.take middle, P y := fun y hy => hsorted y (List.mem_of_mem_take hy)
    refine List.pairwise_append.mpr ⟨ih hleftP hleft, hright, fun a ha b hb => ?_⟩
    rcases List.mem_cons.mp ((insertInto_perm before x _).mem_iff.mp ha) with rfl | ha
    · have hxm : key a < key sorted[middle] :=
        (hbefore _ _ hx (hsorted _ (List.getElem_mem hmiddle))).mp hlt
      rw [← List.getElem_cons_drop hmiddle] at hb hright
      rcases List.mem_cons.mp hb with rfl | hb
      · exact le_of_lt hxm
      · exact le_trans (le_of_lt hxm) ((List.pairwise_cons.mp hright).1 b hb)
    · exact hcross a ha b hb
  | case3 sorted hne middle hmiddle hge ih =>
    rw [insertInto, dif_neg hne, if_neg hge]
    have hsplit := List.take_append_drop (middle + 1) sorted
    rw [← hsplit, List.pairwise_append] at h
    obtain ⟨hleft, hright, hcross⟩ := h
    have hrightP : ∀ y ∈ sorted.drop (middle + 1), P y := fun y hy =>
      hsorted y (List.mem_of_mem_drop hy)
    refine List.pairwise_append.mpr ⟨hleft, ih hrightP hright, fun a ha b hb => ?_⟩
    rcases List.mem_cons.mp ((insertInto_perm before x _).mem_iff.mp hb) with rfl | hb
    · have hmx : key sorted[middle] ≤ key b := by
        rw [hbefore _ _ hx (hsorted _ (List.getElem_mem hmiddle)), not_lt] at hge
        exact hge
      rw [List.take_succ_eq_append_getElem hmiddle] at ha hleft
      rcases List.mem_append.mp ha with ha | ha
      · exact le_trans ((List.pairwise_append.mp hleft).2.2 a ha _ (List.mem_singleton_self _)) hmx
      · rw [List.mem_singleton.mp ha]
        exact hmx
    · exact hcross a ha b hb

/-- **並べ替えた結果は、小さい順に並ぶ。** -/
theorem pairwise_arrange (hbefore : ∀ a b, P a → P b → (before a b = true ↔ key a < key b))
    {items : List α} (hitems : ∀ x ∈ items, P x) :
    (arrange before items).Pairwise fun a b => key a ≤ key b := by
  have insertAll : ∀ (rest sorted : List α), (∀ x ∈ rest, P x) → (∀ x ∈ sorted, P x) →
      sorted.Pairwise (fun a b => key a ≤ key b) →
      (rest.foldl (fun sorted x => insertInto before x sorted) sorted).Pairwise
        fun a b => key a ≤ key b := by
    intro rest
    induction rest with
    | nil => intro sorted _ _ h; exact h
    | cons x rest ih =>
      intro sorted hrest hsorted h
      have hx : P x := hrest x List.mem_cons_self
      refine ih _ (fun y hy => hrest y (List.mem_cons_of_mem x hy)) (fun y hy => ?_)
        (pairwise_insertInto key hbefore hx hsorted h)
      rcases List.mem_cons.mp ((insertInto_perm before x sorted).mem_iff.mp hy) with rfl | hy
      · exact hx
      · exact hsorted y hy
  have hmem : ∀ x ∈ (leadingRun before items).1 ++ (leadingRun before items).2, P x :=
    fun x hx => hitems x ((leadingRun_perm before items).mem_iff.mp hx)
  exact insertAll _ _ (fun x hx => hmem x (List.mem_append_right _ hx))
    (fun x hx => hmem x (List.mem_append_left _ hx)) (pairwise_leadingRun key hbefore hitems)

/-- 鍵が要素ごとに異なれば、小さい順の並びは一つに決まる。 -/
theorem arrange_eq (hbefore : ∀ a b, P a → P b → (before a b = true ↔ key a < key b))
    {items sorted : List α} (hitems : ∀ x ∈ items, P x)
    (hkey : ∀ a ∈ items, ∀ b ∈ items, key a = key b → a = b) (hperm : sorted.Perm items)
    (hsorted : sorted.Pairwise fun a b => key a ≤ key b) : arrange before items = sorted := by
  have hboth : (arrange before items).Perm sorted := (arrange_perm before items).trans hperm.symm
  refine hboth.eq_of_pairwise (fun a b ha hb hab hba => ?_) (pairwise_arrange key hbefore hitems) hsorted
  exact hkey a ((arrange_perm before items).mem_iff.mp ha) b (hperm.mem_iff.mp hb)
    (le_antisymm hab hba)

end Tategaki
