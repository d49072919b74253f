import Mathlib.Data.List.Chain
import Mathlib.Data.List.Forall2
import Tategaki.Node

/-!
# まとめた節の並び

`mergeTexts` の結果には、もうまとめるところがなく（`IsMerged`）、そういう並びはまとめても変わらない。二つの並びをまとめた結果が
等しいのは、縦中横の節が同じ順に並び（`groups`）、その前と間と後ろの文字列が等しい（`gaps`）ときに限る
（`mergeTexts_eq_iff`）。だから、まとめた並びは正規形である。

`mergeTexts` は並びを後ろから畳む。前から一つずつ、直前の文字列につないでいっても、同じ並びになる（`foldl_absorb`）。節が
番号で指され、同じ節をいくつもの並びが指しているときは、つないだ文字列を新しい節として置くので、元の節は変わらない
（`mergeShared_refers`）。
-/

namespace Tategaki.Node

variable {n : Node} {ns xs ys : List Node}

/-! ## 隣り合う節 -/

/-- 縦中横の節か。 -/
def isGrouped : Node → Bool
  | text _ => false
  | grouped _ _ => true

/-- `n` を並び `ns` の端に加えると、そのまま端に立つ。空の文字列でなく、端の文字列と隣り合うこともない。 -/
inductive Stands : Node → List Node → Prop
  | grouped {s : Text} {cssClass : String} {ns : List Node} : Stands (.grouped s cssClass) ns
  | alone {c : Char} {s : Text} : Stands (.text (c :: s)) []
  | beside {c : Char} {s t : Text} {cssClass : String} {ns : List Node} :
      Stands (.text (c :: s)) (.grouped t cssClass :: ns)

theorem stands_iff : Stands n ns ↔
    n ≠ text [] ∧ ∀ m ∈ ns.head?, n.isGrouped = true ∨ m.isGrouped = true := by
  constructor
  · rintro (_ | _ | _) <;> simp [isGrouped]
  · rintro ⟨hn, hhead⟩
    match n, ns with
    | text [], _ => exact absurd rfl hn
    | text (c :: s), text t :: rest => simp [isGrouped] at hhead
    | text (c :: s), [] => exact .alone
    | text (c :: s), .grouped t cssClass :: rest => exact .beside
    | .grouped s cssClass, _ => exact .grouped

/-- 並びの端に加える節は、空の文字列か、端の文字列につながる文字列か、そのまま端に立つ節である。 -/
theorem stands_cases (n : Node) (ns : List Node) :
    n = text [] ∨ (∃ s t rest, s ≠ [] ∧ n = text s ∧ ns = text t :: rest) ∨ Stands n ns := by
  match n, ns with
  | text [], _ => exact .inl rfl
  | text (c :: s), text t :: rest =>
    exact .inr (.inl ⟨c :: s, t, rest, List.cons_ne_nil c s, rfl, rfl⟩)
  | text (c :: s), [] => exact .inr (.inr .alone)
  | text (c :: s), .grouped t cssClass :: rest => exact .inr (.inr .beside)
  | .grouped s cssClass, _ => exact .inr (.inr .grouped)

theorem prepend_text_text (s t : Text) (ns : List Node) :
    prepend (text s) (text t :: ns) = text (s ++ t) :: ns := by cases s <;> rfl

theorem Stands.prepend_eq (h : Stands n ns) : prepend n ns = n :: ns := by cases h <;> rfl

/-! ## まとまった並び -/

/-- もうまとめるところのない並び。空の文字列がなく、文字列どうしが隣り合わない。 -/
structure IsMerged (nodes : List Node) : Prop where
  ne_empty : ∀ n ∈ nodes, n ≠ text []
  apart : nodes.IsChain fun a b => a.isGrouped = true ∨ b.isGrouped = true

theorem isMerged_nil : IsMerged [] := ⟨by simp, .nil⟩

theorem isMerged_cons_iff : IsMerged (n :: ns) ↔ Stands n ns ∧ IsMerged ns := by
  constructor
  · rintro ⟨hne, hapart⟩
    obtain ⟨hn, hne⟩ := List.forall_mem_cons.mp hne
    obtain ⟨hhead, hapart⟩ := List.isChain_cons.mp hapart
    exact ⟨stands_iff.mpr ⟨hn, hhead⟩, hne, hapart⟩
  · rintro ⟨hstands, hne, hapart⟩
    obtain ⟨hn, hhead⟩ := stands_iff.mp hstands
    exact ⟨List.forall_mem_cons.mpr ⟨hn, hne⟩, List.isChain_cons.mpr ⟨hhead, hapart⟩⟩

/-- 端の文字列に文字列をつないでも、まとまっている。 -/
theorem IsMerged.join {s t u : Text} (h : IsMerged (text t :: ns)) (hs : s ≠ [])
    (hu : u = s ++ t ∨ u = t ++ s) : IsMerged (text u :: ns) := by
  -- つないだ文字列の隣は、つなぐ前の文字列の隣と同じである
  obtain ⟨hstands, hrest⟩ := isMerged_cons_iff.mp h
  have hne : u ≠ [] := by rcases hu with rfl | rfl <;> simp [hs]
  exact isMerged_cons_iff.mpr
    ⟨stands_iff.mpr ⟨by simp [hne], (stands_iff.mp hstands).2⟩, hrest⟩

/-- まとまった並びの先頭に加えても、まとまっている。 -/
theorem isMerged_prepend (n : Node) (h : IsMerged ns) : IsMerged (prepend n ns) := by
  rcases stands_cases n ns with rfl | ⟨s, t, rest, hs, rfl, rfl⟩ | hn
  · exact h
  · rw [prepend_text_text]
    exact h.join hs (.inl rfl)
  · rw [hn.prepend_eq]
    exact isMerged_cons_iff.mpr ⟨hn, h⟩

theorem isMerged_mergeTexts (nodes : List Node) : IsMerged (mergeTexts nodes) := by
  induction nodes with
  | nil => exact isMerged_nil
  | cons n ns ih => exact isMerged_prepend n ih

/-- **まとまった並びは、まとめても変わらない。** -/
theorem mergeTexts_of_isMerged (h : IsMerged ns) : mergeTexts ns = ns := by
  induction ns with
  | nil => rfl
  | cons n ns ih =>
    obtain ⟨hn, hrest⟩ := isMerged_cons_iff.mp h
    rw [mergeTexts_cons, ih hrest, hn.prepend_eq]

/-- 隣り合う条件は左右を問わないので、逆順に並べてもまとまっている。 -/
theorem isMerged_reverse (h : IsMerged ns) : IsMerged ns.reverse := by
  refine ⟨fun n hn => h.ne_empty n (List.mem_reverse.mp hn), List.isChain_reverse.mpr ?_⟩
  exact h.apart.imp fun _ _ => Or.symm

/-! ## つないだ並び -/

/-- 文字列を続けて二つ加えるのは、つないだ文字列を加えるのと同じである。 -/
theorem prepend_text_append (s t : Text) (ns : List Node) :
    prepend (text (s ++ t)) ns = prepend (text s) (prepend (text t) ns) := by
  cases s with
  | nil => rfl
  | cons c s =>
    rcases stands_cases (text t) ns with ht | ⟨-, u, rest, -, -, rfl⟩ | ht
    · cases ht
      rw [List.append_nil]
      rfl
    · rw [prepend_text_text, prepend_text_text, prepend_text_text, List.append_assoc]
    · cases ht <;> rfl

theorem mergeTexts_append (xs ys : List Node) :
    mergeTexts (xs ++ ys) = xs.foldr prepend (mergeTexts ys) := List.foldr_append

/-- 先頭に加えてから後ろをつけても、後ろをつけてから先頭に加えても同じである。 -/
theorem foldr_prepend_prepend (n : Node) (ns ms : List Node) :
    (prepend n ns).foldr prepend ms = prepend n (ns.foldr prepend ms) := by
  rcases stands_cases n ns with rfl | ⟨s, t, rest, -, rfl, rfl⟩ | hn
  · rfl
  · rw [prepend_text_text]
    exact prepend_text_append s t (rest.foldr prepend ms)
  · rw [hn.prepend_eq, List.foldr_cons]

theorem foldr_prepend_mergeTexts (xs ms : List Node) :
    (mergeTexts xs).foldr prepend ms = xs.foldr prepend ms := by
  induction xs with
  | nil => rfl
  | cons n xs ih => rw [mergeTexts_cons, foldr_prepend_prepend, ih, List.foldr_cons]

/-- **前と後ろを別々にまとめておいても、つないでまとめた結果は変わらない。** -/
theorem mergeTexts_mergeTexts_append (xs ys : List Node) :
    mergeTexts (mergeTexts xs ++ mergeTexts ys) = mergeTexts (xs ++ ys) := by
  rw [mergeTexts_append, mergeTexts_append, foldr_prepend_mergeTexts,
    mergeTexts_of_isMerged (isMerged_mergeTexts ys)]

/-! ## 縦中横の節と、その間の文字列 -/

/-- 縦中横の節を順に並べたもの。 -/
def groups (nodes : List Node) : List Node := nodes.filter isGrouped

/-- 縦中横の節で並びを切り、はじめの節の前、節と節の間、最後の節の後ろの文字列を順に並べたもの。 -/
def gaps (nodes : List Node) : List Text := (nodes.splitOnP isGrouped).map contents

theorem groups_text_cons (s : Text) (ns : List Node) : groups (text s :: ns) = groups ns := rfl

theorem groups_grouped_cons (s : Text) (cssClass : String) (ns : List Node) :
    groups (grouped s cssClass :: ns) = grouped s cssClass :: groups ns := rfl

theorem gaps_ne_nil (nodes : List Node) : gaps nodes ≠ [] := by
  simp [gaps]

theorem gaps_text_cons (s : Text) (ns : List Node) :
    gaps (text s :: ns) = (gaps ns).modifyHead (s ++ ·) := by
  rw [gaps, gaps, List.splitOnP_cons_eq_if_modifyHead, if_neg (by simp [isGrouped])]
  cases ns.splitOnP isGrouped <;> rfl

theorem gaps_grouped_cons (s : Text) (cssClass : String) (ns : List Node) :
    gaps (grouped s cssClass :: ns) = [] :: gaps ns := by
  simp [gaps, List.splitOnP_cons_eq_if_modifyHead, isGrouped]

theorem groups_prepend (n : Node) (ns : List Node) : groups (prepend n ns) = groups (n :: ns) := by
  rcases stands_cases n ns with rfl | ⟨s, t, rest, -, rfl, rfl⟩ | hn
  · rfl
  · rw [prepend_text_text]
    rfl
  · rw [hn.prepend_eq]

theorem gaps_prepend (n : Node) (ns : List Node) : gaps (prepend n ns) = gaps (n :: ns) := by
  rcases stands_cases n ns with rfl | ⟨s, t, rest, -, rfl, rfl⟩ | hn
  · show gaps ns = gaps (text [] :: ns)
    rw [gaps_text_cons]
    cases gaps ns <;> rfl
  · rw [prepend_text_text, gaps_text_cons, gaps_text_cons, gaps_text_cons]
    cases gaps rest with
    | nil => rfl
    | cons gap later => exact congrArg (· :: later) (List.append_assoc s t gap)
  · rw [hn.prepend_eq]

theorem groups_mergeTexts (nodes : List Node) : groups (mergeTexts nodes) = groups nodes := by
  induction nodes with
  | nil => rfl
  | cons n ns ih =>
    rw [mergeTexts_cons, groups_prepend]
    cases n with
    | text s => rw [groups_text_cons, groups_text_cons, ih]
    | grouped s cssClass => rw [groups_grouped_cons, groups_grouped_cons, ih]

theorem gaps_mergeTexts (nodes : List Node) : gaps (mergeTexts nodes) = gaps nodes := by
  induction nodes with
  | nil => rfl
  | cons n ns ih =>
    rw [mergeTexts_cons, gaps_prepend]
    cases n with
    | text s => rw [gaps_text_cons, gaps_text_cons, ih]
    | grouped s cssClass => rw [gaps_grouped_cons, gaps_grouped_cons, ih]

/-- 縦中横の節を、その前と間と後ろの文字列の間に並べる。 -/
def weave : List Text → List Node → List Node
  | [], _ => []
  | gap :: _, [] => prepend (text gap) []
  | gap :: gaps, n :: groups => prepend (text gap) (n :: weave gaps groups)

theorem weave_modifyHead (s : Text) {gaps : List Text} (h : gaps ≠ []) (groups : List Node) :
    weave (gaps.modifyHead (s ++ ·)) groups = prepend (text s) (weave gaps groups) := by
  cases gaps with
  | nil => exact absurd rfl h
  | cons gap gaps => cases groups <;> exact prepend_text_append s gap _

/-- **まとめた並びは、縦中横の節とその間の文字列から決まる。** -/
theorem mergeTexts_eq_weave (nodes : List Node) :
    mergeTexts nodes = weave (gaps nodes) (groups nodes) := by
  induction nodes with
  | nil => rfl
  | cons n ns ih =>
    cases n with
    | text s =>
      rw [mergeTexts_cons, ih, gaps_text_cons, groups_text_cons,
        weave_modifyHead s (gaps_ne_nil ns)]
    | grouped s cssClass =>
      rw [mergeTexts_cons, ih, gaps_grouped_cons, groups_grouped_cons]
      rfl

theorem mergeTexts_eq_iff :
    mergeTexts xs = mergeTexts ys ↔ groups xs = groups ys ∧ gaps xs = gaps ys := by
  constructor
  · intro h
    constructor
    · rw [← groups_mergeTexts xs, h, groups_mergeTexts]
    · rw [← gaps_mergeTexts xs, h, gaps_mergeTexts]
  · rintro ⟨hgroups, hgaps⟩
    rw [mergeTexts_eq_weave, mergeTexts_eq_weave, hgroups, hgaps]

/-! ## 前から順につなぐ -/

/-- 並びの末尾に節を加える。空の文字列は捨て、直前が文字列ならそれにつなぐ。並びは新しい順に持つ。 -/
def absorb (latest : List Node) (n : Node) : List Node :=
  match n, latest with
  | text [], _ => latest
  | text s, text t :: earlier => text (t ++ s) :: earlier
  | _, _ => n :: latest

theorem absorb_text_text {s : Text} (hs : s ≠ []) (t : Text) (earlier : List Node) :
    absorb (text t :: earlier) (text s) = text (t ++ s) :: earlier := by
  cases s with
  | nil => exact absurd rfl hs
  | cons c s => rfl

theorem Stands.absorb_eq (h : Stands n ns) : absorb ns n = n :: ns := by cases h <;> rfl

theorem isMerged_absorb (n : Node) (h : IsMerged ns) : IsMerged (absorb ns n) := by
  rcases stands_cases n ns with rfl | ⟨s, t, rest, hs, rfl, rfl⟩ | hn
  · exact h
  · rw [absorb_text_text hs]
    exact h.join hs (.inr rfl)
  · rw [hn.absorb_eq]
    exact isMerged_cons_iff.mpr ⟨hn, h⟩

/-- 末尾に加えるときにつないでおいても、後でまとめれば同じである。 -/
theorem mergeTexts_absorb (latest : List Node) (n : Node) (later : List Node) :
    mergeTexts ((absorb latest n).reverse ++ later)
      = mergeTexts (latest.reverse ++ n :: later) := by
  rcases stands_cases n latest with rfl | ⟨s, t, earlier, hs, rfl, rfl⟩ | hn
  · rw [mergeTexts_append, mergeTexts_append]
    rfl
  · simp only [absorb_text_text hs, List.reverse_cons, List.append_assoc, List.singleton_append,
      mergeTexts_append, mergeTexts_cons, prepend_text_append]
  · rw [hn.absorb_eq, List.reverse_cons, List.append_assoc, List.singleton_append]

theorem foldl_absorb_reverse (h : IsMerged ns) (xs : List Node) :
    (xs.foldl absorb ns).reverse = mergeTexts (ns.reverse ++ xs) := by
  -- つないだところまでの並び `ns` は、一つ加えるたびにまとまったままである
  induction xs generalizing ns with
  | nil => rw [List.append_nil, mergeTexts_of_isMerged (isMerged_reverse h), List.foldl_nil]
  | cons n xs ih => rw [List.foldl_cons, ih (isMerged_absorb n h), mergeTexts_absorb]

/-- **前から順につないでいっても、まとめた並びになる。** -/
theorem foldl_absorb (xs : List Node) : xs.foldl absorb [] = (mergeTexts xs).reverse := by
  rw [← List.reverse_reverse (xs.foldl absorb []), foldl_absorb_reverse isMerged_nil]
  rfl

/-! ## 番号で指される節 -/

/-- 番号の並び `refs` の指す節が、順に `nodes` である。番号 `i` の節は、置き場 `store` の `i` 番目にある。 -/
def Refers (store : List Node) (refs : List Nat) (nodes : List Node) : Prop :=
  List.Forall₂ (fun ref n => store[ref]? = some n) refs nodes

/-- 節を置き足しても、番号の指す節は変わらない。 -/
theorem Refers.mono {store store' nodes : List Node} {refs : List Nat} (h : Refers store refs nodes)
    (hstore : store <+: store') : Refers store' refs nodes := by
  obtain ⟨added, rfl⟩ := hstore
  refine List.Forall₂.imp (fun ref n href => ?_) h
  rw [List.getElem?_append_left (List.getElem?_eq_some_iff.mp href).1]
  exact href

/-- まとめかけの状態。`merged` は、まとめた節の番号を新しい順に持つ。 -/
structure Merging where
  store : List Node
  merged : List Nat

namespace Merging

/-- 直前にまとめた節。 -/
def last? (m : Merging) : Option Node := m.merged.head?.bind (m.store[·]?)

/--
番号の指す節を末尾に加える。

直前も文字列なら、つないだ文字列を新しい節として置き、直前の番号をその番号に替える。指す節のない番号は読み飛ばす。
-/
def push (m : Merging) (ref : Nat) : Merging :=
  match m.store[ref]?, m.last? with
  | none, _ => m
  | some (text []), _ => m
  | some (text s), some (text t) =>
    { store := m.store ++ [text (t ++ s)], merged := m.store.length :: m.merged.tail }
  | some _, _ => { m with merged := ref :: m.merged }

variable {m : Merging} {ref : Nat} {latest : List Node}

theorem last?_eq (h : Refers m.store m.merged latest) : m.last? = latest.head? := by
  obtain ⟨store, merged⟩ := m
  cases h with
  | nil => rfl
  | cons hlast hrest => exact hlast

/-- **番号の指す節を加えても、置いてある節は変わらない。まとめかけの並びには、その節がつながる。** -/
theorem push_refers (h : Refers m.store m.merged latest) (hn : m.store[ref]? = some n) :
    m.store <+: (m.push ref).store ∧
      Refers (m.push ref).store (m.push ref).merged (absorb latest n) := by
  rcases stands_cases n latest with rfl | ⟨s, t, earlier, hs, rfl, rfl⟩ | hstands
  · have hpush : m.push ref = m := by rw [push, hn]
    rw [hpush]
    exact ⟨List.prefix_rfl, h⟩
  · have hpush : m.push ref =
        { store := m.store ++ [text (t ++ s)], merged := m.store.length :: m.merged.tail } := by
      rw [push, hn, last?_eq h]
      cases s with
      | nil => exact absurd rfl hs
      | cons c s => rfl
    have hearlier : Refers m.store m.merged.tail earlier := by
      obtain ⟨store, merged⟩ := m
      cases h with
      | cons hlast hrest => exact hrest
    rw [hpush, absorb_text_text hs]
    exact ⟨List.prefix_append _ _,
      .cons List.getElem?_concat_length (hearlier.mono (List.prefix_append _ _))⟩
  · have hpush : m.push ref = { m with merged := ref :: m.merged } := by
      rw [push, hn, last?_eq h]
      cases hstands <;> rfl
    rw [hpush, hstands.absorb_eq]
    exact ⟨List.prefix_rfl, .cons hn h⟩

/-- 番号の並びを順に加えたときも同じである。 -/
theorem foldl_push_refers {refs : List Nat} (h : Refers m.store m.merged latest)
    (hxs : Refers m.store refs xs) :
    m.store <+: (refs.foldl push m).store ∧
      Refers (refs.foldl push m).store (refs.foldl push m).merged (xs.foldl absorb latest) := by
  induction refs generalizing m latest xs with
  | nil =>
    cases hxs
    exact ⟨List.prefix_rfl, h⟩
  | cons ref refs ih =>
    cases hxs with
    | cons hn hrest =>
      obtain ⟨hstore, hpush⟩ := push_refers h hn
      obtain ⟨hstore', hrun⟩ := ih hpush (Refers.mono hrest hstore)
      exact ⟨hstore.trans hstore', hrun⟩

end Merging

/-- 番号で指される節を順にまとめる。後の置き場と、まとめた節の番号を返す。 -/
def mergeShared (store : List Node) (refs : List Nat) : List Node × List Nat :=
  let m := refs.foldl Merging.push { store, merged := [] }
  (m.store, m.merged.reverse)

/-- **番号で指される節をまとめても、置いてある節は変わらない。できる番号の指す節は、まとめた並びである。** -/
theorem mergeShared_refers {store : List Node} {refs : List Nat} (h : Refers store refs xs) :
    store <+: (mergeShared store refs).1 ∧
      Refers (mergeShared store refs).1 (mergeShared store refs).2 (mergeTexts xs) := by
  obtain ⟨hstore, hrun⟩ := Merging.foldl_push_refers (m := { store, merged := [] }) .nil h
  refine ⟨hstore, ?_⟩
  rw [foldl_absorb] at hrun
  rw [← List.reverse_reverse (mergeTexts xs)]
  exact List.rel_reverse hrun

/-! ## まとめた並びの形 -/

/--
**まとめた並びは、もとの並びの正規形である。**

全体の文字列も、縦中横の節の順も変わらず、空の文字列も隣り合う文字列もない。節が番号で指されていても、置いてある節は変わらない。
二度まとめても、前と後ろを別々にまとめてからつないでまとめても、結果は同じである。二つの並びをまとめた結果が等しいのは、
縦中横の節が同じ順に並び、その前と間と後ろの文字列が等しいときに限る。
-/
theorem mergeTexts_normalizes (xs : List Node) :
    contents (mergeTexts xs) = contents xs ∧
    groups (mergeTexts xs) = groups xs ∧
    IsMerged (mergeTexts xs) ∧
    (∀ store refs, Refers store refs xs → store <+: (mergeShared store refs).1 ∧
      Refers (mergeShared store refs).1 (mergeShared store refs).2 (mergeTexts xs)) ∧
    mergeTexts (mergeTexts xs) = mergeTexts xs ∧
    ∀ ys, mergeTexts (xs ++ ys) = mergeTexts (mergeTexts xs ++ mergeTexts ys) ∧
      (mergeTexts xs = mergeTexts ys ↔ groups xs = groups ys ∧ gaps xs = gaps ys) :=
  ⟨contents_mergeTexts xs, groups_mergeTexts xs, isMerged_mergeTexts xs,
    fun _ _ h => mergeShared_refers h, mergeTexts_of_isMerged (isMerged_mergeTexts xs),
    fun ys => ⟨(mergeTexts_mergeTexts_append xs ys).symm, mergeTexts_eq_iff⟩⟩

/-- 同じ文字列の節が三度現れる並び。初めの二度はつながって新しい節になり、三度目はその節のまま残る。 -/
theorem mergeTexts_normalizes_shared :
    Refers [text ['一'], grouped ['1', '2'] "tcy", text []] [0, 0, 2, 1, 0]
        [text ['一'], text ['一'], text [], grouped ['1', '2'] "tcy", text ['一']] ∧
      [text ['一'], grouped ['1', '2'] "tcy", text []]
        <+: [text ['一'], grouped ['1', '2'] "tcy", text [], text ['一', '一']] ∧
      Refers [text ['一'], grouped ['1', '2'] "tcy", text [], text ['一', '一']] [3, 1, 0]
        [text ['一', '一'], grouped ['1', '2'] "tcy", text ['一']] := by
  have hrefs : Refers [text ['一'], grouped ['1', '2'] "tcy", text []] [0, 0, 2, 1, 0]
      [text ['一'], text ['一'], text [], grouped ['1', '2'] "tcy", text ['一']] :=
    .cons rfl (.cons rfl (.cons rfl (.cons rfl (.cons rfl .nil))))
  have hmerged : mergeShared [text ['一'], grouped ['1', '2'] "tcy", text []] [0, 0, 2, 1, 0]
      = ([text ['一'], grouped ['1', '2'] "tcy", text [], text ['一', '一']], [3, 1, 0]) := rfl
  obtain ⟨-, -, -, hshared, -⟩ := mergeTexts_normalizes
    [text ['一'], text ['一'], text [], grouped ['1', '2'] "tcy", text ['一']]
  obtain ⟨hstore, hrefers⟩ := hshared _ _ hrefs
  rw [hmerged] at hstore hrefers
  exact ⟨hrefs, hstore, hrefers⟩

end Tategaki.Node
