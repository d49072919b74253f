import Mathlib.Data.List.Infix
import Mathlib.Tactic.Tauto
import Tategaki.Files.Tree

/-!
# 直下の名前

ディレクトリの直下の名前は、code point の順に、重ならずに並ぶ（`pairwise_children`）。並ぶのは、木にある場所の途中か終わりに
現れる名前だけである（`mem_children_iff`）。

だから、直下の、名前の末尾が決まったものがどれもファイルなら、それらのファイルは、名前の順に並べた一通りの列になる
（`exists_lists`）。
-/

namespace Tategaki

/-! ## 名前の順 -/

theorem Text.before_trans {a b c : String} (hab : before a b = true) (hbc : before b c = true) :
    before a c = true :=
  decide_eq_true (List.lt_trans (of_decide_eq_true hab) (of_decide_eq_true hbc))

/-- 異なる名前は、どちらかが先である。 -/
theorem Text.before_of_not_before {a b : String} (hne : a ≠ b) (h : before a b = false) :
    before b a = true := by
  have hle := List.not_lt.mp (of_decide_eq_false h)
  by_contra hcontra
  have hle' := List.not_lt.mp fun hlt => hcontra (decide_eq_true hlt)
  have hinj : Function.Injective Char.toNat := fun _ _ => Char.toNat_inj.mp
  exact hne (String.toList_injective
    (List.map_injective_iff.mpr hinj (List.le_antisymm hle' hle)))

namespace FileTree

theorem mem_insertName_iff {name x : String} {names : List String} :
    x ∈ insertName name names ↔ x = name ∨ x ∈ names := by
  induction names with
  | nil => simp [insertName]
  | cons y rest ih =>
    rw [insertName]
    split
    · next hsame =>
      rw [eq_of_beq hsame]
      simp
    · split
      · simp
      · rw [List.mem_cons, ih, List.mem_cons]
        tauto

/-- 順に並んだ名前に一つ加えても、順に並ぶ。 -/
theorem pairwise_insertName {name : String} {names : List String}
    (h : names.Pairwise fun a b => Text.before a b = true) :
    (insertName name names).Pairwise fun a b => Text.before a b = true := by
  induction h with
  | nil => exact List.pairwise_singleton _ _
  | @cons y rest hy hrest ih =>
    rw [insertName]
    split
    · exact .cons hy hrest
    · next hne =>
      split
      · next hbefore =>
        refine .cons (fun x hx => ?_) (.cons hy hrest)
        rcases List.mem_cons.mp hx with rfl | hx
        · exact hbefore
        · exact Text.before_trans hbefore (hy x hx)
      · next hnot =>
        refine .cons (fun x hx => ?_) ih
        rcases mem_insertName_iff.mp hx with rfl | hx
        · exact Text.before_of_not_before (fun heq => hne (beq_iff_eq.mpr heq.symm))
            (Bool.eq_false_iff.mpr hnot)
        · exact hy x hx

/-! ## 直下の名前 -/

/-- 場所の続きの、最初の名前。 -/
theorem head?_drop_eq_some_iff {place other : Place} {name : String} :
    (if other.take place.length == place then (other.drop place.length).head? else none)
      = some name ↔ place ++ [name] <+: other := by
  constructor
  · intro h
    split at h
    · next hprefix =>
      obtain ⟨tail, htail⟩ := List.head?_eq_some_iff.mp h
      have hcut := List.take_append_drop place.length other
      rw [eq_of_beq hprefix, htail] at hcut
      exact ⟨tail, by rw [List.append_assoc, List.singleton_append, hcut]⟩
    · cases h
  · rintro ⟨tail, rfl⟩
    simp

theorem mem_children_iff {t : FileTree} {place : Place} {name : String} :
    name ∈ t.children place ↔ ∃ e ∈ t.entries, place ++ [name] <+: e.1 := by
  have hfold : ∀ found names : List String,
      name ∈ found.foldl (fun names name => insertName name names) names ↔
        name ∈ found ∨ name ∈ names := by
    intro found
    induction found with
    | nil => simp
    | cons x found ih =>
      intro names
      rw [List.foldl_cons, ih, mem_insertName_iff, List.mem_cons]
      tauto
  rw [children, hfold, List.mem_filterMap]
  simp only [head?_drop_eq_some_iff, List.not_mem_nil, or_false]

/-- **直下の名前は、重ならずに順に並ぶ。** -/
theorem pairwise_children (t : FileTree) (place : Place) :
    (t.children place).Pairwise fun a b => Text.before a b = true := by
  have hfold : ∀ found names : List String, (names.Pairwise fun a b => Text.before a b = true) →
      (found.foldl (fun names name => insertName name names) names).Pairwise
        fun a b => Text.before a b = true := by
    intro found
    induction found with
    | nil => exact fun _ h => h
    | cons x found ih => exact fun names h => ih _ (pairwise_insertName h)
  exact hfold _ _ .nil

/-- ファイルの名前は、直下の名前である。 -/
theorem mem_children_of_bytes? {t : FileTree} {place : Place} {name : String} {bytes : Bytes}
    (h : t.bytes? (place ++ [name]) = some bytes) : name ∈ t.children place := by
  unfold bytes? at h
  split at h
  · next hlookup =>
    obtain ⟨e, he, -⟩ := Option.map_eq_some_iff.mp hlookup
    have hplace : e.1 = place ++ [name] := by simpa using List.find?_some he
    exact mem_children_iff.mpr ⟨e, List.mem_of_find?_eq_some he, hplace ▸ List.prefix_rfl⟩
  · cases h

/-- `dir` の直下の、名前が `suffix` で終わるものは、どれもファイルである。 -/
def HoldsFiles (t : FileTree) (dir : Place) (suffix : String) : Prop :=
  ∀ name ∈ t.children dir, name.endsWith suffix = true → (t.bytes? (dir ++ [name])).isSome = true

instance (t : FileTree) (dir : Place) (suffix : String) : Decidable (t.HoldsFiles dir suffix) :=
  inferInstanceAs (Decidable (∀ name ∈ t.children dir, name.endsWith suffix = true →
    (t.bytes? (dir ++ [name])).isSome = true))

/-- `dir` の直下の、名前が `suffix` で終わるファイルを、名前の順に並べた列である。 -/
structure Lists (t : FileTree) (dir : Place) (suffix : String) (files : List (String × Bytes)) :
    Prop where
  ordered : files.Pairwise fun a b => Text.before a.1 b.1 = true
  mem_iff : ∀ name bytes, (name, bytes) ∈ files ↔
    name.endsWith suffix = true ∧ t.bytes? (dir ++ [name]) = some bytes

/-- 直下の、名前が `suffix` で終わるものがどれもファイルなら、その列がある。 -/
theorem exists_lists {t : FileTree} {dir : Place} {suffix : String}
    (h : t.HoldsFiles dir suffix) :
    ∃ files, t.Lists dir suffix files ∧
      (t.children dir).filter (·.endsWith suffix) = files.map (·.1) := by
  obtain ⟨names, hnames⟩ : ∃ names, (t.children dir).filter (·.endsWith suffix) = names := ⟨_, rfl⟩
  have hmem : ∀ name, name ∈ names ↔ name ∈ t.children dir ∧ name.endsWith suffix = true := by
    rw [← hnames]
    exact fun name => List.mem_filter
  let entry (name : String) : Option (String × Bytes) :=
    (t.bytes? (dir ++ [name])).map (name, ·)
  -- どの名前にもファイルがあるので、中身を付けても名前の列は変わらない
  have hnames' : (names.filterMap entry).map (·.1) = names := by
    rw [List.map_filterMap]
    refine (List.filterMap_congr fun name hname => ?_).trans List.filterMap_some
    obtain ⟨bytes, hbytes⟩ := Option.isSome_iff_exists.mp
      (h name ((hmem name).mp hname).1 ((hmem name).mp hname).2)
    simp only [entry, hbytes, Option.map_some]
  refine ⟨names.filterMap entry, ⟨?_, fun name bytes => ?_⟩, hnames.trans hnames'.symm⟩
  · have hordered := (pairwise_children t dir).filter (·.endsWith suffix)
    rw [hnames, ← hnames'] at hordered
    exact List.pairwise_map.mp hordered
  · simp only [entry, List.mem_filterMap, Option.map_eq_some_iff, Prod.mk.injEq]
    constructor
    · rintro ⟨_, hname, _, hbytes, rfl, rfl⟩
      exact ⟨((hmem _).mp hname).2, hbytes⟩
    · rintro ⟨hsuffix, hbytes⟩
      exact ⟨name, (hmem name).mpr ⟨mem_children_of_bytes? hbytes, hsuffix⟩, bytes, hbytes, rfl, rfl⟩

end FileTree

end Tategaki
