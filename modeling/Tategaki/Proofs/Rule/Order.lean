import Mathlib.Data.List.Nodup
import Mathlib.Data.Prod.Lex
import Tategaki.Proofs.Number.Order
import Tategaki.Proofs.Rule.Arrange
import Tategaki.Rule.Registry

/-!
# 規則を試す順

操作を重ねて得られる登録簿（`Registry.Reachable`）では、通し番号は互いに異なり、使い回す並びは
いつも、有効な規則を整列し直したものに等しい（`Registry.Ordered`）。

優先順位に非数がなければ、試す順は優先順位と通し番号の辞書式の順である。だから、試す順で最初に
合う規則（`Registry.FirstAt`）は、合う規則のうち優先順位と通し番号の最も小さいもの
（`Registry.LeastAt`）である。
-/

namespace Tategaki

/-! ## 整列の鍵 -/

namespace Rule

/-- 整列の鍵。優先順位、通し番号の順に比べる。 -/
def sortKey (r : Rule) : Lex (WithBot (WithTop ℚ) × ℕ) := toLex (r.priority.value, r.sequence)

/-- 優先順位が非数でなければ、先に試すのは鍵の小さい方である。 -/
theorem before_iff {a b : Rule} (ha : a.priority ≠ .nan) (hb : b.priority ≠ .nan) :
    a.before b = true ↔ a.sortKey < b.sortKey := by
  unfold before sortKey
  rw [Prod.Lex.toLex_lt_toLex]
  by_cases heq : a.priority.eq b.priority = true
  · have hv := (Binary64.eq_iff_value ha hb).mp heq
    rw [if_pos heq, decide_eq_true_eq]
    simp [hv]
  · have hv : a.priority.value ≠ b.priority.value := fun h =>
      heq ((Binary64.eq_iff_value ha hb).mpr h)
    rw [if_neg heq, Binary64.lt_iff_value ha hb]
    simp [hv]

/-- 鍵が等しければ、通し番号も等しい。 -/
theorem sequence_eq_of_sortKey {a b : Rule} (h : a.sortKey = b.sortKey) :
    a.sequence = b.sequence :=
  congrArg (fun k => (ofLex k).2) h

end Rule

namespace Registry

/-! ## 操作で得られる登録簿 -/

/-- 空の登録簿から、操作を重ねて得られる。 -/
inductive Reachable : Registry → Prop
  | empty (limits : Limits) : Reachable (empty limits)
  | register {r r' : Registry} {d : Definition} {base order : Number} {enabled : Option Bool}
      {rule : Rule} (hr : Reachable r) (h : r.register d base order enabled = .ok (rule, r')) :
      Reachable r'
  | unregister {r : Registry} (hr : Reachable r) (name : String) : Reachable (r.unregister name).2
  | clear {r : Registry} (hr : Reachable r) : Reachable r.clear
  | setEnabled {r r' : Registry} {name : String} {enabled : Bool} (hr : Reachable r)
      (h : r.setEnabled name enabled = some r') : Reachable r'
  | getAll {r : Registry} (hr : Reachable r) : Reachable r.getAll.2
  | spend {r : Registry} (hr : Reachable r) (b : Budget) : Reachable { r with budget := b }

theorem reachable_registerFrom {base : Binary64} {groupDisabled : Bool} :
    ∀ (definitions : List Definition) (order : Nat) {r : Registry}, r.Reachable →
      (registerFrom base groupDisabled order definitions r).2.Reachable
  | [], _, _, hr => hr
  | d :: rest, order, r, hr => by
    rw [registerFrom]
    split
    · exact hr
    · next heq => exact reachable_registerFrom rest (order + 1) (hr.register heq)

theorem reachable_registerGroups : ∀ (groups : List RuleGroup) {r : Registry}, r.Reachable →
    (registerGroups groups r).2.Reachable
  | [], _, hr => hr
  | g :: rest, r, hr => by
    have hg : (r.registerGroup g).2.Reachable := reachable_registerFrom g.patterns 0 hr
    rw [registerGroups]
    split
    · next heq => rw [heq] at hg; exact hg
    · next heq => rw [heq] at hg; exact reachable_registerGroups rest hg

/-- 備え付けの規則の登録簿は、操作で得られる。 -/
theorem reachable_bundled (limits : Limits) : (bundled limits).Reachable :=
  reachable_registerGroups _ (.empty limits)

/-- 通し番号が互いに異なり、使い回す並びが正しい。 -/
structure Ordered (r : Registry) : Prop where
  cache_eq : ∀ view, r.cache = some view → view.rules = r.sortEnabled
  sequence_lt : ∀ rule ∈ r.rules, rule.sequence < r.nextSequence
  sequences_nodup : (r.rules.map (·.sequence)).Nodup

theorem ordered_register {r r' : Registry} {d : Definition} {base order : Number}
    {enabled : Option Bool} {rule : Rule} (hr : r.Ordered)
    (h : r.register d base order enabled = .ok (rule, r')) : r'.Ordered := by
  unfold register at h
  split at h
  · cases h
  · split at h
    · cases h
    · split at h
      · cases h
      · split at h
        · cases h
        · cases h
          refine ⟨(fun _ hv => by cases hv), ?_, ?_⟩
          · intro x hx
            show x.sequence < r.nextSequence + 1
            rcases List.mem_append.mp hx with hx | hx
            · have := hr.sequence_lt x hx
              omega
            · rw [List.mem_singleton.mp hx]
              exact Nat.lt_succ_self _
          · -- 新しい通し番号は、これまでのどれよりも大きい
            rw [List.map_append]
            refine hr.sequences_nodup.append (List.nodup_singleton _) ?_
            intro n hn hn'
            obtain ⟨x, hx, rfl⟩ := List.mem_map.mp hn
            have hlt := hr.sequence_lt x hx
            have heq : x.sequence = r.nextSequence := List.mem_singleton.mp hn'
            omega

theorem ordered_setEnabled {r r' : Registry} {name : String} {enabled : Bool} (hr : r.Ordered)
    (h : r.setEnabled name enabled = some r') : r'.Ordered := by
  unfold setEnabled at h
  split at h
  · cases h
    have hseq : ∀ x : Rule,
        (if x.name == name then { x with enabled } else x).sequence = x.sequence := by
      intro x
      split <;> rfl
    refine ⟨(fun _ hv => by cases hv), ?_, ?_⟩
    · intro x hx
      obtain ⟨y, hy, rfl⟩ := List.mem_map.mp hx
      rw [hseq]
      exact hr.sequence_lt y hy
    · simp only [List.map_map, Function.comp_def, hseq]
      exact hr.sequences_nodup
  · cases h

theorem ordered_getAll {r : Registry} (hr : r.Ordered) : r.getAll.2.Ordered := by
  unfold getAll
  split
  · exact hr
  · refine ⟨?_, hr.sequence_lt, hr.sequences_nodup⟩
    intro view hv
    cases hv
    rfl

/-- **操作で得られる登録簿は、正しい順を持つ。** -/
theorem Reachable.ordered {r : Registry} (h : r.Reachable) : r.Ordered := by
  induction h with
  | empty limits => exact ⟨(fun _ hv => by cases hv), by simp [Registry.empty], List.nodup_nil⟩
  | register _ h ih => exact ordered_register ih h
  | unregister _ name ih =>
    refine ⟨(fun _ hv => by cases hv), ?_, ?_⟩
    · intro x hx
      exact ih.sequence_lt x (List.mem_of_mem_filter hx)
    · exact ih.sequences_nodup.sublist (List.filter_sublist.map _)
  | clear => exact ⟨(fun _ hv => by cases hv), by simp [Registry.clear], List.nodup_nil⟩
  | setEnabled _ h ih => exact ordered_setEnabled ih h
  | getAll _ ih => exact ordered_getAll ih
  | spend _ _ ih => exact ⟨ih.cache_eq, ih.sequence_lt, ih.sequences_nodup⟩

/-! ## 試す順 -/

/-- 走査に使う並びは、有効な規則を整列したものである。 -/
theorem Ordered.activeRules_eq {r : Registry} (h : r.Ordered) : r.activeRules = r.sortEnabled := by
  unfold activeRules
  split
  · next hc => exact h.cache_eq _ hc
  · rfl

theorem mem_sortEnabled {r : Registry} {rule : Rule} :
    rule ∈ r.sortEnabled ↔ rule ∈ r.rules ∧ rule.enabled = true := by
  rw [sortEnabled, (arrange_perm Rule.before _).mem_iff, List.mem_filter]

/-- 通し番号が等しい規則は、同じ規則である。 -/
theorem Ordered.eq_of_sequence {r : Registry} (h : r.Ordered) {a b : Rule} (ha : a ∈ r.rules)
    (hb : b ∈ r.rules) (hs : a.sequence = b.sequence) : a = b :=
  List.inj_on_of_nodup_map h.sequences_nodup ha hb hs

/-- 鍵が等しい規則は、同じ規則である。 -/
theorem Ordered.eq_of_sortKey {r : Registry} (h : r.Ordered) {a b : Rule} (ha : a ∈ r.rules)
    (hb : b ∈ r.rules) (hkey : a.sortKey = b.sortKey) : a = b :=
  h.eq_of_sequence ha hb (Rule.sequence_eq_of_sortKey hkey)

/-- 有効な規則の優先順位に非数がない。 -/
def Comparable (r : Registry) : Prop :=
  ∀ rule ∈ r.rules, rule.enabled = true → rule.priority ≠ .nan

/-- 非数がなければ、試す順は鍵の小さい順である。 -/
theorem Comparable.pairwise_sortEnabled {r : Registry} (hc : r.Comparable) :
    r.sortEnabled.Pairwise fun a b => a.sortKey ≤ b.sortKey := by
  refine pairwise_arrange Rule.sortKey (fun _ _ ha hb => Rule.before_iff ha hb) fun rule hrule => ?_
  obtain ⟨hmem, henabled⟩ := List.mem_filter.mp hrule
  exact hc rule hmem henabled

/-- 有効な規則が、位置から何かを読んで合う。 -/
def MatchesAt (r : Registry) (text : Text) (position : Nat) (rule : Rule)
    (found : Regex.Match) : Prop :=
  rule ∈ r.rules ∧ rule.enabled = true ∧ rule.matchAt text.toArray position = some found

/-- 試す順で最初に合う規則と、その合い方。 -/
def FirstAt (r : Registry) (text : Text) (position : Nat) (rule : Rule)
    (found : Regex.Match) : Prop :=
  ∃ earlier later, r.sortEnabled = earlier ++ rule :: later ∧
    rule.matchAt text.toArray position = some found ∧
    ∀ other ∈ earlier, other.matchAt text.toArray position = none

/-- 合う規則のうち優先順位と通し番号の最も小さいものと、その合い方。 -/
def LeastAt (r : Registry) (text : Text) (position : Nat) (rule : Rule)
    (found : Regex.Match) : Prop :=
  r.MatchesAt text position rule found ∧
    ∀ other found', r.MatchesAt text position other found' →
      other = rule ∨ rule.before other = true

/-- 試す順で最初に合うものは、並びを順に調べて見つかるものである。 -/
theorem firstAt_iff {r : Registry} {text : Text} {position : Nat} {rule : Rule}
    {found : Regex.Match} : r.FirstAt text position rule found ↔
      r.sortEnabled.findSome? (fun x => (x.matchAt text.toArray position).map (x, ·))
        = some (rule, found) := by
  constructor
  · rintro ⟨earlier, later, hl, hm, hnone⟩
    refine List.findSome?_eq_some_iff.mpr ⟨earlier, rule, later, hl, by rw [hm]; rfl, ?_⟩
    intro other hother
    rw [hnone other hother]
    rfl
  · intro h
    obtain ⟨earlier, x, later, hl, hx, hnone⟩ := List.findSome?_eq_some_iff.mp h
    obtain ⟨m, hm, heq⟩ := Option.map_eq_some_iff.mp hx
    cases heq
    exact ⟨earlier, later, hl, hm, fun other hother => Option.map_eq_none_iff.mp (hnone other hother)⟩

theorem FirstAt.matchesAt {r : Registry} {text : Text} {position : Nat} {rule : Rule}
    {found : Regex.Match} (h : r.FirstAt text position rule found) :
    r.MatchesAt text position rule found := by
  obtain ⟨earlier, later, hl, hm, -⟩ := h
  obtain ⟨hr, he⟩ := mem_sortEnabled.mp (by rw [hl]; simp : rule ∈ r.sortEnabled)
  exact ⟨hr, he, hm⟩

/-- 合う規則があれば、試す順で最初のものがある。 -/
theorem MatchesAt.exists_first {r : Registry} {text : Text} {position : Nat} {rule : Rule}
    {found : Regex.Match} (h : r.MatchesAt text position rule found) :
    ∃ first found', r.FirstAt text position first found' := by
  have hsome : (r.sortEnabled.findSome? fun x =>
      (x.matchAt text.toArray position).map (x, ·)).isSome := by
    rw [List.findSome?_isSome_iff]
    exact ⟨rule, mem_sortEnabled.mpr ⟨h.1, h.2.1⟩, by simp [h.2.2]⟩
  obtain ⟨⟨first, found'⟩, hf⟩ := Option.isSome_iff_exists.mp hsome
  exact ⟨first, found', firstAt_iff.mpr hf⟩

/-- 試す順で最初の規則は一つに決まる。 -/
theorem FirstAt.unique {r : Registry} {text : Text} {position : Nat} {a b : Rule}
    {m n : Regex.Match} (ha : r.FirstAt text position a m) (hb : r.FirstAt text position b n) :
    a = b ∧ m = n := by
  have h := (firstAt_iff.mp ha).symm.trans (firstAt_iff.mp hb)
  simpa using h

/-- **非数がなければ、試す順で最初の規則は、優先順位と通し番号の最も小さい規則である。** -/
theorem firstAt_iff_leastAt {r : Registry} (ho : r.Ordered) (hc : r.Comparable) {text : Text}
    {position : Nat} {rule : Rule} {found : Regex.Match} :
    r.FirstAt text position rule found ↔ r.LeastAt text position rule found := by
  -- 最初の規則は、合うほかのどの規則よりも先である
  have least : ∀ {first : Rule} {m : Regex.Match}, r.FirstAt text position first m →
      r.LeastAt text position first m := by
    intro first m h
    refine ⟨h.matchesAt, fun other found' hother => ?_⟩
    obtain ⟨hfirst, henabled, -⟩ := h.matchesAt
    obtain ⟨earlier, later, hl, hm, hnone⟩ := h
    have hsorted := hc.pairwise_sortEnabled
    have hmem := mem_sortEnabled.mpr ⟨hother.1, hother.2.1⟩
    rw [hl] at hmem hsorted
    rcases List.mem_append.mp hmem with hmem | hmem
    · have := hnone other hmem
      rw [hother.2.2] at this
      cases this
    · rcases List.mem_cons.mp hmem with rfl | hmem
      · exact .inl rfl
      · have hle := (List.pairwise_cons.mp (List.pairwise_append.mp hsorted).2.1).1 other hmem
        rcases lt_or_eq_of_le hle with hlt | heq
        · exact .inr ((Rule.before_iff (hc first hfirst henabled)
            (hc other hother.1 hother.2.1)).mpr hlt)
        · exact .inl (ho.eq_of_sortKey hother.1 hfirst heq.symm)
  refine ⟨least, fun h => ?_⟩
  obtain ⟨first, m, hfirst⟩ := h.1.exists_first
  have hmin := least hfirst
  have heq : rule = first := by
    rcases hmin.2 rule found h.1 with heq | hlt
    · exact heq
    · rcases h.2 first m hmin.1 with heq | hgt
      · exact heq.symm
      · have hfn := hc first hmin.1.1 hmin.1.2.1
        have hrn := hc rule h.1.1 h.1.2.1
        exact absurd ((Rule.before_iff hrn hfn).mp hgt)
          (lt_asymm ((Rule.before_iff hfn hrn).mp hlt))
  subst heq
  have hm : m = found := Option.some.inj (hmin.1.2.2.symm.trans h.1.2.2)
  rw [← hm]
  exact hfirst

/-- 文字列 `source` の前に `mark` を置く規則。 -/
def markDefinition (name source mark : String) : Definition where
  name
  expression := { source := source.toList }
  output := .text
  steps := [.wrap mark.toList []]

/-- 優先順位が五、非数、一の三つの規則。非数の規則はほかの二つと違うものに合う。 -/
def unorderedGroups : List RuleGroup :=
  [{ name := "a", basePriority := .ofInt 5, patterns := [markDefinition "five" "x" "5"] },
    { name := "b", basePriority := .nan, patterns := [markDefinition "unordered" "y" "?"] },
    { name := "c", basePriority := .ofInt 1, patterns := [markDefinition "one" "x" "1"] }]

/-- `unorderedGroups` の登録簿。 -/
def unordered : Registry := (registerGroups unorderedGroups (empty {})).2

theorem reachable_unordered : unordered.Reachable := reachable_registerGroups _ (.empty {})

/-- 非数があると、試す順で最初に合う規則より、優先順位の小さい規則が合うことがある。 -/
theorem not_leastAt_unordered {rule : Rule} {found : Regex.Match}
    (h : unordered.FirstAt ['x'] 0 rule found) : ¬ unordered.LeastAt ['x'] 0 rule found := by
  have hovertaken : (unordered.sortEnabled.findSome? fun x =>
      (x.matchAt #['x'] 0).map (x, ·)).all (fun won => unordered.rules.any fun other =>
        other.enabled && (other.matchAt #['x'] 0).isSome && !(won.1.before other) &&
          decide (other ≠ won.1)) = true := by decide +kernel
  rw [firstAt_iff.mp h, Option.all_some, List.any_eq_true] at hovertaken
  obtain ⟨other, hmem, hother⟩ := hovertaken
  simp only [Bool.and_eq_true, Bool.not_eq_true', decide_eq_true_eq] at hother
  obtain ⟨⟨⟨henabled, hsome⟩, hbefore⟩, hne⟩ := hother
  obtain ⟨found', hmatch⟩ := Option.isSome_iff_exists.mp hsome
  intro hleast
  rcases hleast.2 other found' ⟨hmem, henabled, hmatch⟩ with heq | hlt
  · exact hne heq
  · exact Bool.false_ne_true (hbefore.symm.trans hlt)

/-- 登録した順に先のものから並ぶ、有効な規則だけの登録簿では、登録した順に試す。 -/
theorem Ordered.activeRules_eq_rules {r : Registry} (ho : r.Ordered) (hc : r.Comparable)
    (henabled : ∀ rule ∈ r.rules, rule.enabled = true)
    (hsorted : r.rules.Pairwise fun a b => a.before b = true) : r.activeRules = r.rules := by
  rw [ho.activeRules_eq, sortEnabled, List.filter_eq_self.mpr henabled]
  have hnan : ∀ rule ∈ r.rules, rule.priority ≠ .nan :=
    fun rule hrule => hc rule hrule (henabled rule hrule)
  refine arrange_eq Rule.sortKey (P := fun rule => rule.priority ≠ .nan)
    (fun _ _ ha hb => Rule.before_iff ha hb) hnan (fun _ ha _ hb => ho.eq_of_sortKey ha hb)
    (.refl _) (hsorted.imp_of_mem ?_)
  intro a b ha hb hab
  exact le_of_lt ((Rule.before_iff (hnan a ha) (hnan b hb)).mp hab)

/-! ## 備え付けの規則 -/

/-- 備え付けの規則の優先順位に、非数はない。 -/
theorem comparable_bundled : (bundled {}).Comparable := by
  have hnan : ∀ rule ∈ (bundled {}).rules, rule.priority ≠ .nan := by decide +kernel
  exact fun rule hrule _ => hnan rule hrule

/-- 備え付けの規則は、登録した順に試す。 -/
theorem activeRules_bundled : (bundled {}).activeRules = (bundled {}).rules := by
  have henabled : ∀ rule ∈ (bundled {}).rules, rule.enabled = true := by decide +kernel
  have hsorted : (bundled {}).rules.Pairwise fun a b => a.before b = true := by decide +kernel
  exact (reachable_bundled {}).ordered.activeRules_eq_rules comparable_bundled henabled hsorted

end Registry

end Tategaki
