import Mathlib.Data.List.Sort
import Tategaki.Proofs.Rule.Registration

/-!
# 組を読み込む順

通し番号は組を読み込む順で変わる。それでも、優先順位の等しい規則が一つの組の中にしかなければ、有効な規則を試す順は
変わらない。試す順は、規則の出どころである項の鍵（`RuleGroup.Entry.key`）だけで決まるからである。項の鍵は、優先順位と
組の中の番号であり、組の並びに触れない。
-/

namespace Tategaki

/-! ## 通し番号 -/

/-- 通し番号を忘れた規則。 -/
def Rule.unnumbered (rule : Rule) : Rule := { rule with sequence := 0 }

theorem Rule.sortKey_lt_iff {a b : Rule} : a.sortKey < b.sortKey ↔
    a.priority.value < b.priority.value ∨
      a.priority.value = b.priority.value ∧ a.sequence < b.sequence :=
  Prod.Lex.toLex_lt_toLex

namespace RuleGroup

/-- 項の鍵。優先順位、組の中の番号の順に比べる。 -/
def Entry.key (e : Entry) : Lex (WithBot (WithTop ℚ) × ℕ) := toLex (e.priority.value, e.order)

theorem Entry.key_lt_iff {e e' : Entry} : e.key < e'.key ↔
    e.priority.value < e'.priority.value ∨
      e.priority.value = e'.priority.value ∧ e.order < e'.order :=
  Prod.Lex.toLex_lt_toLex

/-- 項を登録した規則から、通し番号を除いたもの。 -/
def Entry.rule? (e : Entry) : Option Rule :=
  e.definition.compile.toOption.map fun pattern =>
    { name := e.name, priority := e.priority, sequence := 0, pattern, definition := e.definition
      enabled := e.enabled }

theorem Entry.name_of_rule? {e : Entry} {rule : Rule} (h : e.rule? = some rule) :
    rule.name = e.name := by
  obtain ⟨pattern, -, rfl⟩ := Option.map_eq_some_iff.mp h
  rfl

theorem Entry.Registered.rule?_eq {e : Entry} {rule : Rule} (h : e.Registered rule) :
    e.rule? = some rule.unnumbered := by
  rw [rule?, h.pattern, ← h.name, ← h.priority, ← h.definition, ← h.enabled]
  rfl

theorem group_of_mem_entriesFrom {g : RuleGroup} {e : Entry} : ∀ {order : Nat}
    {ds : List Definition}, e ∈ entriesFrom g order ds → e.group = g ∧ order ≤ e.order
  | order, d :: rest, h => by
    rcases List.mem_cons.mp h with rfl | h
    · exact ⟨rfl, Nat.le_refl order⟩
    · obtain ⟨hgroup, horder⟩ := group_of_mem_entriesFrom h
      exact ⟨hgroup, Nat.le_of_succ_le horder⟩

/-- 定義の並びの項の番号は、順に大きくなる。 -/
theorem pairwise_order_entriesFrom (g : RuleGroup) : ∀ (order : Nat) (ds : List Definition),
    (entriesFrom g order ds).Pairwise fun e e' => e.order < e'.order
  | _, [] => .nil
  | order, _ :: rest => by
    refine .cons (fun e he => ?_) (pairwise_order_entriesFrom g (order + 1) rest)
    exact (group_of_mem_entriesFrom he).2

/-- 組を読み込む順によらず、規則の順が決まる。 -/
structure Orderable (groups : List RuleGroup) : Prop where
  names_nodup : ((groups.flatMap entries).map Entry.name).Nodup
  /-- 優先順位は非数でない。 -/
  ne_nan : ∀ e ∈ groups.flatMap entries, e.priority ≠ .nan
  /-- 優先順位が等しいのは、同じ組の項だけである。 -/
  ties : ∀ e ∈ groups.flatMap entries, ∀ e' ∈ groups.flatMap entries,
    e.priority.eq e'.priority = true → e.group = e'.group

variable {groups groups' : List RuleGroup}

/-- 組を並べ替えても、項は変わらない。 -/
theorem entries_perm (hperm : groups'.Perm groups) :
    (groups'.flatMap entries).Perm (groups.flatMap entries) := hperm.flatMap_right _

theorem Orderable.of_perm (h : Orderable groups) (hperm : groups'.Perm groups) :
    Orderable groups' where
  names_nodup := ((entries_perm hperm).map _).nodup_iff.mpr h.names_nodup
  ne_nan e he := h.ne_nan e ((entries_perm hperm).subset he)
  ties e he e' he' := h.ties e ((entries_perm hperm).subset he) e' ((entries_perm hperm).subset he')

/-- 値の等しい優先順位を持つのは、同じ組の項だけである。 -/
theorem Orderable.group_eq (h : Orderable groups) {e e' : Entry} (he : e ∈ groups.flatMap entries)
    (he' : e' ∈ groups.flatMap entries) (heq : e.priority.value = e'.priority.value) :
    e.group = e'.group :=
  h.ties e he e' he' ((Binary64.eq_iff_value (h.ne_nan e he) (h.ne_nan e' he')).mpr heq)

/-- 一つの組の項は、番号の順に並ぶ。 -/
theorem Orderable.pairwise_order (h : Orderable groups) :
    (groups.flatMap entries).Pairwise fun e e' => e.group = e'.group → e.order < e'.order := by
  rw [List.pairwise_flatMap]
  refine ⟨fun g _ => ?_, ?_⟩
  · refine (pairwise_order_entriesFrom g 0 g.patterns).imp ?_
    exact fun h _ => h
  · have hapart := (List.pairwise_flatMap.mp (List.pairwise_map.mp h.names_nodup)).2
    refine hapart.imp fun {g g'} hne e he e' he' heq => ?_
    -- 同じ組が離れて二度現れれば、名前が重なる
    rw [(group_of_mem_entriesFrom he).1, (group_of_mem_entriesFrom he').1] at heq
    subst heq
    exact absurd rfl (hne e he e he)

end RuleGroup

namespace Registry

open RuleGroup

/-- 登録した規則の通し番号は、次の番号である。 -/
theorem register_sequence {r r' : Registry} {d : Definition} {base order : Number}
    {enabled : Option Bool} {rule : Rule} (h : r.register d base order enabled = .ok (rule, r')) :
    rule.sequence = r.nextSequence := by
  unfold register at h
  split at h
  · cases h
  · split at h
    · cases h
    · split at h
      · cases h
      · split at h <;> cases h
        rfl

/-- 登録された順に、通し番号は大きくなる。 -/
theorem Reachable.pairwise_sequence {r : Registry} (h : r.Reachable) :
    r.rules.Pairwise fun a b => a.sequence < b.sequence := by
  induction h with
  | empty limits => exact .nil
  | @register r r' d base order enabled rule hr h ih =>
    obtain ⟨hrules, -⟩ := register_rules h
    rw [hrules, List.pairwise_append]
    refine ⟨ih, List.pairwise_singleton _ _, fun a ha b hb => ?_⟩
    rw [List.mem_singleton.mp hb, register_sequence h]
    exact hr.ordered.sequence_lt a ha
  | unregister _ name ih => exact ih.sublist List.filter_sublist
  | clear => exact .nil
  | @setEnabled r r' name enabled hr h ih =>
    unfold Registry.setEnabled at h
    split at h
    · cases h
      have hkept : ∀ rule : Rule,
          (if rule.name == name then { rule with enabled } else rule).sequence = rule.sequence := by
        intro rule
        split <;> rfl
      simpa only [List.pairwise_map, hkept] using ih
    · cases h
  | @getAll r hr ih =>
    rw [r.getAll_state_rules]
    exact ih
  | spend _ _ ih => exact ih

section Reorder

variable {groups groups' : List RuleGroup} {r r' : Registry}

/-- 鍵の小さい項から作った規則が先である。 -/
def Precedes (groups : List RuleGroup) (a b : Rule) : Prop :=
  ∃ e ∈ groups.flatMap entries, ∃ e' ∈ groups.flatMap entries,
    e.rule? = some a ∧ e'.rule? = some b ∧ e.key < e'.key

theorem Precedes.of_perm (hperm : groups'.Perm groups) {a b : Rule}
    (h : Precedes groups' a b) : Precedes groups a b := by
  obtain ⟨e, he, e', he', hrest⟩ := h
  exact ⟨e, (entries_perm hperm).subset he, e', (entries_perm hperm).subset he', hrest⟩

/-- 名前が異なれば、互いに先である規則はない。 -/
theorem not_precedes_of_precedes (h : Orderable groups) {a b : Rule}
    (hab : Precedes groups a b) : ¬ Precedes groups b a := by
  have hunique : ∀ {e e' : Entry} {rule : Rule}, e ∈ groups.flatMap entries →
      e' ∈ groups.flatMap entries → e.rule? = some rule → e'.rule? = some rule → e = e' := by
    intro e e' rule he he' hrule hrule'
    refine List.inj_on_of_nodup_map h.names_nodup he he' ?_
    rw [← Entry.name_of_rule? hrule, ← Entry.name_of_rule? hrule']
  rintro ⟨e₃, h₃, e₄, h₄, hb', ha', hgt⟩
  obtain ⟨e₁, h₁, e₂, h₂, ha, hb, hlt⟩ := hab
  cases hunique h₁ h₄ ha ha'
  cases hunique h₂ h₃ hb hb'
  exact lt_asymm hlt hgt

/-- 組の項を順に登録した登録簿である。 -/
structure Holds (r : Registry) (groups : List RuleGroup) : Prop where
  reachable : r.Reachable
  registered : List.Forall₂ Entry.Registered (groups.flatMap entries) r.rules

/-- 登録簿の規則の順は、項の鍵の順である。 -/
theorem Holds.precedes (hr : r.Holds groups) (h : Orderable groups) {a b : Rule}
    (ha : a ∈ r.rules) (hb : b ∈ r.rules) (hlt : a.sortKey < b.sortKey) :
    Precedes groups a.unnumbered b.unnumbered := by
  have horder := List.pairwise_iff_getElem.mp h.pairwise_order
  have hsequence := List.pairwise_iff_getElem.mp hr.reachable.pairwise_sequence
  obtain ⟨hlength, hget⟩ := List.forall₂_iff_get.mp hr.registered
  simp only [List.get_eq_getElem] at hget
  obtain ⟨i, hi, rfl⟩ := List.getElem_of_mem ha
  obtain ⟨j, hj, rfl⟩ := List.getElem_of_mem hb
  have hai := hget i (by omega) hi
  have hbj := hget j (by omega) hj
  refine ⟨_, List.getElem_mem _, _, List.getElem_mem _, hai.rule?_eq, hbj.rule?_eq, ?_⟩
  rw [Rule.sortKey_lt_iff, hai.priority, hbj.priority] at hlt
  refine Entry.key_lt_iff.mpr (hlt.imp id fun ⟨heq, hseq⟩ => ⟨heq, ?_⟩)
  -- 優先順位が等しければ同じ組の項であり、先に登録された方が番号も小さい
  have hgroup := h.group_eq (List.getElem_mem _) (List.getElem_mem _) heq
  rcases Nat.lt_trichotomy i j with hij | rfl | hji
  · exact horder i j _ _ hij hgroup
  · exact absurd hseq (Nat.lt_irrefl _)
  · exact absurd hseq (Nat.lt_asymm (hsequence j i hj hi hji))

/-- 登録簿の規則の優先順位に、非数はない。 -/
theorem Holds.comparable (hr : r.Holds groups) (h : Orderable groups) : r.Comparable := by
  intro rule hrule _
  obtain ⟨hlength, hget⟩ := List.forall₂_iff_get.mp hr.registered
  obtain ⟨i, hi, rfl⟩ := List.getElem_of_mem hrule
  rw [show r.rules[i].priority = _ from (hget i (by omega) hi).priority]
  exact h.ne_nan _ (List.get_mem _ _)

/-- 試す順は、項の鍵の順である。 -/
theorem Holds.pairwise_activeRules (hr : r.Holds groups) (h : Orderable groups) :
    (r.activeRules.map Rule.unnumbered).Pairwise (Precedes groups) := by
  have ho := hr.reachable.ordered
  have hsorted := ho.pairwise_lt List.filter_sublist (arrange_perm Rule.before _)
    (hr.comparable h).pairwise_sortEnabled
  rw [ho.activeRules_eq, List.pairwise_map]
  exact hsorted.imp_of_mem fun ha hb hlt =>
    hr.precedes h (mem_sortEnabled.mp ha).1 (mem_sortEnabled.mp hb).1 hlt

/-- 通し番号を除けば、登録簿の規則は項だけで決まる。 -/
theorem map_unnumbered_of_registered {items : List Entry} {rules : List Rule}
    (h : List.Forall₂ Entry.Registered items rules) :
    rules.map Rule.unnumbered = items.filterMap Entry.rule? := by
  induction h with
  | nil => rfl
  | cons hfit _ ih => rw [List.map_cons, List.filterMap_cons_some hfit.rule?_eq, ih]

/-- 試す規則は、登録簿の有効な規則である。 -/
theorem Holds.activeRules_perm (hr : r.Holds groups) :
    (r.activeRules.map Rule.unnumbered).Perm
      (((groups.flatMap entries).filterMap Entry.rule?).filter (·.enabled)) := by
  rw [hr.reachable.ordered.activeRules_eq, ← map_unnumbered_of_registered hr.registered,
    List.filter_map]
  exact (arrange_perm Rule.before _).map _

/-- **優先順位の等しい規則が一つの組の中にしかなければ、組を読み込む順は、試す順を変えない。** -/
theorem Holds.activeRules_reordered (h : Orderable groups) (hperm : groups'.Perm groups)
    (hr : r.Holds groups) (hr' : r'.Holds groups') :
    r'.activeRules.map Rule.unnumbered = r.activeRules.map Rule.unnumbered := by
  have hsorted : (r'.activeRules.map Rule.unnumbered).Pairwise (Precedes groups) :=
    (hr'.pairwise_activeRules (h.of_perm hperm)).imp (Precedes.of_perm hperm)
  have hrules := (((entries_perm hperm).filterMap Entry.rule?).filter (·.enabled))
  exact List.Perm.eq_of_pairwise
    (fun _ _ _ _ hab hba => absurd hba (not_precedes_of_precedes h hab))
    hsorted (hr.pairwise_activeRules h)
    ((hr'.activeRules_perm.trans hrules).trans hr.activeRules_perm.symm)

end Reorder

end Registry

end Tategaki
