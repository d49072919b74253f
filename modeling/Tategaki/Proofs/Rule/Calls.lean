import Tategaki.Proofs.Rule.Order

/-!
# 登録簿への求め

登録簿は、登録、取り消し、有効・無効の切り替え、消去、並びの取り出しを、どの順にも、成功しても
失敗しても受け付ける。求めを重ねた登録簿（`Registry.calls`）では、いつも次が成り立つ
（`calls_inOrder`）。

* 取り出した並びは、有効な規則をちょうど一度ずつ、優先順位と通し番号の順に並べたものである。使い回した
  並びでも、並べ直したものでも変わらない。
* すべての規則の並びも同じ順であり、有効なものだけを残せば、取り出した並びになる。
* 名前と通し番号は、それぞれ互いに異なる。

失敗した求めと、何も見つけなかった取り消しは、規則も順も通し番号も変えない（`Refuses`）。規則を変えない
求めの前後で取り出した並びは、同じ一つの並びである（`Quiet`）。
-/

namespace Tategaki.Registry

/-! ## 求め -/

/-- 登録簿への求め。 -/
inductive Call where
  | register (d : Definition) (base order : Number) (enabled : Option Bool)
  | registerGroup (g : RuleGroup)
  | unregister (name : String)
  | setEnabled (name : String) (enabled : Bool)
  | clear
  | getAll

/-- 求めに応じた後の登録簿。 -/
def call (r : Registry) : Call → Registry
  | .register d base order enabled =>
    match r.register d base order enabled with
    | .ok (_, r') => r'
    | .error _ => r
  | .registerGroup g => (r.registerGroup g).2
  | .unregister name => (r.unregister name).2
  | .setEnabled name enabled => (r.setEnabled name enabled).getD r
  | .clear => r.clear
  | .getAll => r.getAll.2

/-- 求めを順に重ねた登録簿。 -/
def calls (r : Registry) (history : List Call) : Registry := history.foldl call r

@[simp] theorem calls_nil (r : Registry) : r.calls [] = r := rfl

@[simp] theorem calls_cons (r : Registry) (c : Call) (rest : List Call) :
    r.calls (c :: rest) = (r.call c).calls rest := rfl

/-- 登録か切り替えが失敗する。 -/
def Raises (r : Registry) : Call → Prop
  | .register d base order enabled => ∃ e, r.register d base order enabled = .error e
  | .setEnabled name enabled => r.setEnabled name enabled = none
  | _ => False

/-- 失敗するか、取り消す規則を見つけない。 -/
def Refuses (r : Registry) (c : Call) : Prop :=
  r.Raises c ∨ ∃ name, c = .unregister name ∧ (r.unregister name).1 = false

/-- 規則を変えない。失敗するか、並びを取り出すだけである。 -/
def Quiet (r : Registry) (c : Call) : Prop := r.Raises c ∨ c = .getAll

/-! ## 一つの求め -/

/-- 成功した登録は、登録した後の登録簿にする。 -/
theorem call_register {r r' : Registry} {d : Definition} {base order : Number}
    {enabled : Option Bool} {rule : Rule} (h : r.register d base order enabled = .ok (rule, r')) :
    r.call (.register d base order enabled) = r' := by
  show (match r.register d base order enabled with
    | .ok (_, r') => r'
    | .error _ => r) = r'
  rw [h]

/-- 失敗した求めは、登録簿を変えない。 -/
theorem Raises.call_eq {r : Registry} {c : Call} (h : r.Raises c) : r.call c = r := by
  cases c with
  | register d base order enabled =>
    obtain ⟨e, he⟩ := h
    show (match r.register d base order enabled with
      | .ok (_, r') => r'
      | .error _ => r) = r
    rw [he]
  | setEnabled name enabled =>
    have hnone : r.setEnabled name enabled = none := h
    show (r.setEnabled name enabled).getD r = r
    rw [hnone]
    rfl
  | registerGroup g => cases h
  | unregister name => cases h
  | clear => cases h
  | getAll => cases h

/-- 求めに応じても、操作で得られる登録簿である。 -/
theorem Reachable.call {r : Registry} (h : r.Reachable) (c : Call) : (r.call c).Reachable := by
  cases c with
  | register d base order enabled =>
    cases heq : r.register d base order enabled with
    | error e =>
      have hraises : r.Raises (.register d base order enabled) := ⟨e, heq⟩
      rw [hraises.call_eq]
      exact h
    | ok won =>
      rw [call_register heq]
      exact h.register heq
  | registerGroup g => exact reachable_registerFrom g.patterns 0 h
  | unregister name => exact h.unregister name
  | setEnabled name enabled =>
    show ((r.setEnabled name enabled).getD r).Reachable
    cases heq : r.setEnabled name enabled with
    | none => exact h
    | some r' => exact h.setEnabled heq
  | clear => exact h.clear
  | getAll => exact h.getAll

/-- **空の登録簿に求めを重ねたものは、操作で得られる。** -/
theorem reachable_calls {r : Registry} (h : r.Reachable) (history : List Call) :
    (r.calls history).Reachable := by
  induction history generalizing r with
  | nil => exact h
  | cons c rest ih => exact ih (h.call c)

/-- 知らない名前の取り消しは、どの規則も除かない。 -/
theorem unregister_rules_of_not_contains {r : Registry} {name : String}
    (h : r.contains name = false) : (r.unregister name).2.rules = r.rules := by
  show r.rules.filter (·.name != name) = r.rules
  rw [List.filter_eq_self]
  intro rule hrule
  have hne : ¬ (rule.name == name) = true := by
    intro heq
    have hcontains : r.contains name = true := List.any_eq_true.mpr ⟨rule, hrule, heq⟩
    rw [h] at hcontains
    cases hcontains
  simpa [bne] using hne

/-- **失敗した求めと、何も見つけない取り消しは、規則も通し番号も変えない。** -/
theorem Refuses.unchanged {r : Registry} {c : Call} (h : r.Refuses c) :
    (r.call c).rules = r.rules ∧ (r.call c).nextSequence = r.nextSequence := by
  rcases h with h | ⟨name, rfl, h⟩
  · rw [h.call_eq]
    exact ⟨rfl, rfl⟩
  · exact ⟨unregister_rules_of_not_contains h, rfl⟩

/-- 並びを覚えている登録簿は、規則を変えない求めで変わらない。 -/
theorem Quiet.call_getAll {r : Registry} {c : Call} (h : r.getAll.2.Quiet c) :
    r.getAll.2.call c = r.getAll.2 := by
  rcases h with h | rfl
  · exact h.call_eq
  · show r.getAll.2.getAll.2 = r.getAll.2
    rw [getAll_getAll]

/-- 規則を変えない求めをいくつ挟んでも、登録簿は変わらない。 -/
theorem calls_quiet {r : Registry} {between : List Call}
    (h : ∀ c ∈ between, r.getAll.2.Quiet c) : r.getAll.2.calls between = r.getAll.2 := by
  induction between with
  | nil => rfl
  | cons c rest ih =>
    rw [calls_cons, (h c List.mem_cons_self).call_getAll]
    exact ih fun c' hc' => h c' (List.mem_cons_of_mem c hc')

/-! ## 名前 -/

/-- 登録した規則は一番後ろに加わり、その名前はまだ使われていない。 -/
theorem register_rules {r r' : Registry} {d : Definition} {base order : Number}
    {enabled : Option Bool} {rule : Rule} (h : r.register d base order enabled = .ok (rule, r')) :
    r'.rules = r.rules ++ [rule] ∧ rule.name = d.name ∧ r.contains d.name = false := by
  unfold register at h
  split at h
  · cases h
  · split at h
    · cases h
    · next hfresh =>
      split at h
      · cases h
      · split at h
        · cases h
        · cases h
          exact ⟨rfl, rfl, Bool.eq_false_iff.mpr hfresh⟩

/-- 切り替えても、規則の名前は変わらない。 -/
theorem setEnabled_names {r r' : Registry} {name : String} {enabled : Bool}
    (h : r.setEnabled name enabled = some r') :
    r'.rules.map (·.name) = r.rules.map (·.name) := by
  unfold setEnabled at h
  split at h
  · cases h
    rw [List.map_map]
    refine List.map_congr_left fun rule _ => ?_
    show (if rule.name == name then { rule with enabled } else rule).name = rule.name
    split <;> rfl
  · cases h

/-- **操作で得られる登録簿では、規則の名前は互いに異なる。** -/
theorem Reachable.names_nodup {r : Registry} (h : r.Reachable) :
    (r.rules.map (·.name)).Nodup := by
  induction h with
  | empty limits => exact List.nodup_nil
  | register hr h ih =>
    obtain ⟨hrules, hname, hfresh⟩ := register_rules h
    rw [hrules, List.map_append]
    refine ih.append (List.nodup_singleton _) ?_
    intro n hn hn'
    obtain ⟨x, hx, rfl⟩ := List.mem_map.mp hn
    -- 名前が前の規則と同じなら、登録は断られたはずである
    have hcontains : Registry.contains _ x.name = true :=
      List.any_eq_true.mpr ⟨x, hx, beq_self_eq_true _⟩
    rw [show x.name = _ from (List.mem_singleton.mp hn').trans hname, hfresh] at hcontains
    cases hcontains
  | unregister _ name ih => exact ih.sublist (List.filter_sublist.map _)
  | clear => exact List.nodup_nil
  | setEnabled _ h ih =>
    rw [setEnabled_names h]
    exact ih
  | getAll hr ih =>
    rw [getAll_state_rules]
    exact ih
  | spend _ _ ih => exact ih

/-! ## 式 -/

/-- 登録した規則の式は、定義を確かめて解釈したものである。 -/
theorem compile_of_register {r r' : Registry} {d : Definition} {base order : Number}
    {enabled : Option Bool} {rule : Rule} (h : r.register d base order enabled = .ok (rule, r')) :
    rule.definition.compile = .ok rule.pattern := by
  unfold register at h
  split at h
  · cases h
  · split at h
    · cases h
    · split at h
      · cases h
      · next hcompile =>
        split at h
        · cases h
        · cases h
          exact hcompile

/-- **操作で得られる登録簿では、どの規則の式も、その定義を確かめて解釈したものである。** -/
theorem Reachable.compiled {r : Registry} (h : r.Reachable) :
    ∀ rule ∈ r.rules, rule.definition.compile = .ok rule.pattern := by
  induction h with
  | empty limits => simp [Registry.empty]
  | register hr h ih =>
    rw [(register_rules h).1]
    intro rule hrule
    rcases List.mem_append.mp hrule with hold | hnew
    · exact ih rule hold
    · rw [List.mem_singleton.mp hnew]
      exact compile_of_register h
  | unregister _ name ih => exact fun rule hrule => ih rule (List.mem_of_mem_filter hrule)
  | clear => simp [Registry.clear]
  | setEnabled _ h ih =>
    unfold Registry.setEnabled at h
    split at h
    · cases h
      intro rule hrule
      obtain ⟨old, hold, rfl⟩ := List.mem_map.mp hrule
      have := ih old hold
      split <;> exact this
    · cases h
  | getAll hr ih =>
    rw [getAll_state_rules]
    exact ih
  | spend _ _ ih => exact ih

/-! ## 順 -/

/-- 鍵の小さい順に並んだ異なる規則は、鍵が真に増える。 -/
theorem Ordered.pairwise_lt {r : Registry} (ho : r.Ordered) {rules sorted : List Rule}
    (hsub : rules.Sublist r.rules) (hperm : sorted.Perm rules)
    (hle : sorted.Pairwise fun a b => a.sortKey ≤ b.sortKey) :
    sorted.Pairwise fun a b => a.sortKey < b.sortKey := by
  have hnodup : sorted.Nodup :=
    hperm.nodup_iff.mpr ((List.Nodup.of_map _ ho.sequences_nodup).sublist hsub)
  refine (hle.and hnodup).imp_of_mem ?_
  rintro a b ha hb ⟨hab, hne⟩
  refine lt_of_le_of_ne hab fun heq => hne ?_
  exact ho.eq_of_sortKey (hsub.subset (hperm.mem_iff.mp ha)) (hsub.subset (hperm.mem_iff.mp hb)) heq

/-- すべての規則の並びから有効なものを残すと、有効な規則を整列したものになる。 -/
theorem Ordered.sortEnabled_eq_filter {r : Registry} (ho : r.Ordered)
    (hc : ∀ rule ∈ r.rules, rule.priority ≠ .nan) :
    r.sortEnabled = r.allRules.filter (·.enabled) := by
  have hmem : ∀ rule ∈ r.rules.filter (·.enabled), rule ∈ r.rules :=
    fun rule hrule => List.mem_of_mem_filter hrule
  refine arrange_eq Rule.sortKey (P := fun rule => rule.priority ≠ .nan)
    (fun _ _ ha hb => Rule.before_iff ha hb) (fun rule hrule => hc rule (hmem rule hrule)) ?_ ?_ ?_
  · exact fun a ha b hb => ho.eq_of_sortKey (hmem a ha) (hmem b hb)
  · exact (arrange_perm Rule.before r.rules).filter _
  · exact (pairwise_arrange Rule.sortKey (fun _ _ ha hb => Rule.before_iff ha hb) hc).filter _

/-- 登録簿の並びと名前と通し番号が正しい。 -/
structure InOrder (r : Registry) : Prop where
  /-- 取り出した並びは、有効な規則をちょうど一度ずつ含む。 -/
  getAll_perm : r.getAll.1.rules.Perm (r.rules.filter (·.enabled))
  getAll_nodup : r.getAll.1.rules.Nodup
  getAll_sorted : r.getAll.1.rules.Pairwise fun a b => a.sortKey < b.sortKey
  allRules_perm : r.allRules.Perm r.rules
  allRules_sorted : r.allRules.Pairwise fun a b => a.sortKey < b.sortKey
  getAll_eq_filter : r.getAll.1.rules = r.allRules.filter (·.enabled)
  names_nodup : (r.rules.map (·.name)).Nodup
  sequences_nodup : (r.rules.map (·.sequence)).Nodup

/-- 操作で得られる登録簿は、優先順位に非数がなければ、正しく並ぶ。 -/
theorem Reachable.inOrder {r : Registry} (h : r.Reachable)
    (hc : ∀ rule ∈ r.rules, rule.priority ≠ .nan) : r.InOrder := by
  have ho := h.ordered
  have hgetAll : r.getAll.1.rules = r.sortEnabled := by rw [getAll_rules, ho.activeRules_eq]
  have hperm : r.getAll.1.rules.Perm (r.rules.filter (·.enabled)) := by
    rw [hgetAll]
    exact arrange_perm Rule.before _
  have hall : r.allRules.Pairwise fun a b => a.sortKey < b.sortKey := by
    refine ho.pairwise_lt (List.Sublist.refl _) (arrange_perm Rule.before _) ?_
    exact pairwise_arrange Rule.sortKey (fun _ _ ha hb => Rule.before_iff ha hb) hc
  have hfilter : r.getAll.1.rules = r.allRules.filter (·.enabled) :=
    hgetAll.trans (ho.sortEnabled_eq_filter hc)
  exact {
    getAll_perm := hperm
    getAll_nodup := by
      have hrules : r.rules.Nodup := List.Nodup.of_map _ ho.sequences_nodup
      exact hperm.nodup_iff.mpr (hrules.filter _)
    getAll_sorted := by rw [hfilter]; exact hall.filter _
    allRules_perm := arrange_perm Rule.before _
    allRules_sorted := hall
    getAll_eq_filter := hfilter
    names_nodup := h.names_nodup
    sequences_nodup := ho.sequences_nodup }

/-- 規則が同じで、どちらも操作で得られるなら、取り出す並びも同じである。 -/
theorem Reachable.getAll_rules_congr {r r' : Registry} (h : r.Reachable) (h' : r'.Reachable)
    (hrules : r'.rules = r.rules) : r'.getAll.1.rules = r.getAll.1.rules := by
  rw [getAll_rules, getAll_rules, h.ordered.activeRules_eq, h'.ordered.activeRules_eq]
  unfold sortEnabled
  rw [hrules]

/--
**どの求めをどの順に重ねても、登録簿は正しく並ぶ。**

失敗した求めは規則も順も通し番号も変えず、規則を変えない求めを挟んで取り出した並びは、同じ一つの並びで
ある。
-/
theorem calls_inOrder (limits : Limits) (history : List Call)
    (hc : ∀ rule ∈ ((empty limits).calls history).rules, rule.priority ≠ .nan) :
    ((empty limits).calls history).InOrder ∧
      (∀ c, ((empty limits).calls history).Refuses c →
        (((empty limits).calls history).call c).rules = ((empty limits).calls history).rules ∧
        (((empty limits).calls history).call c).nextSequence
          = ((empty limits).calls history).nextSequence ∧
        (((empty limits).calls history).call c).allRules
          = ((empty limits).calls history).allRules ∧
        (((empty limits).calls history).call c).getAll.1.rules
          = ((empty limits).calls history).getAll.1.rules) ∧
      ∀ between, (∀ c ∈ between, ((empty limits).calls history).getAll.2.Quiet c) →
        (((empty limits).calls history).getAll.2.calls between).getAll.1
          = ((empty limits).calls history).getAll.1 := by
  have hreach := reachable_calls (.empty limits) history
  generalize (empty limits).calls history = r at *
  refine ⟨hreach.inOrder hc, fun c hrefuse => ?_, fun between hquiet => ?_⟩
  · obtain ⟨hrules, hsequence⟩ := hrefuse.unchanged
    refine ⟨hrules, hsequence, ?_, hreach.getAll_rules_congr (hreach.call c) hrules⟩
    unfold allRules
    rw [hrules]
  · rw [calls_quiet hquiet, getAll_getAll]

/-- 登録、失敗する登録、切り替え、知らない名前の取り消しと切り替え、組の登録、取り出しの混ざった求め。 -/
def mixedHistory : List Call :=
  [.register (markDefinition "late" "x" "5") (.int 5) (.int 0) none, .getAll,
    .register (markDefinition "late" "y" "?") (.int 1) (.int 0) none,
    .registerGroup {
      name := "early"
      basePriority := .ofInt 1
      patterns := [markDefinition "first" "x" "1", markDefinition "late" "x" "2"] },
    .setEnabled "late" false, .unregister "unknown", .setEnabled "unknown" true, .getAll,
    .setEnabled "late" true]

/-- 成功と失敗の混ざった求めの後でも、登録簿は正しく並び、失敗した切り替えを挟んでも同じ並びを返す。 -/
theorem calls_inOrder_mixed :
    (∀ rule ∈ ((empty {}).calls mixedHistory).rules, rule.priority ≠ .nan) ∧
      ((empty {}).calls mixedHistory).InOrder ∧
      ((empty {}).calls mixedHistory).getAll.1.rules.map (·.name) = ["first", "late"] ∧
      (((empty {}).calls mixedHistory).getAll.2.calls [.setEnabled "unknown" true]).getAll.1
        = ((empty {}).calls mixedHistory).getAll.1 := by
  have hc : ∀ rule ∈ ((empty {}).calls mixedHistory).rules, rule.priority ≠ .nan := by
    decide +kernel
  have hunknown : ((empty {}).calls mixedHistory).getAll.2.setEnabled "unknown" true = none := by
    decide +kernel
  obtain ⟨horder, -, hquiet⟩ := calls_inOrder {} mixedHistory hc
  refine ⟨hc, horder, by decide +kernel, hquiet _ fun c hmem => ?_⟩
  rw [List.mem_singleton.mp hmem]
  exact .inl hunknown

end Tategaki.Registry
