import Mathlib.Data.List.Forall2
import Mathlib.Data.List.Nodup
import Tategaki.Proofs.Rule.Calls
import Tategaki.Proofs.Rule.Dropping

/-!
# 読めた組の登録

組を読むときの検めと、登録するときの検めは別々に行われる。読めた組（`RuleGroup.Loaded`）の定義はどれも登録の検めを
通るので、登録を断られるのは名前が重なるときだけである。組を順に登録した結果（`Registry.Enrolled`）は、すべての
定義を一つずつ登録した登録簿か、初めて繰り返された名前の誤りかのどちらかである（`Registry.ofGroups_enrolls`）。

優先順位は、組の中の番号を倍精度に直して求める。並びの長さは 2 ^ 63 より小さいので、番号はいつも倍精度の範囲にある。
-/

namespace Tategaki

/-! ## 番号から優先順位へ -/

/-- 大きすぎない整数に最も近い数は、有限である。 -/
theorem Binary64.ofInt_ne_infinite {n : Nat} (h : n < 2 ^ 63) (s : Bool) :
    Binary64.ofInt n ≠ .infinite s := by
  have hone : Nat.log2 1 = 0 := by decide
  unfold ofInt ofRatio
  rw [Int.natAbs_natCast, hone]
  split
  · exact nofun
  · next hzero =>
    have hlog : Nat.log2 n < 63 := (Nat.log2_lt (by simpa using hzero)).mpr h
    generalize Nat.log2 n = digits at hlog
    -- 指数は、桁数から五十三を引いたものより高々二しか大きくない
    extract_lets low wide e part m
    have hlow : low ≤ 10 := by
      show max ((digits : Int) - (0 : Nat) - 53) (-1074) ≤ 10
      omega
    have he : e ≤ 11 := by
      show (if _ then low + 1 else low) ≤ 11
      split
      · exact Int.add_le_add_right hlow 1
      · exact hlow.trans (by decide)
    clear_value low e m
    split
    · next mantissa exponent heq =>
      have hexp : exponent ≤ 12 := by
        split at heq <;> cases heq <;> omega
      rw [if_neg (by omega)]
      exact nofun

/-- 大きすぎない番号は、倍精度に直せる。 -/
theorem Number.toBinary64?_int {n : Nat} (h : n < 2 ^ 63) :
    (Number.int n).toBinary64? = some (Binary64.ofInt n) := by
  unfold toBinary64?
  dsimp only
  split
  · next heq => exact absurd heq (Binary64.ofInt_ne_infinite h _)
  · rfl

/-! ## 読めた組 -/

/-- 登録の検めを、名前の重なりのほかは通る。 -/
def Definition.IsSound (d : Definition) : Prop :=
  d.name.isEmpty = false ∧ ∃ pattern, d.compile = .ok pattern

/-- 読めた定義には名前がある。 -/
theorem Definition.name_of_parse {value : Json} {source : Option String} {d : Definition}
    (h : Definition.parse value source = .ok d) : d.name.isEmpty = false := by
  unfold parse at h
  split at h
  · split at h
    · split at h
      · cases h
      · next hname =>
        obtain ⟨expression, -, h⟩ := exists_of_bind_ok h
        obtain ⟨⟨output, steps⟩, -, h⟩ := exists_of_bind_ok h
        cases h
        exact Bool.eq_false_iff.mpr hname
    · cases h
  · cases h

namespace RuleGroup

/-- 読み取りで得られる組である。 -/
def Loaded (g : RuleGroup) : Prop := ∃ data name skip, (parse data name skip).1 = .ok g

/-- 定義の並びから読めたものは、どれも登録の検めを通る。 -/
theorem isSound_of_readEntries {name : String} {skip : Bool} : ∀ {values : List Json}
    {patterns : List Definition}, (readEntries name skip values).1 = .ok patterns →
      ∀ d ∈ patterns, d.IsSound
  | [], patterns, h => by
    cases h
    exact nofun
  | value :: rest, patterns, h => by
    rw [readEntries] at h
    split at h
    · next d hread =>
      obtain ⟨kept, hkept, rfl⟩ := exists_of_map_ok h
      obtain ⟨hparse, pattern, hcompile, hcheck⟩ := readEntry_ok_iff.mp hread
      have hsound : d.IsSound := by
        refine ⟨Definition.name_of_parse hparse, pattern, ?_⟩
        unfold Definition.compile
        rw [hcompile]
        dsimp only
        rw [hcheck]
      intro d' hd'
      rcases List.mem_cons.mp hd' with rfl | hd'
      · exact hsound
      · exact isSound_of_readEntries hkept d' hd'
    · split at h
      · exact isSound_of_readEntries h
      · cases h
    · cases h

/-- 読めた組の定義は、どれも登録の検めを通る。 -/
theorem Loaded.isSound {g : RuleGroup} (h : g.Loaded) : ∀ d ∈ g.patterns, d.IsSound := by
  obtain ⟨data, name, skip, h⟩ := h
  unfold parse at h
  split at h
  · split at h
    · cases h
    · split at h
      · split at h
        · cases h
        · next patterns warnings hread =>
          split at h
          · cases h
          · cases h
            exact isSound_of_readEntries (congrArg Prod.fst hread)
      · cases h
  · cases h

/-! ## 組の項 -/

/-- 組の項。組の何番目の定義か。 -/
structure Entry where
  group : RuleGroup
  order : Nat
  definition : Definition

namespace Entry

/-- 組と定義の対。 -/
def source (e : Entry) : RuleGroup × Definition := (e.group, e.definition)

/-- 規則の名前。 -/
def name (e : Entry) : String := e.definition.name

/-- 規則の優先順位。 -/
def priority (e : Entry) : Binary64 :=
  e.group.basePriority.add ((Binary64.ofInt e.order).mul orderEpsilon)

/-- 規則を有効にするか。 -/
def enabled (e : Entry) : Bool := !(e.group.disabled || e.definition.disabled)

/-- 項を登録した規則である。 -/
structure Registered (e : Entry) (rule : Rule) : Prop where
  name : rule.name = e.name
  definition : rule.definition = e.definition
  pattern : e.definition.compile = .ok rule.pattern
  priority : rule.priority = e.priority
  enabled : rule.enabled = e.enabled

end Entry

/-- `order` 番目から始まる定義の並びの項。 -/
def entriesFrom (g : RuleGroup) : Nat → List Definition → List Entry
  | _, [] => []
  | order, d :: rest => ⟨g, order, d⟩ :: entriesFrom g (order + 1) rest

/-- 組の項。書かれた順に並ぶ。 -/
def entries (g : RuleGroup) : List Entry := entriesFrom g 0 g.patterns

/-- 組と定義の対。組の順に、組の中では書かれた順に並ぶ。 -/
def definitionsOf (groups : List RuleGroup) : List (RuleGroup × Definition) :=
  groups.flatMap fun g => g.patterns.map (g, ·)

theorem map_source_entriesFrom (g : RuleGroup) : ∀ (order : Nat) (ds : List Definition),
    (entriesFrom g order ds).map Entry.source = ds.map (g, ·)
  | _, [] => rfl
  | order, d :: rest => congrArg ((g, d) :: ·) (map_source_entriesFrom g (order + 1) rest)

/-- 項から番号を除くと、組と定義の対になる。 -/
theorem map_source_entries (groups : List RuleGroup) :
    (groups.flatMap entries).map Entry.source = definitionsOf groups := by
  rw [List.map_flatMap]
  exact congrArg (groups.flatMap ·) (funext fun g => map_source_entriesFrom g 0 g.patterns)

/-- 項の名前は、定義の名前である。 -/
theorem map_name_entries (groups : List RuleGroup) :
    (groups.flatMap entries).map Entry.name = (definitionsOf groups).map (·.2.name) := by
  rw [← map_source_entries, List.map_map]
  rfl

end RuleGroup

/-! ## 登録の結果 -/

namespace Registry

open RuleGroup

/-- 名前が重なる誤り。 -/
def duplicate (name : String) : LoadError :=
  .rule { cause := .duplicateName name, patternName := some name }

/-- 項を順に登録していった結果。すべて登録したか、使われている名前に出会って止まったかである。 -/
inductive Enrolled (r : Registry) (items : List Entry) :
    Except LoadError (List Rule) × Registry → Prop
  | all {rules : List Rule} {r' : Registry} (hrules : r'.rules = r.rules ++ rules)
      (hfits : List.Forall₂ Entry.Registered items rules) : Enrolled r items (.ok rules, r')
  | repeated {before after : List Entry} {e : Entry} {rules : List Rule} {r' : Registry}
      (hitems : items = before ++ e :: after) (hrules : r'.rules = r.rules ++ rules)
      (hfits : List.Forall₂ Entry.Registered before rules) (htaken : r'.contains e.name = true) :
      Enrolled r items (.error (duplicate e.name), r')

/-- 前の項に続けて登録する。 -/
theorem Enrolled.append {r r₁ r₂ : Registry} {items items' : List Entry} {rules : List Rule}
    {result : Except LoadError (List Rule)} (hrules : r₁.rules = r.rules ++ rules)
    (hfits : List.Forall₂ Entry.Registered items rules) (h : Enrolled r₁ items' (result, r₂)) :
    Enrolled r (items ++ items') (result.map (rules ++ ·), r₂) := by
  cases h with
  | all hrules' hfits' =>
    refine .all ?_ (List.rel_append hfits hfits')
    rw [hrules', hrules, List.append_assoc]
  | @repeated before after e rules' _ hitems hrules' hfits' htaken =>
    have hall : items ++ items' = (items ++ before) ++ e :: after := by
      rw [hitems, List.append_assoc]
    refine .repeated hall ?_ (List.rel_append hfits hfits') htaken
    rw [hrules', hrules, List.append_assoc]

section Enroll

variable {g : RuleGroup} {r : Registry} {d : Definition} {order : Nat}

/-- 使われている名前の定義は登録できない。 -/
theorem register_taken (hd : d.IsSound) {base number : Number} {enabled : Option Bool}
    (h : r.contains d.name = true) :
    r.register d base number enabled = .error (duplicate d.name) := by
  unfold register
  rw [if_neg (by rw [hd.1]; exact Bool.false_ne_true), if_pos h]
  rfl

/-- 使われていない名前の定義は、後ろに登録される。 -/
theorem register_fresh (hd : d.IsSound) (horder : order < 2 ^ 63)
    (h : r.contains d.name = false) :
    ∃ rule r', r.register d (.float g.basePriority) (.int order)
        (some (!(g.disabled || d.disabled))) = .ok (rule, r') ∧
      r'.rules = r.rules ++ [rule] ∧ Entry.Registered ⟨g, order, d⟩ rule := by
  obtain ⟨hname, pattern, hcompile⟩ := hd
  have hpriority : calculatePriority (.float g.basePriority) (.int order)
      = some (Entry.priority ⟨g, order, d⟩) := by
    unfold calculatePriority
    rw [Number.toBinary64?_int horder]
    rfl
  unfold register
  rw [if_neg (by rw [hname]; exact Bool.false_ne_true),
    if_neg (by rw [h]; exact Bool.false_ne_true), hcompile]
  dsimp only
  rw [hpriority]
  exact ⟨_, _, rfl, rfl, rfl, rfl, hcompile, rfl, rfl⟩

/-- 組の定義を順に登録する。 -/
theorem registerFrom_enrolled : ∀ {ds : List Definition} {order : Nat} {r : Registry},
    (∀ d ∈ ds, d.IsSound) → order + ds.length < 2 ^ 63 →
      Enrolled r (g.entriesFrom order ds) (registerFrom g.basePriority g.disabled order ds r)
  | [], _, _, _, _ => .all (List.append_nil _).symm .nil
  | d :: rest, order, r, hsound, hsize => by
    have hd := hsound d List.mem_cons_self
    rw [List.length_cons] at hsize
    rw [registerFrom]
    cases htaken : r.contains d.name with
    | true =>
      rw [register_taken hd htaken]
      exact .repeated (e := ⟨g, order, d⟩) rfl (List.append_nil _).symm .nil htaken
    | false =>
      obtain ⟨rule, r', hregister, hrules, hfits⟩ :=
        register_fresh (g := g) hd (by omega : order < 2 ^ 63) htaken
      rw [hregister]
      have hrest : Enrolled r' (g.entriesFrom (order + 1) rest) _ :=
        registerFrom_enrolled (fun d' hd' => hsound d' (List.mem_cons_of_mem _ hd')) (by omega)
      exact hrest.append hrules (.cons hfits .nil)

/-- 組を順に登録する。 -/
theorem registerGroups_enrolled : ∀ {groups : List RuleGroup} {r : Registry},
    (∀ g ∈ groups, g.Loaded ∧ g.patterns.length < 2 ^ 63) →
      Enrolled r (groups.flatMap RuleGroup.entries) (registerGroups groups r)
  | [], _, _ => .all (List.append_nil _).symm .nil
  | g :: rest, r, h => by
    obtain ⟨hloaded, hsize⟩ := h g List.mem_cons_self
    have hgroup : Enrolled r g.entries (r.registerGroup g) :=
      registerFrom_enrolled hloaded.isSound (by omega)
    rw [List.flatMap_cons, registerGroups]
    generalize r.registerGroup g = result at hgroup
    cases hgroup with
    | @all rules r' hrules hfits =>
      have hrest := registerGroups_enrolled (r := r')
        fun g' hg' => h g' (List.mem_cons_of_mem _ hg')
      exact hrest.append hrules hfits
    | repeated hitems hrules hfits htaken =>
      exact .repeated (by rw [hitems, List.append_assoc, List.cons_append]) hrules hfits htaken

end Enroll

/-! ### 上限と枠 -/

/-- 登録は、上限も枠も変えない。 -/
theorem register_budget {r r' : Registry} {d : Definition} {base order : Number}
    {enabled : Option Bool} {rule : Rule} (h : r.register d base order enabled = .ok (rule, r')) :
    r'.limits = r.limits ∧ r'.budget = r.budget := by
  unfold register at h
  split at h
  · cases h
  · split at h
    · cases h
    · split at h
      · cases h
      · split at h <;> cases h
        exact ⟨rfl, rfl⟩

theorem registerFrom_budget {base : Binary64} {groupDisabled : Bool} :
    ∀ (ds : List Definition) (order : Nat) (r : Registry),
      (registerFrom base groupDisabled order ds r).2.limits = r.limits ∧
        (registerFrom base groupDisabled order ds r).2.budget = r.budget
  | [], _, _ => ⟨rfl, rfl⟩
  | d :: rest, order, r => by
    rw [registerFrom]
    split
    · exact ⟨rfl, rfl⟩
    · next rule r' heq =>
      obtain ⟨hlimits, hbudget⟩ := register_budget heq
      obtain ⟨hlimits', hbudget'⟩ := registerFrom_budget rest (order + 1) r'
      exact ⟨hlimits'.trans hlimits, hbudget'.trans hbudget⟩

theorem registerGroups_budget : ∀ (groups : List RuleGroup) (r : Registry),
    (registerGroups groups r).2.limits = r.limits ∧ (registerGroups groups r).2.budget = r.budget
  | [], _ => ⟨rfl, rfl⟩
  | g :: rest, r => by
    have hgroup : (r.registerGroup g).2.limits = r.limits ∧
        (r.registerGroup g).2.budget = r.budget := registerFrom_budget g.patterns 0 r
    rw [registerGroups]
    split
    · next heq => rwa [heq] at hgroup
    · next rules r' heq =>
      rw [heq] at hgroup
      obtain ⟨hlimits, hbudget⟩ := registerGroups_budget rest r'
      exact ⟨hlimits.trans hgroup.1, hbudget.trans hgroup.2⟩

/-- 組から作った登録簿の上限と枠は、組によらない。 -/
theorem budget_of_ofGroups {groups : List RuleGroup} {limits : Limits} {r : Registry}
    (h : ofGroups groups limits = .ok r) :
    r.limits = limits ∧ r.budget = (empty limits).budget := by
  have hkept := registerGroups_budget groups (empty limits)
  unfold ofGroups at h
  split at h
  · next heq =>
    cases h
    rwa [heq] at hkept
  · cases h

/-! ### 登録された規則 -/

/-- 登録した規則の名前は、項の名前である。 -/
theorem map_name_of_registered {items : List Entry} {rules : List Rule}
    (h : List.Forall₂ Entry.Registered items rules) :
    rules.map (·.name) = items.map Entry.name := by
  induction h with
  | nil => rfl
  | cons hfits _ ih => rw [List.map_cons, List.map_cons, hfits.name, ih]

variable {groups : List RuleGroup}

/-- 組から登録簿を作った結果。 -/
theorem ofGroups_cases (h : ∀ g ∈ groups, g.Loaded ∧ g.patterns.length < 2 ^ 63)
    (limits : Limits) :
    (∃ r, ofGroups groups limits = .ok r ∧ r.Reachable ∧
        List.Forall₂ Entry.Registered (groups.flatMap RuleGroup.entries) r.rules) ∨
      ∃ before e after, groups.flatMap RuleGroup.entries = before ++ e :: after ∧
        (before.map Entry.name).Nodup ∧ e.name ∈ before.map Entry.name ∧
        ofGroups groups limits = .error (duplicate e.name) := by
  have henrolled := registerGroups_enrolled (r := empty limits) h
  have hreachable := reachable_registerGroups groups (.empty limits)
  unfold ofGroups
  generalize registerGroups groups (empty limits) = result at henrolled hreachable
  cases henrolled with
  | @all rules r' hrules hfits =>
    refine .inl ⟨r', rfl, hreachable, ?_⟩
    rw [show r'.rules = rules from hrules]
    exact hfits
  | @repeated before after e rules r' hitems hrules hfits htaken =>
    have hnames : r'.rules.map (·.name) = before.map Entry.name := by
      rw [show r'.rules = rules from hrules, map_name_of_registered hfits]
    refine .inr ⟨before, e, after, hitems, ?_, ?_, rfl⟩
    · rw [← hnames]
      exact hreachable.names_nodup
    · obtain ⟨rule, hrule, hname⟩ := List.any_eq_true.mp htaken
      rw [← hnames]
      exact List.mem_map.mpr ⟨rule, hrule, eq_of_beq hname⟩

/-- 作れた登録簿の規則は、組の項を順に登録したものである。 -/
theorem registered_of_ofGroups (h : ∀ g ∈ groups, g.Loaded ∧ g.patterns.length < 2 ^ 63)
    {limits : Limits} {r : Registry} (hr : ofGroups groups limits = .ok r) :
    r.Reachable ∧ List.Forall₂ Entry.Registered (groups.flatMap RuleGroup.entries) r.rules := by
  rcases ofGroups_cases h limits with ⟨r', hr', hfits⟩ | ⟨_, _, _, _, _, _, herror⟩
  · cases hr.symm.trans hr'
    exact hfits
  · cases hr.symm.trans herror

/-- 名前が互いに異なれば、組から登録簿を作れる。 -/
theorem exists_ofGroups (h : ∀ g ∈ groups, g.Loaded ∧ g.patterns.length < 2 ^ 63)
    (limits : Limits) (hnames : ((definitionsOf groups).map (·.2.name)).Nodup) :
    ∃ r, ofGroups groups limits = .ok r := by
  rcases ofGroups_cases h limits with ⟨r, hr, -⟩ | ⟨before, e, after, hitems, -, htaken, -⟩
  · exact ⟨r, hr⟩
  · rw [← map_name_entries, hitems, List.map_append] at hnames
    exact absurd rfl ((List.nodup_append.mp hnames).2.2 _ htaken _ (by simp))

/--
**読めた組は、名前が重ならない限り、そのまま登録される。**

登録簿を作れるのは、すべての組の定義の名前が互いに異なるときであり、そのときに限る。重なるときは、登録の順で
初めて繰り返された名前の誤りになる。作れた登録簿は、定義の一つ一つに、その式と段を持つ規則を一つずつ、書かれた順に
持ち、規則が有効なのは組も定義も無効でないときである。
-/
theorem ofGroups_enrolls (h : ∀ g ∈ groups, g.Loaded ∧ g.patterns.length < 2 ^ 63)
    (limits : Limits) :
    ((∃ r, ofGroups groups limits = .ok r) ↔ ((definitionsOf groups).map (·.2.name)).Nodup) ∧
      (¬ ((definitionsOf groups).map (·.2.name)).Nodup →
        ∃ before name after, (definitionsOf groups).map (·.2.name) = before ++ name :: after ∧
          before.Nodup ∧ name ∈ before ∧ ofGroups groups limits = .error (duplicate name)) ∧
      ∀ r, ofGroups groups limits = .ok r →
        List.Forall₂ (fun source rule => rule.name = source.2.name ∧ rule.definition = source.2 ∧
            source.2.compile = .ok rule.pattern ∧
            (rule.enabled = true ↔ source.1.disabled = false ∧ source.2.disabled = false))
          (definitionsOf groups) r.rules := by
  have hdistinct : ∀ r, ofGroups groups limits = .ok r →
      ((definitionsOf groups).map (·.2.name)).Nodup := by
    intro r hr
    obtain ⟨hreachable, hfits⟩ := registered_of_ofGroups h hr
    rw [← map_name_entries, ← map_name_of_registered hfits]
    exact hreachable.names_nodup
  refine ⟨⟨fun ⟨r, hr⟩ => hdistinct r hr, exists_ofGroups h limits⟩, fun hrepeated => ?_,
    fun r hr => ?_⟩
  · rcases ofGroups_cases h limits with ⟨r, hr, -⟩ |
      ⟨before, e, after, hitems, hnodup, htaken, herror⟩
    · exact absurd (hdistinct r hr) hrepeated
    · refine ⟨before.map Entry.name, e.name, after.map Entry.name, ?_, hnodup, htaken, herror⟩
      rw [← map_name_entries, hitems, List.map_append, List.map_cons]
  · rw [← map_source_entries, List.forall₂_map_left_iff]
    refine (registered_of_ofGroups h hr).2.imp fun e rule hfits => ?_
    refine ⟨hfits.name, hfits.definition, hfits.pattern, ?_⟩
    rw [hfits.enabled]
    simp [Entry.enabled, Entry.source]

/-- 名前が `name` で、式が `source` の定義。 -/
def plainDefinition (name source : String) : Definition :=
  { name, expression := { source := source.toList }, output := .text }

/-- 無効でない組。 -/
def openGroup : RuleGroup where
  name := "open"
  basePriority := .ofInt 3
  patterns := [plainDefinition "a" "x"]

/-- 無効な組。 -/
def shutGroup : RuleGroup where
  name := "shut"
  basePriority := .ofInt 3
  patterns := [plainDefinition "b" "y", plainDefinition "c" "z"]
  disabled := true

theorem loaded_openGroup : openGroup.Loaded := by
  refine ⟨.obj (plainGroup [plainEntry "a" "x" []]), "open", false, ?_⟩
  decide +kernel

theorem loaded_shutGroup : shutGroup.Loaded := by
  refine ⟨.obj (("options", .obj [("disabled", .bool true)]) ::
    plainGroup [plainEntry "b" "y" [], plainEntry "bad" "(" [], plainEntry "c" "z" []]),
    "shut", true, ?_⟩
  decide +kernel

/-- 無効な組の規則も、無効な規則として登録される。 -/
theorem ofGroups_enrolls_shut :
    (∀ g ∈ [openGroup, shutGroup], g.Loaded ∧ g.patterns.length < 2 ^ 63) ∧
      ∃ r, ofGroups [openGroup, shutGroup] {} = .ok r ∧
        r.rules.map (fun rule => (rule.name, rule.enabled))
          = [("a", true), ("b", false), ("c", false)] := by
  have hloaded : ∀ g ∈ [openGroup, shutGroup], g.Loaded ∧ g.patterns.length < 2 ^ 63 := by
    simpa using ⟨⟨loaded_openGroup, by decide⟩, loaded_shutGroup, by decide⟩
  obtain ⟨r, hr⟩ := (ofGroups_enrolls hloaded {}).1.mpr (by decide +kernel)
  have hshown : (ofGroups [openGroup, shutGroup] {}).toOption.map (fun r =>
      r.rules.map fun rule => (rule.name, rule.enabled))
        = some [("a", true), ("b", false), ("c", false)] := by decide +kernel
  rw [hr] at hshown
  exact ⟨hloaded, r, hr, Option.some.inj hshown⟩

/-- 同じ組を二度登録すると、初めの名前が重なる。 -/
example : ofGroups [openGroup, shutGroup, openGroup] {} = .error (duplicate "a") := by
  decide +kernel

end Registry

end Tategaki
