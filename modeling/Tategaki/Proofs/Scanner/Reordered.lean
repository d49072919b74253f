import Tategaki.Proofs.Rule.LoadOrder
import Tategaki.Proofs.Scanner.Turn

/-!
# 組の順によらない走査

走査は規則の通し番号を見ない（`Scanner.scanAt_unnumbered`）。だから、試す規則が通し番号のほか同じなら、同じ文字列を
同じ状態から走査した結果も、その後の状態も同じである。組を読み込む順を変えたときがそうである
（`Registry.ofGroups_reordered`）。
-/

namespace Tategaki

namespace Scanner

variable {τ : Type}

/-! ## 通し番号を見ない走査 -/

/-- 規則の通し番号を忘れた走査器。 -/
def unnumbered (sc : Scanner τ) : Scanner τ := { sc with rules := sc.rules.map Rule.unnumbered }

/-- 規則の通し番号を忘れた一歩。 -/
def Turn.unnumbered : Turn → Turn
  | win rule found => win rule.unnumbered found
  | t => t

theorem winner?_unnumbered (rules : List Rule) (input : Array Char) (position : Nat) :
    winner? (rules.map Rule.unnumbered) input position
      = (winner? rules input position).map fun won => (won.1.unnumbered, won.2) := by
  unfold winner?
  induction rules with
  | nil => rfl
  | cons rule rest ih =>
    rw [List.map_cons, List.findSome?_cons, List.findSome?_cons]
    have hmatch : rule.unnumbered.matchAt input position = rule.matchAt input position := rfl
    rw [hmatch]
    cases rule.matchAt input position with
    | some found => rfl
    | none => exact ih

theorem validate_unnumbered (sc : Scanner τ) (ctx : Context) (st : ScanState τ) :
    sc.unnumbered.validate ctx st = sc.validate ctx st := rfl

/-- 一歩の行いは、通し番号のほかは変わらない。 -/
theorem turn_unnumbered (sc : Scanner τ) (frame : Frame) (position : Nat) (st : ScanState τ) :
    sc.unnumbered.turn frame position st
      = ((sc.turn frame position st).1.unnumbered, (sc.turn frame position st).2) := by
  unfold turn
  rw [validate_unnumbered]
  split
  · rfl
  · split
    · rfl
    · rw [unnumbered, winner?_unnumbered]
      cases winner? sc.rules frame.input position <;> rfl

/-- 枠の中の走査は、規則の通し番号を見ない。 -/
theorem loop_unnumbered (sc : Scanner τ) (frame : Frame)
    (rescan : String → Rescan (ScanState τ) ScanError) (fuel : Nat) :
    ∀ (position last : Nat) (st : ScanState τ),
      sc.unnumbered.loop frame rescan fuel position last st
        = sc.loop frame rescan fuel position last st := by
  induction fuel with
  | zero => exact fun _ _ _ => rfl
  | succ fuel ih =>
    intro position last st
    by_cases hlt : position < frame.text.length
    · rw [loop_succ _ _ _ hlt, loop_succ _ _ _ hlt, turn_unnumbered]
      cases sc.turn frame position st with
      | mk t st₁ =>
        cases t with
        | stop e => rfl
        | skip range => simp only [Turn.unnumbered, ih]
        | step => exact ih _ _ _
        | win rule found =>
          have hsame : transform frame rescan rule.unnumbered found st₁
              = transform frame rescan rule found st₁ := rfl
          simp only [Turn.unnumbered, hsame, ih]
    · rw [loop_done _ _ _ (Nat.not_lt.mp hlt), loop_done _ _ _ (Nat.not_lt.mp hlt)]

/-- **走査は、規則の通し番号を見ない。** -/
theorem scanAt_unnumbered (sc : Scanner τ) (ctx : Context) : ∀ (text : Text) (offset : Int)
    (st : ScanState τ), sc.unnumbered.scanAt ctx text offset st = sc.scanAt ctx text offset st := by
  induction ctx using scanAt_induction sc with
  | step ctx ih =>
    intro text offset st
    rw [scanAt_eq, scanAt_eq, validate_unnumbered]
    split
    · rfl
    · next st₁ hvalid =>
      have hrescan : sc.unnumbered.rescan ctx offset = sc.rescan ctx offset := by
        funext name segment start st
        exact ih (depth_le_of_validate hvalid) name _ _ _
      rw [hrescan, loop_unnumbered]

/-- 試す規則が通し番号のほか同じなら、走査は同じである。 -/
theorem scanAt_congr {sc sc' : Scanner τ} (h : sc'.unnumbered = sc.unnumbered) (ctx : Context)
    (text : Text) (offset : Int) (st : ScanState τ) :
    sc'.scanAt ctx text offset st = sc.scanAt ctx text offset st := by
  rw [← scanAt_unnumbered sc', ← scanAt_unnumbered sc, h]

end Scanner

/-! ## 組を読み込む順 -/

namespace Registry

open RuleGroup

/--
**組を読み込む順は、走査を変えない。**

規則の名前が互いに異なり、優先順位に非数がなく、優先順位の等しい規則が一つの組の中にしかなければ、組をどう並べ替えて
登録しても、有効な規則を試す順は通し番号のほか同じで、どの文脈のどの走査も、同じ状態から同じ節か同じ誤りを返し、
区間の記録も枠も時計も同じになる。
-/
theorem ofGroups_reordered {groups groups' : List RuleGroup} (hperm : groups'.Perm groups)
    (hloaded : ∀ g ∈ groups, g.Loaded ∧ g.patterns.length < 2 ^ 63) (h : Orderable groups)
    (limits : Limits) :
    ∃ r r', ofGroups groups limits = .ok r ∧ ofGroups groups' limits = .ok r' ∧
      r'.getAll.1.rules.map Rule.unnumbered = r.getAll.1.rules.map Rule.unnumbered ∧
      r'.limits = r.limits ∧ r'.budget = r.budget ∧
      ∀ (τ : Type) (limits' : Limits) (read : ReadClock τ) ctx text offset (st : ScanState τ),
        (Scanner.ofRegistry r' limits' read).scanAt ctx text offset st
          = (Scanner.ofRegistry r limits' read).scanAt ctx text offset st := by
  have hnames : ((definitionsOf groups).map (·.2.name)).Nodup := by
    rw [← map_name_entries]
    exact h.names_nodup
  have hnames' : ((definitionsOf groups').map (·.2.name)).Nodup := by
    rw [← map_name_entries]
    exact (h.of_perm hperm).names_nodup
  have hloaded' : ∀ g ∈ groups', g.Loaded ∧ g.patterns.length < 2 ^ 63 :=
    fun g hg => hloaded g (hperm.subset hg)
  obtain ⟨r, hr⟩ := exists_ofGroups hloaded limits hnames
  obtain ⟨r', hr'⟩ := exists_ofGroups hloaded' limits hnames'
  obtain ⟨hreachable, hfits⟩ := registered_of_ofGroups hloaded hr
  obtain ⟨hreachable', hfits'⟩ := registered_of_ofGroups hloaded' hr'
  have hrules := Holds.activeRules_reordered h hperm ⟨hreachable, hfits⟩ ⟨hreachable', hfits'⟩
  obtain ⟨hlimits, hbudget⟩ := budget_of_ofGroups hr
  obtain ⟨hlimits', hbudget'⟩ := budget_of_ofGroups hr'
  refine ⟨r, r', hr, hr', ?_, hlimits'.trans hlimits.symm, hbudget'.trans hbudget.symm, ?_⟩
  · rw [getAll_rules, getAll_rules, hrules]
  · intro τ limits' read ctx text offset st
    refine Scanner.scanAt_congr ?_ ctx text offset st
    exact congrArg (Scanner.mk · limits' read) hrules

/-- 優先順位の基準が大きく、番号を足しても変わらない組。二つの規則の優先順位は等しい。 -/
def tiedGroup : RuleGroup where
  name := "tied"
  basePriority := .ofInt (2 ^ 60)
  patterns := [plainDefinition "p" "x", plainDefinition "q" "x"]

theorem loaded_tiedGroup : tiedGroup.Loaded := by
  refine ⟨.obj [("basePriority", .int (2 ^ 60)),
    ("patterns", .arr [plainEntry "p" "x" [], plainEntry "q" "x" []])], "tied", false, ?_⟩
  decide +kernel

/-- 優先順位の等しい規則も、組の並びによらず、書かれた順に試す。 -/
theorem ofGroups_reordered_tied :
    [openGroup, tiedGroup].Perm [tiedGroup, openGroup] ∧
      (∀ g ∈ [tiedGroup, openGroup], g.Loaded ∧ g.patterns.length < 2 ^ 63) ∧
      Orderable [tiedGroup, openGroup] ∧
      ∃ r r', ofGroups [tiedGroup, openGroup] {} = .ok r ∧
        ofGroups [openGroup, tiedGroup] {} = .ok r' ∧
        r.getAll.1.rules.map (·.name) = ["a", "p", "q"] ∧
        r'.getAll.1.rules.map (·.name) = ["a", "p", "q"] := by
  have hperm : [openGroup, tiedGroup].Perm [tiedGroup, openGroup] := .swap _ _ _
  have hloaded : ∀ g ∈ [tiedGroup, openGroup], g.Loaded ∧ g.patterns.length < 2 ^ 63 := by
    simpa using ⟨⟨loaded_tiedGroup, by decide⟩, loaded_openGroup, by decide⟩
  have horderable : Orderable [tiedGroup, openGroup] :=
    ⟨by decide +kernel, by decide +kernel, by decide +kernel⟩
  obtain ⟨r, r', hr, hr', hrules, -⟩ := ofGroups_reordered hperm hloaded horderable {}
  have hshown : (ofGroups [tiedGroup, openGroup] {}).toOption.map (fun r =>
      r.getAll.1.rules.map (·.name)) = some ["a", "p", "q"] := by decide +kernel
  rw [hr] at hshown
  have hnames : r.getAll.1.rules.map (·.name) = ["a", "p", "q"] := Option.some.inj hshown
  refine ⟨hperm, hloaded, horderable, r, r', hr, hr', hnames, ?_⟩
  have hsame := congrArg (List.map (·.name)) hrules
  rw [List.map_map, List.map_map] at hsame
  exact hsame.trans hnames

end Registry

end Tategaki
