import Tategaki.Proofs.Scanner.Turn
import Tategaki.Proofs.Step.Outcome

/-!
# 走査の法則

状態の移りの法則は、時計を読むこと、勝ちを記録して枠を使うこと、失敗することの三つと、内側の枠の
法則から外側の枠の法則が出ることを確かめれば、走査の全体で成り立つ（`FrameLaws.scanAt`）。

区間の記録は後ろに伸びるだけで（`growthLaws`）、節を返すなら、伸びた分だけ枠を使っている
（`spendingLaws`）。
-/

namespace Tategaki

/-- 枠の使用を断られた失敗か。 -/
def ScanError.isRefusal : ScanError → Bool
  | budget _ => true
  | _ => false

namespace Scanner

variable {τ : Type}

/-! ## 枠ごとの法則 -/

/-- 検めの失敗は、枠とは関わらない。 -/
theorem isRefusal_of_validate {sc : Scanner τ} {ctx : Context} {st st' : ScanState τ}
    {e : ScanError} (h : sc.validate ctx st = (some e, st')) : e.isRefusal = false := by
  unfold validate at h
  dsimp only at h
  split at h
  · cases h
    rfl
  · split at h
    · cases h
      rfl
    · cases h

theorem isRefusal_of_stop {sc : Scanner τ} {frame : Frame} {position : Nat} {st st' : ScanState τ}
    {e : ScanError} (h : sc.turn frame position st = (.stop e, st')) : e.isRefusal = false := by
  unfold turn at h
  split at h
  · next heq =>
    cases h
    exact isRefusal_of_validate heq
  · split at h
    · cases h
    · split at h <;> cases h

/-- 枠ごとの法則。時計を読むこと、勝って枠を使うこと、失敗することに従い、内側の枠の法則から
外側の枠の法則が出る。 -/
structure FrameLaws (sc : Scanner τ) where
  law : Text → Int → Law (ScanState τ) ScanError
  read : ∀ text offset st, (law text offset).ok st (st.readClock sc.read).2
  fail : ∀ text offset st e, e.isRefusal = false → (law text offset).bad st e st
  charge : ∀ ctx text offset position rule found st st',
    rule.matchAt text.toArray position = some found →
    (st.record ((Frame.of ctx text offset).range rule found)
      ((Frame.of ctx text offset).win rule found)).charge rule.name = .ok st' →
    (law text offset).ok st st'
  refuse : ∀ ctx text offset rule found st e,
    (st.record ((Frame.of ctx text offset).range rule found)
      ((Frame.of ctx text offset).win rule found)).charge rule.name = .error e →
    (law text offset).bad st (.budget e)
      (st.record ((Frame.of ctx text offset).range rule found)
        ((Frame.of ctx text offset).win rule found))
  nest : ∀ text offset position rule found segment start, rule ∈ sc.rules →
    rule.matchAt text.toArray position = some found →
    Reprocesses rule.definition.steps ⟨text, found, rule.pattern.groupCount⟩ segment start →
    ∀ st (result : Result τ (List Node)), (law segment (offset + start)).Holds st result →
      (law text offset).Holds st result

namespace FrameLaws

variable {sc : Scanner τ} (F : FrameLaws sc)

theorem transform (ctx : Context) {text : Text} {offset : Int} {position : Nat} {rule : Rule}
    {found : Regex.Match} {rescan : String → Rescan (ScanState τ) ScanError}
    (hrule : rule ∈ sc.rules) (hmatch : rule.matchAt text.toArray position = some found)
    (hrescan : ∀ name segment (start : Nat) st, (F.law segment (offset + start)).Holds st
      (rescan name segment start st)) (st : ScanState τ) :
    (F.law text offset).Holds st
      (Scanner.transform (.of ctx text offset) rescan rule found st) := by
  unfold Scanner.transform
  dsimp only
  split
  · next hcharge => exact F.refuse ctx text offset rule found st _ hcharge
  · next st₁ hcharge =>
    refine Law.Holds.after (F.charge ctx text offset position rule found st st₁ hmatch hcharge) ?_
    refine Law.applySteps _ (fun s e => F.fail text offset s _ rfl) ?_ st₁
    intro segment start hreprocess s
    exact F.nest text offset position rule found segment start hrule hmatch hreprocess s _
      (hrescan rule.name segment start s)

theorem loop {ctx : Context} {text : Text} {offset : Int}
    {rescan : String → Rescan (ScanState τ) ScanError}
    (hrescan : ∀ name segment (start : Nat) st, (F.law segment (offset + start)).Holds st
      (rescan name segment start st)) (fuel : Nat) :
    ∀ position last st, (F.law text offset).Holds st
      (sc.loop (.of ctx text offset) rescan fuel position last st) := by
  induction fuel with
  | zero => intro _ _ st; exact (F.law text offset).refl st
  | succ fuel ih =>
    intro position last st
    by_cases hlt : position < text.length
    · rw [loop_succ sc (.of ctx text offset) rescan hlt]
      -- どの一歩も、時計を読むほかに状態を変えない
      have hread := F.read text offset st
      rw [← turn_state sc (.of ctx text offset) position st] at hread
      split
      · next heq =>
        rw [heq] at hread
        exact (F.law text offset).andThen hread (F.fail _ _ _ _ (isRefusal_of_stop heq))
      · next range st₁ heq =>
        rw [heq] at hread
        have hrest := (ih ((Frame.of ctx text offset).afterSkip range)
          ((Frame.of ctx text offset).afterSkip range) st₁).after hread
        split <;> next hloop => rw [hloop] at hrest; exact hrest
      · next heq =>
        rw [heq] at hread
        exact (ih _ _ _).after hread
      · next rule found st₁ heq =>
        rw [heq] at hread
        obtain ⟨hrule, hmatch⟩ := mem_of_winner? (turn_win heq).2
        have hwon := (F.transform ctx hrule hmatch hrescan st₁).after hread
        split
        · next htransform => rw [htransform] at hwon; exact hwon
        · next st₂ htransform =>
          rw [htransform] at hwon
          have hrest := (ih found.stop found.stop st₂).after hwon
          split <;> next hloop => rw [hloop] at hrest; exact hrest
    · rw [loop_done sc (.of ctx text offset) rescan (Nat.not_lt.mp hlt)]
      exact (F.law text offset).refl st

/-- **一歩ごとに従う法則は、走査の全体で従う。** -/
theorem scanAt (ctx : Context) : ∀ (text : Text) (offset : Int) (st : ScanState τ),
    (F.law text offset).Holds st (sc.scanAt ctx text offset st) := by
  refine scanAt_induction sc (motive := fun ctx => ∀ text offset st,
    (F.law text offset).Holds st (sc.scanAt ctx text offset st)) ?_ ctx
  intro ctx ih text offset st
  rw [scanAt_eq]
  have hread := F.read text offset st
  rw [← validate_state sc ctx st] at hread
  split
  · next heq =>
    rw [heq] at hread
    exact (F.law text offset).andThen hread (F.fail _ _ _ _ (isRefusal_of_validate heq))
  · next st₁ heq =>
    rw [heq] at hread
    have hdepth := depth_le_of_validate heq
    exact (F.loop (fun name segment start st => ih hdepth name segment (offset + start) st)
      text.length 0 0 st₁).after hread

/-- 規則が求める走査も法則に従う。 -/
theorem rescan (ctx : Context) (offset : Int) (name : String) (segment : Text) (start : Nat)
    (st : ScanState τ) :
    (F.law segment (offset + start)).Holds st (sc.rescan ctx offset name segment start st) :=
  F.scanAt (ctx.child name) segment (offset + start) st

end FrameLaws

/-! ## 区間の増え方 -/

/-- 検めるだけでは、区間の記録は変わらない。 -/
theorem ranges_of_turn {sc : Scanner τ} {frame : Frame} {position : Nat} {t : Turn}
    {st st' : ScanState τ} (h : sc.turn frame position st = (t, st')) :
    st'.ranges = st.ranges := by
  have hstate : st' = (st.readClock sc.read).2 := by
    rw [← turn_state sc frame position st, h]
  rw [hstate]
  rfl

theorem charge_ranges {st st' : ScanState τ} {name : String} (h : st.charge name = .ok st') :
    st'.ranges = st.ranges := by
  unfold ScanState.charge at h
  split at h
  · obtain ⟨b, -, rfl⟩ := exists_of_map_ok h
    rfl
  · obtain ⟨b, -, rfl⟩ := exists_of_map_ok h
    rfl

/-- 記録した区間は消えない。 -/
def growth (τ : Type) : Law (ScanState τ) ScanError where
  ok a b := a.ranges <+: b.ranges
  bad a _ b := a.ranges <+: b.ranges
  refl _ := List.prefix_rfl
  trans := List.IsPrefix.trans
  andThen := List.IsPrefix.trans

/-- 走査は、記録した区間の後ろに書き足すだけである。 -/
def growthLaws (sc : Scanner τ) : FrameLaws sc where
  law _ _ := growth τ
  read _ _ _ := List.prefix_rfl
  fail _ _ _ _ _ := List.prefix_rfl
  charge _ _ _ _ _ _ _ _ _ h := by
    show _ <+: _
    rw [charge_ranges h]
    exact List.prefix_append _ _
  refuse _ _ _ _ _ _ _ _ := List.prefix_append _ _
  nest _ _ _ _ _ _ _ _ _ _ _ _ h := h

/-- 勝った規則の段は、その区間を記録した状態で動き、終わりの状態は区間を書き足しただけである。 -/
theorem transform_ok {sc : Scanner τ} {ctx : Context} {text : Text} {offset : Int} {rule : Rule}
    {found : Regex.Match} {st st' : ScanState τ} {nodes : List Node}
    (h : transform (.of ctx text offset) (sc.rescan ctx offset) rule found st = (.ok nodes, st')) :
    ∃ before, (st.record ((Frame.of ctx text offset).range rule found)
        ((Frame.of ctx text offset).win rule found)).charge rule.name = .ok before ∧
      before.ranges = st.ranges ++ [(Frame.of ctx text offset).range rule found] ∧
      rule.process text found (some (sc.rescan ctx offset rule.name)) .transform before
        = (.ok nodes, st') := by
  unfold transform at h
  dsimp only at h
  split at h
  · cases h
  · next before hcharge => exact ⟨before, hcharge, charge_ranges hcharge, h⟩

theorem transform_ranges {sc : Scanner τ} {ctx : Context} {text : Text} {offset : Int}
    {position : Nat} {rule : Rule} {found : Regex.Match} {st st' : ScanState τ}
    {nodes : List Node} (hrule : rule ∈ sc.rules)
    (hmatch : rule.matchAt text.toArray position = some found)
    (h : transform (.of ctx text offset) (sc.rescan ctx offset) rule found st = (.ok nodes, st')) :
    st.ranges <+: st'.ranges := by
  have hlaw := (growthLaws sc).transform ctx hrule hmatch ((growthLaws sc).rescan ctx offset) st
  rw [h] at hlaw
  exact hlaw

/-- 書き足した区間は、どれも条件 `keep` に適う。 -/
def adding (τ : Type) (keep : ProcessedRange → Prop) : Law (ScanState τ) ScanError where
  ok a b := ∃ added, b.ranges = a.ranges ++ added ∧ ∀ range ∈ added, keep range
  bad _ _ _ := True
  refl _ := ⟨[], by simp, by simp⟩
  trans := by
    rintro a b c ⟨added, hb, hadded⟩ ⟨added', hc, hadded'⟩
    refine ⟨added ++ added', by rw [hc, hb, List.append_assoc], fun range hr => ?_⟩
    rcases List.mem_append.mp hr with hr | hr
    · exact hadded range hr
    · exact hadded' range hr
  andThen _ _ := trivial

theorem adding_mono {keep keep' : ProcessedRange → Prop} (h : ∀ range, keep range → keep' range)
    {st : ScanState τ} {result : Result τ (List Node)} (hl : (adding τ keep).Holds st result) :
    (adding τ keep').Holds st result := by
  obtain ⟨e | nodes, st'⟩ := result
  · trivial
  · obtain ⟨added, heq, hadded⟩ := hl
    exact ⟨added, heq, fun range hr => h range (hadded range hr)⟩

/-- 区間の位置は、`lo` から `hi` の手前までにある。 -/
def Covered (lo hi : Int) (range : ProcessedRange) : Prop :=
  ∀ p, range.contains p = true → lo ≤ p ∧ p < hi

/-- 枠の中の走査が書き足す区間は、枠の外に掛からない。 -/
def coveredLaws (sc : Scanner τ) : FrameLaws sc where
  law text offset := adding τ (Covered offset (offset + text.length))
  read _ _ st := ⟨[], by simp [ScanState.readClock], by simp⟩
  fail _ _ _ _ _ := trivial
  charge ctx text offset position rule found st st' hmatch hcharge := by
    refine ⟨[(Frame.of ctx text offset).range rule found], charge_ranges hcharge, ?_⟩
    intro range hr p hp
    have hbounds := Rule.matchAt_bounds hmatch
    rw [List.mem_singleton.mp hr] at hp
    have hboth : offset + (found.start : Int) ≤ p ∧ p < offset + found.stop :=
      ProcessedRange.contains_iff.mp hp
    omega
  refuse _ _ _ _ _ _ _ _ := trivial
  nest text offset position rule found segment start _ _ hr st result hl := by
    obtain ⟨group, stop, -, -, rfl⟩ := hr
    refine adding_mono (fun range hcovered p hp => ?_) hl
    have hboth : offset + (start : Int) ≤ p ∧ p < offset + start + (Text.slice text start stop).length :=
      hcovered p hp
    have hlength := Text.slice_length text start stop
    omega

/-- **勝った規則は、合ったところの区間と、その段の求めた文字列の中の区間だけを書き足す。** -/
theorem transform_added {sc : Scanner τ} {ctx : Context} {text : Text} {offset : Int} {rule : Rule}
    {found : Regex.Match} {st st' : ScanState τ} {nodes : List Node}
    (h : transform (.of ctx text offset) (sc.rescan ctx offset) rule found st = (.ok nodes, st')) :
    ∃ nested, st'.ranges = st.ranges ++ (Frame.of ctx text offset).range rule found :: nested ∧
      ∀ range ∈ nested, ∃ segment start, Reprocesses rule.definition.steps
        ⟨text, found, rule.pattern.groupCount⟩ segment start ∧
        Covered (offset + start) (offset + start + segment.length) range := by
  obtain ⟨before, -, hbefore, hprocess⟩ := transform_ok h
  have hlaw : (adding τ fun range => ∃ segment start, Reprocesses rule.definition.steps
      ⟨text, found, rule.pattern.groupCount⟩ segment start ∧
      Covered (offset + start) (offset + start + segment.length) range).Holds before
      (rule.process text found (some (sc.rescan ctx offset rule.name)) .transform before) := by
    refine Law.applySteps _ (fun _ _ => trivial) (fun segment start hr s => ?_) before
    exact adding_mono (fun range hcovered => ⟨segment, start, hr, hcovered⟩)
      ((coveredLaws sc).rescan ctx offset rule.name segment start s)
  rw [hprocess] at hlaw
  obtain ⟨nested, heq, hnested⟩ := hlaw
  refine ⟨nested, ?_, hnested⟩
  rw [heq, hbefore, List.append_assoc]
  rfl

/-! ## 使った枠 -/

theorem charge_budget {st st' : ScanState τ} {name : String} (h : st.charge name = .ok st') :
    st'.budget.count = st.budget.count + 1 := by
  unfold ScanState.charge at h
  split at h
  · next b hown =>
    obtain ⟨b', hb, rfl⟩ := exists_of_map_ok h
    have hbudget : st.budget = b := by
      unfold ScanState.budget
      rw [hown]
      rfl
    rw [hbudget]
    exact (Budget.charge_count hb).1
  · next hown =>
    obtain ⟨b', hb, rfl⟩ := exists_of_map_ok h
    have hbudget : ∀ b : Budget, ({ st with shared := b } : ScanState τ).budget = b := by
      intro b
      unfold ScanState.budget
      rw [hown]
      rfl
    rw [hbudget b', show st.budget = st.shared from hbudget st.shared]
    exact (Budget.charge_count hb).1

/-- 節を返すなら、増えた区間の個数だけ枠を使っている。 -/
def spending (τ : Type) : Law (ScanState τ) ScanError where
  ok a b := ∃ n, b.ranges.length = a.ranges.length + n ∧ b.budget.count = a.budget.count + n
  bad _ _ _ := True
  refl _ := ⟨0, rfl, rfl⟩
  trans := by
    rintro a b c ⟨n, hranges, hcount⟩ ⟨n', hranges', hcount'⟩
    exact ⟨n + n', by omega, by omega⟩
  andThen _ _ := trivial

/-- 走査は、記録した区間の個数だけ枠を使う。 -/
def spendingLaws (sc : Scanner τ) : FrameLaws sc where
  law _ _ := spending τ
  read _ _ _ := ⟨0, rfl, rfl⟩
  fail _ _ _ _ _ := trivial
  charge _ _ _ _ _ _ st st' _ h := by
    have hcount := charge_budget h
    refine ⟨1, ?_, hcount⟩
    rw [charge_ranges h, ScanState.record_ranges, List.length_append]
    rfl
  refuse _ _ _ _ _ _ _ _ := trivial
  nest _ _ _ _ _ _ _ _ _ _ _ _ h := h

/-- 節を返した走査は、区間を記録した回数だけ枠を使っている。 -/
theorem scan_spends {sc : Scanner τ} {ctx : Context} {text : Text} {st st' : ScanState τ}
    {nodes : List Node} (h : sc.scan ctx text st = (.ok nodes, st')) :
    st'.budget.count + st.ranges.length = st.budget.count + st'.ranges.length := by
  have hlaw := (spendingLaws sc).scanAt ctx text 0 st
  rw [show sc.scanAt ctx text 0 st = (.ok nodes, st') from h] at hlaw
  obtain ⟨n, hranges, hcount⟩ := hlaw
  omega

end Scanner

end Tategaki
