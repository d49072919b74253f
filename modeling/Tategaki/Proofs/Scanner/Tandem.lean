import Tategaki.Proofs.Scanner.Turn
import Tategaki.Proofs.Step.Pairing

/-!
# 二つの走査の足並み

同じ規則を試す二つの走査器で、同じ文字列を走査する。検めることと、勝ちを記録して枠を使うことで足並みが
揃うなら（`Tandem`）、走査の全体で足並みが揃う（`Tandem.scanAt`）。

二つの走査器は、上限も、枠の残りも違っていてよい。
-/

namespace Tategaki

namespace Scanner

variable {τ : Type}

/-! ## 検めと記録 -/

/-- 検めるだけの走査。 -/
def check (sc : Scanner τ) (ctx : Context) (st : ScanState τ) : Result τ Unit :=
  match sc.validate ctx st with
  | (some e, st) => (.error e, st)
  | (none, st) => (.ok (), st)

/-- 勝ちを記録して、枠を一つ使う。 -/
def spend (range : ProcessedRange) (win : Win) (st : ScanState τ) : Result τ Unit :=
  match (st.record range win).charge win.patternName with
  | .error e => (.error (.budget e), st.record range win)
  | .ok st => (.ok (), st)

/-- 検めを通れば、深さは上限の内である。 -/
theorem depth_le_of_check {sc : Scanner τ} {ctx : Context} {st st' : ScanState τ}
    (h : sc.check ctx st = (.ok (), st')) : ctx.depth ≤ sc.limits.maxDepth.value := by
  unfold check at h
  split at h
  · cases h
  · next heq => exact depth_le_of_validate heq

/-- 枠の走査は、検めを通れば、枠の中を辿る。 -/
theorem scanAt_check (sc : Scanner τ) (ctx : Context) (text : Text) (offset : Int)
    (st : ScanState τ) :
    sc.scanAt ctx text offset st =
      match sc.check ctx st with
      | (.error e, st) => (.error e, st)
      | (.ok (), st) => sc.loop (.of ctx text offset) (sc.rescan ctx offset) text.length 0 0 st := by
  rw [scanAt_eq]
  unfold check
  cases sc.validate ctx st with
  | mk e st₁ => cases e <;> rfl

/-- 一歩は、検めを通れば、塞ぐ区間と勝つ規則を見る。 -/
theorem turn_check (sc : Scanner τ) (frame : Frame) (position : Nat) (st : ScanState τ) :
    sc.turn frame position st =
      match sc.check frame.ctx st with
      | (.error e, st) => (.stop e, st)
      | (.ok (), st) =>
        match ProcessedRange.blocking? st.ranges (frame.offset + position) frame.offset
            frame.stop with
        | some range => (.skip range, st)
        | none =>
          match winner? sc.rules frame.input position with
          | none => (.step, st)
          | some (rule, found) => (.win rule found, st) := by
  unfold turn check
  cases sc.validate frame.ctx st with
  | mk e st₁ => cases e <;> rfl

/-- 勝った規則の段は、勝ちを記録して枠を使えたら、使う。 -/
theorem transform_spend (frame : Frame) (rescan : String → Rescan (ScanState τ) ScanError)
    (rule : Rule) (found : Regex.Match) (st : ScanState τ) :
    transform frame rescan rule found st =
      match spend (frame.range rule found) (frame.win rule found) st with
      | (.error e, st) => (.error e, st)
      | (.ok (), st) => rule.process frame.text found (some (rescan rule.name)) .transform st := by
  unfold transform spend
  rw [show (frame.win rule found).patternName = rule.name from rfl]
  dsimp only
  cases (st.record (frame.range rule found) (frame.win rule found)).charge rule.name <;> rfl

/-! ## 足並みの揃う走査器 -/

/-- 同じ規則を試す二つの走査器で、検めることと枠を使うことの足並みが揃う。 -/
structure Tandem (sc sc' : Scanner τ) where
  pairing : Pairing (ScanState τ) (ScanState τ) ScanError
  rules_eq : sc'.rules = sc.rules
  ranges_eq : ∀ {st st'}, pairing.ok st st' → st'.ranges = st.ranges
  transform : ∀ e {st st'}, pairing.ok st st' →
    pairing.bad (.transform e) st (.transform e) st'
  check : ∀ ctx {st st'}, pairing.ok st st' → pairing.Holds (sc.check ctx st) (sc'.check ctx st')
  spend : ∀ range win {st st'}, pairing.ok st st' →
    pairing.Holds (spend range win st) (spend range win st')

namespace Tandem

variable {sc sc' : Scanner τ} (T : Tandem sc sc')

/-- 一歩の足並み。どちらも止まるか、一つ目が大目に見る失敗で止まるか、同じ行いをする。 -/
theorem turn (frame : Frame) (position : Nat) {st st' : ScanState τ} (h : T.pairing.ok st st') :
    (∃ e s, sc.turn frame position st = (.stop e, s) ∧ T.pairing.excused e) ∨
    (∃ e s e' s', sc.turn frame position st = (.stop e, s) ∧
      sc'.turn frame position st' = (.stop e', s') ∧ T.pairing.bad e s e' s') ∨
    ∃ t s s', sc.turn frame position st = (t, s) ∧ sc'.turn frame position st' = (t, s') ∧
      T.pairing.ok s s' ∧ ∀ e, t ≠ .stop e := by
  rw [turn_check, turn_check]
  have hcheck := T.check frame.ctx h
  generalize sc.check frame.ctx st = result at hcheck ⊢
  generalize sc'.check frame.ctx st' = result' at hcheck ⊢
  cases hcheck with
  | excused he => exact .inl ⟨_, _, rfl, he⟩
  | error hbad => exact .inr (.inl ⟨_, _, _, _, rfl, rfl, hbad⟩)
  | @ok _ s s' hok =>
    right; right
    -- 区間の記録も試す規則も同じなので、行いは同じである
    dsimp only
    rw [T.ranges_eq hok, T.rules_eq]
    cases ProcessedRange.blocking? s.ranges (frame.offset + position) frame.offset frame.stop with
    | some range => exact ⟨.skip range, s, s', rfl, rfl, hok, nofun⟩
    | none =>
      cases winner? sc.rules frame.input position with
      | none => exact ⟨.step, s, s', rfl, rfl, hok, nofun⟩
      | some won => exact ⟨.win won.1 won.2, s, s', rfl, rfl, hok, nofun⟩

/-- 勝った規則の段の足並み。 -/
theorem transforms {frame : Frame} {rescan rescan' : String → Rescan (ScanState τ) ScanError}
    (hrescan : ∀ name segment start {st st'}, T.pairing.ok st st' →
      T.pairing.Holds (rescan name segment start st) (rescan' name segment start st'))
    (rule : Rule) (found : Regex.Match) {st st' : ScanState τ} (h : T.pairing.ok st st') :
    T.pairing.Holds (Scanner.transform frame rescan rule found st)
      (Scanner.transform frame rescan' rule found st') := by
  rw [transform_spend, transform_spend]
  have hspend := T.spend (frame.range rule found) (frame.win rule found) h
  generalize Scanner.spend (frame.range rule found) (frame.win rule found) st = result at hspend ⊢
  generalize Scanner.spend (frame.range rule found) (frame.win rule found) st' = result'
    at hspend ⊢
  cases hspend with
  | excused he => exact .excused he
  | error hbad => exact .error hbad
  | ok hok =>
    exact T.pairing.applySteps T.transform (fun segment start _ => hrescan rule.name segment start)
      rule.definition.output hok

/-- 枠の中を辿る足並み。 -/
theorem loop {frame : Frame} {rescan rescan' : String → Rescan (ScanState τ) ScanError}
    (hrescan : ∀ name segment start {st st'}, T.pairing.ok st st' →
      T.pairing.Holds (rescan name segment start st) (rescan' name segment start st'))
    (fuel : Nat) : ∀ (position last : Nat) {st st' : ScanState τ}, T.pairing.ok st st' →
      T.pairing.Holds (sc.loop frame rescan fuel position last st)
        (sc'.loop frame rescan' fuel position last st') := by
  induction fuel with
  | zero => intro position last st st' h; exact .ok h
  | succ fuel ih =>
    intro position last st st' h
    by_cases hlt : position < frame.text.length
    · rw [loop_succ sc frame rescan hlt, loop_succ sc' frame rescan' hlt]
      rcases T.turn frame position h with ⟨e, s, heq, he⟩ | ⟨e, s, e', s', heq, heq', hbad⟩ |
        ⟨t, s, s', heq, heq', hok, hne⟩
      · rw [heq]
        exact .excused he
      · rw [heq, heq']
        exact .error hbad
      · rw [heq, heq']
        cases t with
        | stop e => exact absurd rfl (hne e)
        | skip range =>
          dsimp only
          have hrest := ih (frame.afterSkip range) (frame.afterSkip range) hok
          generalize sc.loop frame rescan fuel _ _ s = result at hrest ⊢
          generalize sc'.loop frame rescan' fuel _ _ s' = result' at hrest ⊢
          cases hrest with
          | ok h => exact .ok h
          | error h => exact .error h
          | excused h => exact .excused h
        | step => exact ih _ _ hok
        | win rule found =>
          dsimp only
          have hwon : T.pairing.Holds (Scanner.transform frame rescan rule found s)
              (Scanner.transform frame rescan' rule found s') :=
            T.transforms hrescan rule found hok
          generalize Scanner.transform frame rescan rule found s = result at hwon ⊢
          generalize Scanner.transform frame rescan' rule found s' = result' at hwon ⊢
          cases hwon with
          | excused he => exact .excused he
          | error hbad => exact .error hbad
          | @ok _ s s' hok =>
            have hrest := ih found.stop found.stop hok
            dsimp only
            generalize sc.loop frame rescan fuel _ _ s = result at hrest ⊢
            generalize sc'.loop frame rescan' fuel _ _ s' = result' at hrest ⊢
            cases hrest with
            | ok h => exact .ok h
            | error h => exact .error h
            | excused h => exact .excused h
    · rw [loop_done sc frame rescan (Nat.not_lt.mp hlt),
        loop_done sc' frame rescan' (Nat.not_lt.mp hlt)]
      exact .ok h

/-- **検めと枠の足並みが揃えば、走査の全体で足並みが揃う。** -/
theorem scanAt (ctx : Context) : ∀ (text : Text) (offset : Int) {st st' : ScanState τ},
    T.pairing.ok st st' →
      T.pairing.Holds (sc.scanAt ctx text offset st) (sc'.scanAt ctx text offset st') := by
  refine scanAt_induction sc (motive := fun ctx => ∀ text offset {st st'}, T.pairing.ok st st' →
    T.pairing.Holds (sc.scanAt ctx text offset st) (sc'.scanAt ctx text offset st')) ?_ ctx
  intro ctx ih text offset st st' h
  rw [scanAt_check, scanAt_check]
  have hcheck := T.check ctx h
  generalize hresult : sc.check ctx st = result at hcheck ⊢
  generalize sc'.check ctx st' = result' at hcheck ⊢
  cases hcheck with
  | excused he => exact .excused he
  | error hbad => exact .error hbad
  | ok hok =>
    have hdepth := depth_le_of_check hresult
    exact T.loop (fun name segment start {_ _} => ih hdepth name segment (offset + start))
      text.length 0 0 hok

end Tandem

end Scanner

end Tategaki
