import Tategaki.Proofs.Scanner.Tandem
import Tategaki.Scanner.Stack

/-!
# 枠を積む場所の限り

積む場所に限りがあっても、走査は、場所がなくなったという失敗で止まるか、限りがないときと同じに終わる
（`scanWithin_cases`）。深さの上限まで積めるなら、場所はなくならない（`scanWithin_of_le`）。

縮めた上限と元の上限との違いは、縮めた上限を越えた枠の検めだけに現れる。だから、縮めた上限で走査するものは、
深さのために止まらない限り、元の上限で走査するものと同じ状態を辿る（`cramped`）。
-/

namespace Tategaki

/-- 縮めた上限は、元の上限を越えない。 -/
theorem Limits.within_depth_le (limits : Limits) (deepest : Option Int) :
    (limits.within deepest).maxDepth.value ≤ limits.maxDepth.value := by
  cases deepest with
  | none => exact Int.le_refl _
  | some deepest =>
    by_cases h : limits.maxDepth.value ≤ deepest
    · exact Int.le_of_eq (by rw [within_of_le h])
    · rw [within_of_lt (Int.not_le.mp h)]
      exact Int.le_of_lt (Int.not_le.mp h)

/-- 深さのために止まった失敗か。 -/
def ScanError.isTooDeep : ScanError → Bool
  | tooDeep _ _ _ => true
  | _ => false

/-- 深さのために止まったのでなければ、場所がなくなったのではない。 -/
theorem StackError.ofScan_of_not_tooDeep {limits : Limits} {deepest : Option Int} {e : ScanError}
    (h : e.isTooDeep = false) : ofScan limits deepest e = scan e := by
  cases e with
  | tooDeep depth limit chain => cases h
  | timeout elapsed limit => rfl
  | budget e => rfl
  | transform e => rfl

/-- 縮めた上限のために深すぎたのなら、場所がなくなったのである。 -/
theorem StackError.ofScan_of_tooDeep {limits : Limits} {deepest : Int} {e : ScanError}
    (hlt : deepest < limits.maxDepth.value) (h : e.isTooDeep = true) :
    ofScan limits (some deepest) e = exhausted := by
  cases e with
  | tooDeep depth limit chain => exact if_pos (decide_eq_true hlt)
  | timeout elapsed limit => cases h
  | budget e => cases h
  | transform e => cases h

/-- 縮めていなければ、失敗はそのままである。 -/
theorem StackError.ofScan_of_le {limits : Limits} {deepest : Int}
    (h : limits.maxDepth.value ≤ deepest) (e : ScanError) :
    ofScan limits (some deepest) e = scan e := by
  cases e with
  | tooDeep depth limit chain =>
    exact if_neg fun hlt => Int.not_lt.mpr h (of_decide_eq_true hlt)
  | timeout elapsed limit => rfl
  | budget e => rfl
  | transform e => rfl

namespace Scanner

variable {τ : Type}

/-- 同じ状態を辿り、深さのために止まる一つ目だけは大目に見る。 -/
def uncramped : Pairing (ScanState τ) (ScanState τ) ScanError where
  ok st st' := st' = st
  bad e st e' st' := e' = e ∧ st' = st ∧ e.isTooDeep = false
  excused e := e.isTooDeep = true

/-- 縮めた上限での検めは、深さのために止まるのでなければ、元の上限での検めと同じに終わる。 -/
theorem holds_check_within (sc : Scanner τ) (deepest : Option Int) (ctx : Context)
    (st : ScanState τ) : uncramped.Holds ((sc.within deepest).check ctx st) (sc.check ctx st) := by
  have hdepth := sc.limits.within_depth_le deepest
  unfold check validate within
  dsimp only
  rw [Limits.within_timeout]
  by_cases hlate : sc.limits.timeout.value.lt
      ((st.readClock sc.read).1.sub ctx.startTime) = true
  · rw [if_pos hlate, if_pos hlate]
    dsimp only
    exact .error ⟨rfl, rfl, rfl⟩
  · rw [if_neg hlate, if_neg hlate]
    by_cases hdeep : (sc.limits.within deepest).maxDepth.value < ctx.depth
    · rw [if_pos hdeep]
      exact .excused rfl
    · rw [if_neg hdeep, if_neg fun hover => hdeep (Int.lt_of_le_of_lt hdepth hover)]
      dsimp only
      exact .ok rfl

/-- 勝ちの記録は、上限によらない。 -/
theorem holds_spend (range : ProcessedRange) (win : Win) (st : ScanState τ) :
    uncramped.Holds (spend range win st) (spend range win st) := by
  unfold spend
  split
  · exact .error ⟨rfl, rfl, rfl⟩
  · exact .ok rfl

/-- 縮めた上限での走査は、深さのために止まるまで、元の上限での走査と同じ状態を辿る。 -/
def cramped (sc : Scanner τ) (deepest : Option Int) : Tandem (sc.within deepest) sc where
  pairing := uncramped
  rules_eq := (within_rules sc deepest).symm
  ranges_eq h := congrArg ScanState.ranges h
  transform _ _ _ h := ⟨rfl, h, rfl⟩
  check ctx st _ h := by
    cases h
    exact sc.holds_check_within deepest ctx st
  spend range win st _ h := by
    cases h
    exact holds_spend range win st

/-- **深さの上限まで積めるなら、限りがないときと同じに終わる。** -/
theorem scanWithin_of_le (sc : Scanner τ) {room : Nat} {ctx : Context} (text : Text)
    (st : ScanState τ) (h : sc.limits.maxDepth.value ≤ ctx.depth + room) :
    sc.scanWithin (some room) ctx text st
      = ((sc.scan ctx text st).1.mapError .scan, (sc.scan ctx text st).2) := by
  have hofScan : StackError.ofScan sc.limits (some (ctx.depth + room)) = .scan :=
    funext (StackError.ofScan_of_le h)
  unfold scanWithin within
  dsimp only [Option.map_some]
  rw [Limits.within_of_le h, hofScan]

/-- **積む場所に限りがあっても、場所がなくなって止まるのでなければ、限りがないときと同じに終わる。** -/
theorem scanWithin_cases (sc : Scanner τ) (room : Nat) (ctx : Context) (text : Text)
    (st : ScanState τ) :
    (sc.scanWithin (some room) ctx text st).1 = .error .exhausted ∨
      sc.scanWithin (some room) ctx text st
        = ((sc.scan ctx text st).1.mapError .scan, (sc.scan ctx text st).2) := by
  by_cases hle : sc.limits.maxDepth.value ≤ ctx.depth + room
  · exact .inr (sc.scanWithin_of_le text st hle)
  · have hlt := Int.not_le.mp hle
    have hstart : (sc.cramped (some (ctx.depth + room))).pairing.ok st st := rfl
    have hpaired := (sc.cramped (some (ctx.depth + room))).scanAt ctx text 0 hstart
    unfold scanWithin scan
    dsimp only [Option.map_some]
    generalize (sc.within (some (ctx.depth + room))).scanAt ctx text 0 st = result at hpaired ⊢
    generalize sc.scanAt ctx text 0 st = result' at hpaired ⊢
    cases hpaired with
    | ok h =>
      cases h
      exact .inr rfl
    | error h =>
      obtain ⟨rfl, rfl, hother⟩ := h
      exact .inr (Prod.ext (congrArg Except.error (StackError.ofScan_of_not_tooDeep hother)) rfl)
    | excused h => exact .inl (congrArg Except.error (StackError.ofScan_of_tooDeep hlt h))

end Scanner

end Tategaki
