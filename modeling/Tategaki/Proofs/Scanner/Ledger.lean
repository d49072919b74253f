import Mathlib.Logic.Function.Basic
import Tategaki.Proofs.Scanner.Headroom

/-!
# 枠の帳簿

走査が書き足す区間の個数は、効いている枠を使った回数である。枠に断られて終わるときだけ、使えなかった勝ちの
区間が一つ余る。どの深さで、どんな失敗で終わっても、これは変わらない（`scan_balance`）。

枠はいくつもの走査で使い回される。枠を口座に分けた帳簿（`Ledger`）の上で、走査と、枠を直に使うことと、数を
零に戻すことを好きな順に行っても、走査は効いている口座のほかに触れず、零以上の上限を持つ枠の数は上限を
越えない（`ledger_balances`）。
-/

namespace Tategaki

namespace Budget

/-- `n` 回使った後の枠。 -/
def used (b : Budget) (n : Nat) : Budget := { b with count := b.count + n }

@[simp] theorem used_ceiling (b : Budget) (n : Nat) : (b.used n).ceiling = b.ceiling := rfl

@[simp] theorem used_count (b : Budget) (n : Nat) : (b.used n).count = b.count + n := rfl

@[simp] theorem used_zero (b : Budget) : b.used 0 = b := rfl

theorem used_used (b : Budget) (m n : Nat) : (b.used m).used n = b.used (m + n) := by
  unfold used
  rw [Nat.add_assoc]

theorem eq_used_of_charge {b b' : Budget} {name : Option String} (h : b.charge name = .ok b') :
    b' = b.used 1 := by
  unfold charge at h
  split at h
  · cases h
  · cases h
    rfl

theorem isSpent_of_charge {b : Budget} {name : Option String} {e : BudgetExceeded}
    (h : b.charge name = .error e) : b.isSpent = true := by
  unfold charge at h
  split at h
  · assumption
  · cases h

/-- 上限が零以上なら、数は上限を越えていない。 -/
def Sound (b : Budget) : Prop := 0 ≤ b.ceiling.value → (b.count : Int) ≤ b.ceiling.value

theorem sound_reset (b : Budget) : b.reset.Sound := id

end Budget

/-- 枠に断られて終わったなら一、そうでなければ零。 -/
def Scanner.refusals {α : Type} : Except ScanError α → Nat
  | .error (.budget _) => 1
  | _ => 0

theorem Scanner.refusals_error {α : Type} (e : ScanError) :
    refusals (.error e : Except ScanError α) = e.isRefusal.toNat := by
  cases e <;> rfl

namespace ScanState

variable {τ : Type}

/-! ## 効いている枠だけを使う -/

/-- 効いている枠を `n` 回使い、ほかの枠は使わない。使った後の数は上限を越えない。 -/
structure Charged (n : Nat) (st st' : ScanState τ) : Prop where
  own : st'.own = st.own.map (·.used n)
  shared : st'.shared = if st.own.isSome then st.shared else st.shared.used n
  within : 0 < n → (st'.budget.count : Int) ≤ st'.budget.ceiling.value

namespace Charged

theorem of_eq {st st' : ScanState τ} (hown : st'.own = st.own) (hshared : st'.shared = st.shared) :
    Charged 0 st st' := by
  refine ⟨?_, ?_, fun h => absurd h (Nat.lt_irrefl 0)⟩
  · rw [hown]
    cases st.own <;> rfl
  · rw [hshared]
    split <;> rfl

theorem budget {n : Nat} {st st' : ScanState τ} (h : Charged n st st') :
    st'.budget = st.budget.used n := by
  unfold ScanState.budget
  rw [h.own, h.shared]
  cases st.own <;> rfl

theorem trans {m n : Nat} {a b c : ScanState τ} (hab : Charged m a b) (hbc : Charged n b c) :
    Charged (m + n) a c := by
  have hsome : b.own.isSome = a.own.isSome := by rw [hab.own, Option.isSome_map]
  refine ⟨?_, ?_, fun hpos => ?_⟩
  · rw [hbc.own, hab.own, Option.map_map]
    congr 1
    funext b
    exact b.used_used m n
  · rw [hbc.shared, hab.shared, hsome]
    split
    · rfl
    · exact Budget.used_used _ _ _
  · cases n with
    | zero =>
      rw [hbc.budget, Budget.used_zero]
      exact hab.within hpos
    | succ n => exact hbc.within (Nat.succ_pos n)

end Charged

/-- 枠を使えたら、効いている枠をちょうど一回使っている。 -/
theorem charged_of_charge {st st' : ScanState τ} {name : String} (h : st.charge name = .ok st') :
    Charged 1 st st' := by
  obtain ⟨ranges, own, shared, clock, reads, wins⟩ := st
  unfold charge at h
  cases own <;>
  · obtain ⟨b, hb, rfl⟩ := exists_of_map_ok h
    exact ⟨by simp [Budget.eq_used_of_charge hb], by simp [Budget.eq_used_of_charge hb],
      fun _ => Budget.count_le_of_charge hb⟩

theorem isSpent_of_refused {st : ScanState τ} {name : String} {e : BudgetExceeded}
    (h : st.charge name = .error e) : st.budget.isSpent = true := by
  rw [charge_eq] at h
  exact Budget.isSpent_of_charge (error_of_map_error h)

end ScanState

namespace Scanner

variable {τ : Type}

/-! ## 区間と枠の釣り合い -/

/-- 書き足した区間の個数だけ、効いている枠を使う。断られて終わるなら区間が一つ余り、枠は使い切られて
いる。 -/
def balance (τ : Type) : Law (ScanState τ) ScanError where
  ok a b := ∃ added, b.ranges = a.ranges ++ added ∧ a.Charged added.length b
  bad a e b := ∃ n added, b.ranges = a.ranges ++ added ∧ added.length = n + e.isRefusal.toNat ∧
    a.Charged n b ∧ (e.isRefusal = true → b.budget.isSpent = true)
  refl _ := ⟨[], (List.append_nil _).symm, .of_eq rfl rfl⟩
  trans := by
    rintro a b c ⟨added, hb, hab⟩ ⟨added', hc, hbc⟩
    refine ⟨added ++ added', by rw [hc, hb, List.append_assoc], ?_⟩
    rw [List.length_append]
    exact hab.trans hbc
  andThen := by
    rintro a b e c ⟨added, hb, hab⟩ ⟨n, added', hc, hlength, hbc, hspent⟩
    refine ⟨added.length + n, added ++ added', by rw [hc, hb, List.append_assoc], ?_,
      hab.trans hbc, hspent⟩
    rw [List.length_append, hlength, Nat.add_assoc]

/-- 走査のどの一歩でも、区間と枠は釣り合う。 -/
def balanceLaws (sc : Scanner τ) : FrameLaws sc where
  law _ _ := balance τ
  read _ _ _ := ⟨[], (List.append_nil _).symm, .of_eq rfl rfl⟩
  fail _ _ _ e he := ⟨0, [], (List.append_nil _).symm, by rw [he]; rfl, .of_eq rfl rfl,
    fun h => absurd (he.symm.trans h) Bool.false_ne_true⟩
  charge ctx text offset _ rule found st st' _ h := by
    refine ⟨[(Frame.of ctx text offset).range rule found], charge_ranges h, ?_⟩
    -- 勝ちの記録は枠に触れない
    have hcharged := ScanState.charged_of_charge h
    exact ⟨hcharged.own, hcharged.shared, hcharged.within⟩
  refuse ctx text offset rule found st _ h :=
    ⟨0, [(Frame.of ctx text offset).range rule found], rfl, rfl, .of_eq rfl rfl,
      fun _ => ScanState.isSpent_of_refused h⟩
  nest _ _ _ _ _ _ _ _ _ _ _ _ h := h

/-- **走査が書き足す区間の個数は、効いている枠を使った回数に、断られて終わるときの一を足したものである。** -/
theorem scan_balance (sc : Scanner τ) (ctx : Context) (text : Text) (st : ScanState τ) :
    ∃ n added, (sc.scan ctx text st).2.ranges = st.ranges ++ added ∧
      added.length = n + refusals (sc.scan ctx text st).1 ∧
      st.Charged n (sc.scan ctx text st).2 ∧
      (refusals (sc.scan ctx text st).1 = 1 → (st.budget.used n).isSpent = true) := by
  have h : (balance τ).Holds st (sc.scan ctx text st) := (balanceLaws sc).scanAt ctx text 0 st
  generalize sc.scan ctx text st = result at h ⊢
  obtain ⟨e | nodes, st'⟩ := result
  · obtain ⟨n, added, hranges, hlength, hcharged, hspent⟩ := h
    rw [refusals_error]
    refine ⟨n, added, hranges, hlength, hcharged, fun hone => ?_⟩
    rw [← hcharged.budget]
    exact hspent (Bool.toNat_eq_one.mp hone)
  · obtain ⟨added, hranges, hcharged⟩ := h
    exact ⟨added.length, added, hranges, rfl, hcharged, nofun⟩

/-! ## 帳簿 -/

/-- 枠の帳簿。口座ごとに一つの枠を持つ。 -/
abbrev Ledger := Nat → Budget

/-- 走査の依頼。文脈の口座を渡さなければ、登録簿の口座の枠を使う。二つは同じ口座でもよい。 -/
structure ScanRequest (τ : Type) where
  scanner : Scanner τ
  ctx : Context
  text : Text
  ranges : List ProcessedRange
  own : Option Nat
  shared : Nat
  clock : τ

namespace ScanRequest

/-- 効いている口座。 -/
def account (r : ScanRequest τ) : Nat := r.own.getD r.shared

/-- 帳簿の枠を持たせた、始めの状態。 -/
def start (r : ScanRequest τ) (ledger : Ledger) : ScanState τ :=
  { ranges := r.ranges, own := r.own.map ledger, shared := ledger r.shared, clock := r.clock }

/-- 依頼された走査。 -/
def done (r : ScanRequest τ) (ledger : Ledger) : Result τ (List Node) :=
  r.scanner.scan r.ctx r.text (r.start ledger)

/-- 走査の後の枠を、登録簿の口座、文脈の口座の順に書き戻す。 -/
def settle (r : ScanRequest τ) (ledger : Ledger) : Ledger :=
  let st := (r.done ledger).2
  let ledger := Function.update ledger r.shared st.shared
  match r.own, st.own with
  | some account, some b => Function.update ledger account b
  | _, _ => ledger

theorem start_budget (r : ScanRequest τ) (ledger : Ledger) :
    (r.start ledger).budget = ledger r.account := by
  unfold ScanState.budget account start
  cases r.own <;> rfl

/-- 走査は、効いている口座の枠を使うだけである。 -/
theorem settle_eq {r : ScanRequest τ} {ledger : Ledger} {n : Nat}
    (h : (r.start ledger).Charged n (r.done ledger).2) :
    r.settle ledger = Function.update ledger r.account ((ledger r.account).used n) := by
  unfold settle account
  dsimp only
  rw [h.own, h.shared]
  unfold start
  cases r.own with
  | none => rfl
  | some account => simp

end ScanRequest

/-- 帳簿への行い。 -/
inductive Operation (τ : Type) where
  | scan (request : ScanRequest τ)
  | charge (account : Nat) (name : Option String)
  | reset (account : Nat)

/-- 行いの後の帳簿。 -/
def Operation.run : Operation τ → Ledger → Ledger
  | scan request, ledger => request.settle ledger
  | charge account name, ledger =>
    match (ledger account).charge name with
    | .ok b => Function.update ledger account b
    | .error _ => ledger
  | reset account, ledger => Function.update ledger account (ledger account).reset

/-- 行いを順に済ませた帳簿。 -/
def Ledger.after (ledger : Ledger) (history : List (Operation τ)) : Ledger :=
  history.foldl (fun ledger operation => operation.run ledger) ledger

@[simp] theorem Ledger.after_nil (ledger : Ledger) :
    ledger.after ([] : List (Operation τ)) = ledger := rfl

@[simp] theorem Ledger.after_cons (ledger : Ledger) (operation : Operation τ)
    (history : List (Operation τ)) :
    ledger.after (operation :: history) = (operation.run ledger).after history := rfl

/-- 口座の枠の数は、上限を守ったままである。 -/
def Keeps (b b' : Budget) : Prop := b'.ceiling = b.ceiling ∧ (b.Sound → b'.Sound)

theorem keeps_update {ledger : Ledger} {account : Nat} {b : Budget}
    (h : Keeps (ledger account) b) (other : Nat) :
    Keeps (ledger other) (Function.update ledger account b other) := by
  by_cases heq : other = account
  · subst heq
    rwa [Function.update_self]
  · rw [Function.update_of_ne heq]
    exact ⟨rfl, id⟩

/-- どの行いも、どの口座の上限も変えず、数に上限を越えさせない。 -/
theorem Operation.keeps (operation : Operation τ) (ledger : Ledger) (account : Nat) :
    Keeps (ledger account) (operation.run ledger account) := by
  cases operation with
  | scan request =>
    obtain ⟨n, -, -, -, hcharged, -⟩ :=
      scan_balance request.scanner request.ctx request.text (request.start ledger)
    have hkeeps : Keeps (ledger request.account) ((ledger request.account).used n) := by
      refine ⟨rfl, fun hsound => ?_⟩
      -- 一度でも使ったなら、最後に使ったときに上限の内だった
      cases n with
      | zero => exact hsound
      | succ n =>
        have hwithin := hcharged.within (Nat.succ_pos n)
        rw [hcharged.budget, request.start_budget] at hwithin
        exact fun _ => hwithin
    rw [Operation.run, ScanRequest.settle_eq hcharged]
    exact keeps_update hkeeps account
  | charge target name =>
    rw [Operation.run]
    cases hcharge : (ledger target).charge name with
    | error e => exact ⟨rfl, id⟩
    | ok b =>
      have hkeeps : Keeps (ledger target) b :=
        ⟨(Budget.charge_count hcharge).2, fun _ _ => Budget.count_le_of_charge hcharge⟩
      exact keeps_update hkeeps account
  | reset target =>
    have hkeeps : Keeps (ledger target) (ledger target).reset :=
      ⟨rfl, fun _ => Budget.sound_reset _⟩
    exact keeps_update hkeeps account

/-- 行いを何度重ねても、口座の枠の数は上限を守る。 -/
theorem Ledger.after_keeps (history : List (Operation τ)) : ∀ (ledger : Ledger) (account : Nat),
    Keeps (ledger account) (ledger.after history account) := by
  induction history with
  | nil => exact fun _ _ => ⟨rfl, id⟩
  | cons operation history ih =>
    intro ledger account
    obtain ⟨hceiling, hsound⟩ := operation.keeps ledger account
    obtain ⟨hceiling', hsound'⟩ := ih (operation.run ledger) account
    exact ⟨hceiling'.trans hceiling, fun h => hsound' (hsound h)⟩

/--
**走査は、書き足した区間の個数だけ、効いている口座の枠を使う。**

断られて終わるときだけ、使えなかった区間が一つ余り、そのとき枠は使い切られている。断られた使用は帳簿を変えず、
どの順に行いを重ねても、零以上の上限を持つ枠の数は上限を越えない。
-/
theorem ledger_balances :
    (∀ (ledger : Ledger) (request : ScanRequest τ), ∃ charges added,
      (request.done ledger).2.ranges = request.ranges ++ added ∧
      added.length = charges + refusals (request.done ledger).1 ∧
      (Operation.scan request).run ledger
        = Function.update ledger request.account ((ledger request.account).used charges) ∧
      (refusals (request.done ledger).1 = 1 →
        ((ledger request.account).used charges).isSpent = true)) ∧
    (∀ (ledger : Ledger) (account : Nat) (name : Option String) (e : BudgetExceeded),
      (ledger account).charge name = .error e →
      (Operation.charge account name : Operation τ).run ledger = ledger) ∧
    ∀ (ledger : Ledger) (account : Nat), 0 ≤ (ledger account).ceiling.value →
      ((ledger account).count : Int) ≤ (ledger account).ceiling.value →
      ∀ history : List (Operation τ),
        ((ledger.after history account).count : Int) ≤ (ledger account).ceiling.value := by
  refine ⟨fun ledger request => ?_, fun ledger account name e hrefused => ?_,
    fun ledger account hceiling hcount history => ?_⟩
  · obtain ⟨n, added, hranges, hlength, hcharged, hspent⟩ :=
      scan_balance request.scanner request.ctx request.text (request.start ledger)
    rw [request.start_budget] at hspent
    exact ⟨n, added, hranges, hlength, ScanRequest.settle_eq hcharged, hspent⟩
  · rw [Operation.run, hrefused]
  · obtain ⟨hsame, hsound⟩ := ledger.after_keeps history account
    have hle := hsound (fun _ => hcount)
    unfold Budget.Sound at hle
    rw [hsame] at hle
    exact hle hceiling

/-- 上限が三で、残りが一回の口座を持つ帳簿。 -/
def tightLedger : Ledger := fun
  | 1 => { ceiling := .number 3, count := 2 }
  | _ => { ceiling := .number 1000 }

/-- 残りが一回の口座での、入れ子の走査。 -/
def nestedRequest : ScanRequest SteadyClock where
  scanner := bundledScanner
  ctx := { startTime := .int 0 }
  text := nestedText
  ranges := [⟨40, 50, "earlier"⟩]
  own := some 1
  shared := 0
  clock := {}

/-- 印の中の走査で断られると、書き足した二つの区間のうち一つが余る。 -/
theorem ledger_balances_nested :
    (∃ e, (nestedRequest.done tightLedger).1 = .error (.budget e)) ∧
      (nestedRequest.done tightLedger).2.ranges.length = 3 ∧
      (∃ charges added, (nestedRequest.done tightLedger).2.ranges = nestedRequest.ranges ++ added ∧
        added.length = charges + 1 ∧
        (Operation.scan nestedRequest).run tightLedger
          = Function.update tightLedger 1 ((tightLedger 1).used charges) ∧
        ((tightLedger 1).used charges).isSpent = true) ∧
      (tightLedger.after [.scan nestedRequest] 1).charge none = .error ⟨.number 3, none⟩ ∧
      (Operation.charge 1 none : Operation SteadyClock).run
          (tightLedger.after [.scan nestedRequest])
        = tightLedger.after [.scan nestedRequest] ∧
      0 ≤ (tightLedger 1).ceiling.value ∧
      ((tightLedger 1).count : Int) ≤ (tightLedger 1).ceiling.value ∧
      ∀ history : List (Operation SteadyClock),
        ((tightLedger.after history 1).count : Int) ≤ (tightLedger 1).ceiling.value := by
  obtain ⟨hscan, hrefused, hbound⟩ := ledger_balances (τ := SteadyClock)
  have hdone : (nestedRequest.done tightLedger).1
      = .error (.budget ⟨.number 3, some "chapter-number"⟩) := by
    unfold ScanRequest.done nestedRequest
    rw [bundledScanner_eq]
    decide +kernel
  have hranges : (nestedRequest.done tightLedger).2.ranges.length = 3 := by
    unfold ScanRequest.done nestedRequest
    rw [bundledScanner_eq]
    decide +kernel
  obtain ⟨charges, added, hadded, hlength, hsettle, hspent⟩ := hscan tightLedger nestedRequest
  rw [hdone] at hlength hspent
  rw [show nestedRequest.account = 1 from rfl] at hsettle hspent
  have hnext : (tightLedger.after [.scan nestedRequest] 1).charge none
      = .error ⟨.number 3, none⟩ := by
    rw [Ledger.after_cons, Ledger.after_nil, hsettle, Function.update_self]
    unfold Budget.charge
    rw [if_pos (hspent rfl)]
    rfl
  exact ⟨⟨_, hdone⟩, hranges, ⟨charges, added, hadded, hlength, hsettle, hspent rfl⟩, hnext,
    hrefused _ 1 none _ hnext, by decide, by decide,
    hbound tightLedger 1 (by decide) (by decide)⟩

end Scanner

end Tategaki
