import Tategaki.Failure
import Tategaki.Proofs.Chapter.Tandem
import Tategaki.Proofs.Rule.Calls
import Tategaki.Proofs.Scanner.Ledger
import Tategaki.Proofs.Scanner.Safety

/-!
# 枠を使い回す変換

一つの枠で何章も順に変換するとき、前の章が後の章に残すのは、枠を使った回数だけである。時計が止まっていれば、
どの章も、上限から前の章の使った回数を引いた新しい枠で、その章だけを変換したのと同じ文書か、同じ種類の失敗に
なる（`convertShared_alone`）。

使いかけの枠と新しい枠の残りが等しければ、二つの変換は足並みが揃う（`Level`）。違うのは、枠に断られたときに
失敗が添える上限だけである（`Agree`）。
-/

namespace Tategaki

namespace Budget

/-- 残りが等しい。 -/
def Matches (b b' : Budget) : Prop := b'.ceiling.value - b'.count = b.ceiling.value - b.count

theorem Matches.refl (b : Budget) : b.Matches b := rfl

theorem Matches.isSpent {b b' : Budget} (h : b.Matches b') (n : Nat) :
    (b'.used n).isSpent = (b.used n).isSpent := by
  unfold Matches at h
  unfold Budget.isSpent Budget.used
  rw [decide_eq_decide]
  push_cast
  omega

theorem charge_of_isSpent {b : Budget} (name : Option String) (h : b.isSpent = true) :
    b.charge name = .error ⟨b.ceiling, name⟩ := by
  unfold charge
  rw [if_pos h]

theorem charge_of_not_isSpent {b : Budget} (name : Option String) (h : b.isSpent = false) :
    b.charge name = .ok (b.used 1) := by
  unfold charge
  rw [h, if_neg Bool.false_ne_true]
  rfl

end Budget

/-- 並びを何度求めても、規則と、走査に使う並びは変わらない。 -/
theorem Registry.calls_getAll (r : Registry) (n : Nat) :
    (r.calls (List.replicate n .getAll)).rules = r.rules ∧
      (r.calls (List.replicate n .getAll)).activeRules = r.activeRules := by
  have hone : ∀ r : Registry,
      r.getAll.2.rules = r.rules ∧ r.getAll.2.activeRules = r.activeRules := by
    intro r
    refine ⟨r.getAll_state_rules, ?_⟩
    rw [← getAll_rules, ← getAll_rules, getAll_getAll]
  induction n generalizing r with
  | zero => exact ⟨rfl, rfl⟩
  | succ n ih =>
    rw [List.replicate_succ, calls_cons]
    obtain ⟨hrules, hactive⟩ := ih (r.call .getAll)
    exact ⟨hrules.trans (hone r).1, hactive.trans (hone r).2⟩

namespace Scanner

variable {τ : Type}

/-! ## 止まった時計 -/

/-- 何度読んでも `now` を返す時計。 -/
def Still (read : ReadClock τ) (now : Number) (clock : τ) : Prop :=
  ∀ n, (read (clockAfter read n clock)).1 = now

theorem Still.now {read : ReadClock τ} {now : Number} {clock : τ} (h : Still read now clock) :
    (read clock).1 = now := h 0

theorem Still.next {read : ReadClock τ} {now : Number} {clock : τ} (h : Still read now clock) :
    Still read now (read clock).2 := fun n => h (n + 1)

/-- 読んでも変わらない時計は、止まっている。 -/
theorem still_of_fixed {read : ReadClock τ} {now : Number} {clock : τ}
    (h : read clock = (now, clock)) : Still read now clock := by
  have hfixed : ∀ n, clockAfter read n clock = clock := by
    intro n
    induction n with
    | zero => rfl
    | succ n ih => rw [clockAfter, h, ih]
  intro n
  rw [hfixed, h]

/-- 検めの結果は、そのとき読んだ時刻で決まる。 -/
theorem check_of_now {sc : Scanner τ} (ctx : Context) {st st' : ScanState τ}
    (h : (sc.read st.clock).1 = (sc.read st'.clock).1) :
    ∃ result, sc.check ctx st = (result, (st.readClock sc.read).2) ∧
      sc.check ctx st' = (result, (st'.readClock sc.read).2) := by
  have hnow : (st'.readClock sc.read).1 = (st.readClock sc.read).1 := h.symm
  unfold check validate
  dsimp only
  rw [hnow]
  by_cases htime : sc.limits.timeout.value.lt
      ((st.readClock sc.read).1.sub ctx.startTime) = true
  · rw [if_pos htime, if_pos htime]
    exact ⟨_, rfl, rfl⟩
  · rw [if_neg htime, if_neg htime]
    by_cases hdepth : sc.limits.maxDepth.value < ctx.depth
    · rw [if_pos hdepth, if_pos hdepth]
      exact ⟨_, rfl, rfl⟩
    · rw [if_neg hdepth, if_neg hdepth]
      exact ⟨_, rfl, rfl⟩

/-! ## 残りの等しい枠 -/

/-- 二つの枠 `b` と `b'` を同じ回数だけ使い、時計は止まったままで、登録簿の枠には触れていない。 -/
structure Level (read : ReadClock τ) (now : Number) (registered b b' : Budget)
    (st st' : ScanState τ) : Prop where
  ranges : st'.ranges = st.ranges
  still : Still read now st.clock
  still' : Still read now st'.clock
  shared : st.shared = registered
  shared' : st'.shared = registered
  charged : ∃ n, st.own = some (b.used n) ∧ st'.own = some (b'.used n) ∧
    (0 < n → ((b.count + n : Nat) : Int) ≤ b.ceiling.value)

/-- 同じ失敗か、どちらも枠に断られている。 -/
inductive Matching (b b' : Budget) : ScanError → ScanError → Prop
  | same (e : ScanError) : Matching b b' e e
  | refused (name : Option String) :
      Matching b b' (.budget ⟨b.ceiling, name⟩) (.budget ⟨b'.ceiling, name⟩)

namespace Level

variable {read : ReadClock τ} {now : Number} {registered b b' : Budget} {st st' : ScanState τ}

theorem readClock (h : Level read now registered b b' st st') :
    Level read now registered b b' (st.readClock read).2 (st'.readClock read).2 :=
  ⟨h.ranges, h.still.next, h.still'.next, h.shared, h.shared', h.charged⟩

theorem rebase (h : Level read now registered b b' st st') (ranges : List ProcessedRange) :
    Level read now registered b b' { st with ranges } { st' with ranges } :=
  ⟨rfl, h.still, h.still', h.shared, h.shared', h.charged⟩

/-- 勝ちを記録して枠を使うときの足並み。 -/
theorem spend (hmatch : b.Matches b') (h : Level read now registered b b' st st')
    (range : ProcessedRange) (win : Win) :
    (∃ s s' e e', Scanner.spend range win st = (.error e, s) ∧
      Scanner.spend range win st' = (.error e', s') ∧ Matching b b' e e' ∧
      Level read now registered b b' s s') ∨
    ∃ s s', Scanner.spend range win st = (.ok (), s) ∧ Scanner.spend range win st' = (.ok (), s') ∧
      Level read now registered b b' s s' := by
  obtain ⟨n, hown, hown', hwithin⟩ := h.charged
  have hranges : (st'.record range win).ranges = (st.record range win).ranges :=
    congrArg (· ++ [range]) h.ranges
  have hcharge : ∀ {st : ScanState τ} {b : Budget}, st.own = some b →
      (st.record range win).charge win.patternName
        = (b.charge (some win.patternName)).map fun b =>
            { st.record range win with own := some b } := by
    intro st b hown
    unfold ScanState.charge
    rw [show (st.record range win).own = some b from hown]
  have hspent := hmatch.isSpent n
  unfold Scanner.spend
  rw [hcharge hown, hcharge hown']
  by_cases hfull : (b.used n).isSpent = true
  · rw [Budget.charge_of_isSpent _ hfull, Budget.charge_of_isSpent _ (hspent.trans hfull)]
    exact .inl ⟨_, _, _, _, rfl, rfl, .refused _,
      ⟨hranges, h.still, h.still', h.shared, h.shared', n, hown, hown', hwithin⟩⟩
  · have hfree : (b.used n).isSpent = false := Bool.eq_false_iff.mpr hfull
    rw [Budget.charge_of_not_isSpent _ hfree, Budget.charge_of_not_isSpent _ (hspent.trans hfree)]
    refine .inr ⟨_, _, rfl, rfl, ⟨hranges, h.still, h.still', h.shared, h.shared', n + 1, rfl, rfl,
      fun _ => ?_⟩⟩
    rw [Budget.isSpent, decide_eq_false_iff_not, Budget.used_ceiling, Budget.used_count] at hfree
    omega

end Level

/-- 時計が止まっていれば、残りの等しい枠での二つの走査は足並みが揃う。 -/
def level (sc : Scanner τ) (now : Number) (registered : Budget) {b b' : Budget}
    (hmatch : b.Matches b') : Tandem sc sc where
  pairing := {
    ok := Level sc.read now registered b b'
    bad := fun e st e' st' => Matching b b' e e' ∧ Level sc.read now registered b b' st st'
    excused := fun _ => False }
  rules_eq := rfl
  ranges_eq h := h.ranges
  transform e _ _ h := ⟨.same _, h⟩
  check ctx st st' h := by
    obtain ⟨result, hcheck, hcheck'⟩ := check_of_now ctx
      (h.still.now.trans h.still'.now.symm)
    rw [hcheck, hcheck']
    cases result with
    | error e => exact .error ⟨.same e, h.readClock⟩
    | ok => exact .ok h.readClock
  spend range win st st' h := by
    rcases h.spend hmatch range win with ⟨s, s', e, e', heq, heq', hmatching, hlevel⟩ |
      ⟨s, s', heq, heq', hlevel⟩
    · rw [heq, heq']
      exact .error ⟨hmatching, hlevel⟩
    · rw [heq, heq']
      exact .ok hlevel

end Scanner

namespace Chapter

open Markup Scanner

variable {τ : Type}

/-! ## 残りの等しい枠での変換 -/

/-- 同じ結果か、どちらも枠に断られている。 -/
inductive Agree (b b' : Budget) : Except ConvertError Text → Except ConvertError Text → Prop
  | same (outcome : Except ConvertError Text) : Agree b b' outcome outcome
  | refused (name : Option String) :
      Agree b b' (.error (.scan (.budget ⟨b.ceiling, name⟩)))
        (.error (.scan (.budget ⟨b'.ceiling, name⟩)))

namespace Agree

variable {b b' : Budget} {outcome outcome' : Except ConvertError Text}

/-- 釣り合う走査の失敗は、釣り合う変換の失敗になる。 -/
theorem of_matching (c : Converter τ) {e e' : ScanError} (h : Matching b b' e e') :
    Agree b b' (.error (c.stopped e)) (.error (c.stopped e')) := by
  cases h with
  | same => exact .same _
  | refused => exact .refused _

theorem bind (h : Agree b b' outcome outcome') (f : Text → Except ConvertError Text) :
    Agree b b' (outcome.bind f) (outcome'.bind f) := by
  cases h with
  | same => exact .same _
  | refused => exact .refused _

/-- 同じ文書か、同じ種類の失敗である。 -/
theorem kindName (h : Agree b b' outcome outcome') :
    outcome.mapError ConvertError.kindName = outcome'.mapError ConvertError.kindName := by
  cases h <;> rfl

/-- 上限が同じなら、失敗も同じである。 -/
theorem eq_of_ceiling (h : Agree b b' outcome outcome') (hceiling : b'.ceiling = b.ceiling) :
    outcome' = outcome := by
  cases h with
  | same => rfl
  | refused => rw [hceiling]

end Agree

theorem rebases_level {sc : Scanner τ} {now : Number} {registered b b' : Budget}
    (hmatch : b.Matches b') : Rebases (level sc now registered hmatch).pairing :=
  ⟨fun ranges {_ _} h => h.rebase ranges, fun ranges {_ _ _ _} h => ⟨h.1, h.2.rebase ranges⟩⟩

namespace Converter

variable {c : Converter τ} {now : Number} {registered b b' : Budget}

/-- 文書を作る足並み。 -/
theorem draft_level (hmatch : b.Matches b') (ctx : Context) (request : Request)
    {st st' : ScanState τ} (h : Level c.read now registered b b' st st') :
    Agree b b' (c.draft ctx request st).1 (c.draft ctx request st').1 ∧
      Level c.read now registered b b' (c.draft ctx request st).2
        (c.draft ctx request st').2 := by
  unfold draft
  split
  · exact ⟨.same _, h⟩
  · split
    · exact ⟨.same _, h⟩
    · next tree _ =>
      have hprocess := Tandem.typeset (level c.scanner now registered hmatch)
        (rebases_level hmatch) ctx (withHeading request.title tree) false h
      unfold process
      dsimp only
      generalize typeset c.scanner ctx (withHeading request.title tree) false st = p at hprocess ⊢
      generalize typeset c.scanner ctx (withHeading request.title tree) false st' = p'
        at hprocess ⊢
      cases hprocess with
      | done h => exact ⟨.same _, h⟩
      | failed h => exact ⟨.of_matching c h.1, h.2⟩
      | excused h => exact h.elim

theorem compose_level (hmatch : b.Matches b') (ctx : Context) (request : Request)
    {st st' : ScanState τ} (h : Level c.read now registered b b' st st') :
    Agree b b' (c.compose ctx request st).1 (c.compose ctx request st').1 ∧
      Level c.read now registered b b' (c.compose ctx request st).2
        (c.compose ctx request st').2 := by
  obtain ⟨hdraft, hlevel⟩ := draft_level hmatch ctx request h
  exact ⟨hdraft.bind _, hlevel⟩

/-- 変換の終わりの状態。 -/
def finish (c : Converter τ) (html title : Json) (budget : Budget) (clock : τ) : ScanState τ :=
  let start : ScanState τ := { own := some budget, shared := c.registry.budget, clock }
  match readRequest html title with
  | .error _ => start
  | .ok request =>
    let (ctx, st) := c.scanner.newContext start
    (c.compose ctx request st).2

theorem convert_finish (html title : Json) (budget : Budget) (clock : τ) :
    (c.convert html title (some budget) clock).budget
        = (c.finish html title budget clock).own.getD budget ∧
      (c.convert html title (some budget) clock).clock
        = (c.finish html title budget clock).clock := by
  unfold convert finish
  rw [Option.getD_some]
  cases readRequest html title with
  | error e => exact ⟨rfl, rfl⟩
  | ok request => exact ⟨rfl, rfl⟩

/-- **残りの等しい枠での二つの変換は、同じ結果か、どちらも枠に断られて終わる。** -/
theorem convert_level (hmatch : b.Matches b') (html title : Json) {clock clock' : τ}
    (hstill : Still c.read now clock) (hstill' : Still c.read now clock') :
    Agree b b' (c.convert html title (some b) clock).outcome
        (c.convert html title (some b') clock').outcome ∧
      Level c.read now c.registry.budget b b' (c.finish html title b clock)
        (c.finish html title b' clock') := by
  have hstart : Level c.read now c.registry.budget b b'
      { own := some b, shared := c.registry.budget, clock }
      { own := some b', shared := c.registry.budget, clock := clock' } :=
    ⟨rfl, hstill, hstill', rfl, rfl, 0, rfl, rfl, fun h => absurd h (Nat.lt_irrefl 0)⟩
  unfold convert finish
  rw [Option.getD_some, Option.getD_some]
  cases readRequest html title with
  | error e => exact ⟨.same _, hstart⟩
  | ok request =>
    -- どちらの文脈も、同じ時刻から始まる
    have hctx : ∀ {clock : τ} {own : Option Budget}, Still c.read now clock →
        (c.scanner.newContext { own, shared := c.registry.budget, clock }).1
          = { startTime := now } := by
      intro clock own h
      exact congrArg (fun now => ({ startTime := now } : Context)) h.now
    have hcompose := compose_level hmatch { startTime := now } request hstart.readClock
    dsimp only
    rw [hctx hstill, hctx hstill']
    exact hcompose

/-- 二つの変換は枠を同じ回数だけ使い、時計は止まったままである。 -/
theorem convert_charges (hmatch : b.Matches b') (html title : Json) {clock clock' : τ}
    (hstill : Still c.read now clock) (hstill' : Still c.read now clock') :
    ∃ n, (c.convert html title (some b) clock).budget = b.used n ∧
      (c.convert html title (some b') clock').budget = b'.used n ∧
      (0 < n → ((b.count + n : Nat) : Int) ≤ b.ceiling.value) ∧
      Still c.read now (c.convert html title (some b) clock).clock := by
  obtain ⟨-, hlevel⟩ := convert_level hmatch html title hstill hstill'
  obtain ⟨n, hown, hown', hwithin⟩ := hlevel.charged
  obtain ⟨hbudget, hclock⟩ := convert_finish html title b clock
  rw [hown, Option.getD_some] at hbudget
  obtain ⟨hbudget', -⟩ := convert_finish html title b' clock'
  rw [hown', Option.getD_some] at hbudget'
  exact ⟨n, hbudget, hbudget', hwithin, hclock ▸ hlevel.still⟩

/-! ## 登録簿 -/

/-- 変換を終えた登録簿。枠の走査は、始まるたびに規則の並びを求める。求めた回数を `scans` とする。 -/
def registryAfter (c : Converter τ) (html title : Json) (budget : Budget) (clock : τ)
    (scans : Nat) : Registry :=
  { c.registry.calls (List.replicate scans .getAll) with
    budget := (c.finish html title budget clock).shared }

/-- 変換は、登録簿の規則にも、走査に使う並びにも、枠にも触れない。 -/
theorem registryAfter_eq (html title : Json) (budget : Budget) {clock : τ}
    (hstill : Still c.read now clock) (scans : Nat) :
    (c.registryAfter html title budget clock scans).rules = c.registry.rules ∧
      (c.registryAfter html title budget clock scans).activeRules = c.registry.activeRules ∧
      (c.registryAfter html title budget clock scans).budget = c.registry.budget := by
  obtain ⟨hrules, hactive⟩ := c.registry.calls_getAll scans
  exact ⟨hrules, hactive,
    (convert_level (Budget.Matches.refl budget) html title hstill hstill).2.shared⟩

/-! ## 一つの枠を使い回す -/

/-- 前の章が `spent` 回使った残りを上限とする新しい枠で、その章だけを変換する。 -/
def alone (c : Converter τ) (ceiling : Whole) (spent : Nat) (chapter : Json × Json) (clock : τ) :
    Conversion τ :=
  c.convert chapter.1 chapter.2 (some { ceiling := .number (ceiling.value - spent) }) clock

/-- 使い回した枠での変換 `done` は枠を `n` 回使い、その章だけの変換と釣り合う。 -/
structure MatchesAlone (c : Converter τ) (ceiling : Whole) (spent : Nat) (chapter : Json × Json)
    (clock : τ) (n : Nat) (done : Conversion τ) : Prop where
  outcome : done.outcome.mapError ConvertError.kindName
    = (c.alone ceiling spent chapter clock).outcome.mapError ConvertError.kindName
  charges : (c.alone ceiling spent chapter clock).budget.count = n
  budget : done.budget = { ceiling, count := spent + n }

/-- 最後の変換を終えた枠。 -/
def lastBudget (budget : Budget) (dones : List (Conversion τ)) : Budget :=
  (dones.getLast?.map (·.budget)).getD budget

theorem lastBudget_cons (budget : Budget) (done : Conversion τ) (rest : List (Conversion τ)) :
    lastBudget budget (done :: rest) = lastBudget done.budget rest := by
  unfold lastBudget
  rw [List.getLast?_cons, Option.map_some, Option.getD_some]
  cases rest.getLast? <;> rfl

theorem length_convertShared (c : Converter τ) (chapters : List (Json × Json)) :
    ∀ (budget : Budget) (clock : τ),
      (c.convertShared chapters budget clock).length = chapters.length := by
  induction chapters with
  | nil => exact fun _ _ => rfl
  | cons chapter rest ih => exact fun budget clock => congrArg (· + 1) (ih _ _)

/-- 使いかけの枠から始めても、章ごとの釣り合いは変わらない。 -/
theorem convertShared_charges {fresh : τ} (hfresh : Still c.read now fresh) {ceiling : Whole}
    (chapters : List (Json × Json)) : ∀ {spent : Nat} {clock : τ}, (spent : Int) ≤ ceiling.value →
      Still c.read now clock → ∃ charges : List Nat,
        charges.length = chapters.length ∧ ((spent + charges.sum : Nat) : Int) ≤ ceiling.value ∧
        lastBudget { ceiling, count := spent }
            (c.convertShared chapters { ceiling, count := spent } clock)
          = { ceiling, count := spent + charges.sum } ∧
        ∀ i chapter, chapters[i]? = some chapter → ∃ n done, charges[i]? = some n ∧
          (c.convertShared chapters { ceiling, count := spent } clock)[i]? = some done ∧
          c.MatchesAlone ceiling (spent + (charges.take i).sum) chapter fresh n done := by
  induction chapters with
  | nil => exact fun hspent _ => ⟨[], rfl, hspent, rfl, fun i chapter h => by simp at h⟩
  | cons chapter rest ih =>
    intro spent clock hspent hstill
    obtain ⟨html, title⟩ := chapter
    have hmatch : Budget.Matches { ceiling, count := spent }
        { ceiling := .number (ceiling.value - spent) } := Int.sub_zero _
    obtain ⟨n, hbudget, hbudget', hwithin, hstill₁⟩ :=
      convert_charges hmatch html title hstill hfresh
    have hkind := (convert_level hmatch html title hstill hfresh).1.kindName
    have hspent₁ : ((spent + n : Nat) : Int) ≤ ceiling.value := by
      rcases Nat.eq_zero_or_pos n with rfl | hpos
      · exact hspent
      · exact hwithin hpos
    obtain ⟨charges, hlength, hsum, hlast, hchapters⟩ := ih hspent₁ hstill₁
    have hhead : c.MatchesAlone ceiling spent (html, title) fresh n
        (c.convert html title (some { ceiling, count := spent }) clock) := by
      refine ⟨hkind, ?_, hbudget⟩
      unfold alone
      rw [hbudget']
      exact Nat.zero_add n
    refine ⟨n :: charges, by rw [List.length_cons, hlength, List.length_cons], ?_, ?_, ?_⟩
    · rw [List.sum_cons, ← Nat.add_assoc]
      exact hsum
    · rw [List.sum_cons, ← Nat.add_assoc, convertShared, lastBudget_cons, hbudget]
      exact hlast
    · intro i other hi
      cases i with
      | zero =>
        cases hi
        exact ⟨n, _, rfl, rfl, by simpa using hhead⟩
      | succ i =>
        obtain ⟨m, done, hm, hdone, hmatches⟩ := hchapters i other hi
        refine ⟨m, done, hm, ?_, ?_⟩
        · rw [convertShared, hbudget]
          exact hdone
        · rw [List.take_succ_cons, List.sum_cons, ← Nat.add_assoc]
          exact hmatches

/--
**枠を使い回しても、章の結果は、残りを上限とする新しい枠でその章だけを変換したものと変わらない。**

前の章がどう失敗しても、後の章に残るのは枠を使った回数だけである。最後の回数はすべての章の使った回数の和で、
上限を越えず、登録簿の規則と枠は変わらない。
-/
theorem convertShared_alone (c : Converter τ) (chapters : List (Json × Json)) {ceiling : Whole}
    (hceiling : 0 ≤ ceiling.value) {clock : τ} (hstill : Still c.read now clock) :
    (∃ charges : List Nat, charges.length = chapters.length ∧
      (charges.sum : Int) ≤ ceiling.value ∧
      lastBudget { ceiling } (c.convertShared chapters { ceiling } clock)
        = { ceiling, count := charges.sum } ∧
      (c.convertShared chapters { ceiling } clock).length = chapters.length ∧
      ∀ i chapter, chapters[i]? = some chapter → ∃ n done, charges[i]? = some n ∧
        (c.convertShared chapters { ceiling } clock)[i]? = some done ∧
        done.outcome.mapError ConvertError.kindName
          = (c.alone ceiling (charges.take i).sum chapter clock).outcome.mapError
              ConvertError.kindName ∧
        (c.alone ceiling (charges.take i).sum chapter clock).budget.count = n ∧
        done.budget = { ceiling, count := (charges.take i).sum + n }) ∧
    ∀ (html title : Json) (budget : Budget) (clock : τ) (scans : Nat), Still c.read now clock →
      (c.registryAfter html title budget clock scans).rules = c.registry.rules ∧
        (c.registryAfter html title budget clock scans).activeRules = c.registry.activeRules ∧
        (c.registryAfter html title budget clock scans).budget = c.registry.budget := by
  obtain ⟨charges, hlength, hsum, hlast, hchapters⟩ :=
    convertShared_charges hstill chapters hceiling hstill
  rw [Nat.zero_add] at hsum hlast
  refine ⟨⟨charges, hlength, hsum, hlast, length_convertShared c chapters _ clock,
    fun i chapter hi => ?_⟩, fun html title budget clock scans h => registryAfter_eq html title
      budget h scans⟩
  obtain ⟨n, done, hn, hdone, hmatches⟩ := hchapters i chapter hi
  rw [Nat.zero_add] at hmatches
  exact ⟨n, done, hn, hdone, hmatches.outcome, hmatches.charges, hmatches.budget⟩

/-- 一章目は枠を二回使い、二章目は断られ、三章目は題名が誤っていて、四章目は枠を使わない。 -/
def sharedChapters : List (Json × Json) :=
  [(.str "<p>第12話と34</p>", .null), (.str "<p>56と78</p>", .null), (.str "<p>9</p>", .bool true),
    (.str "<p>本文</p>", .str "終")]

/-- 備え付けの規則の変換器。 -/
def bundled : Converter SteadyClock :=
  { registry := .bundled {}, limits := {}, read := SteadyClock.read }

/-- 二章目が断られ、三章目の題名が誤っていても、四章目は残りが零の枠でその章だけを変換したのと変わらない。 -/
theorem convertShared_alone_refused :
    0 ≤ (Whole.number 3).value ∧ Still SteadyClock.read (.int 0) {} ∧
      (bundled.convertShared sharedChapters { ceiling := .number 3 } {}).map
          (fun done => (done.outcome.toOption.isSome, done.budget.count))
        = [(true, 2), (false, 3), (false, 3), (true, 3)] ∧
      ∃ charges : List Nat, charges.length = sharedChapters.length ∧ (charges.sum : Int) ≤ 3 ∧
        lastBudget { ceiling := .number 3 }
            (bundled.convertShared sharedChapters { ceiling := .number 3 } {})
          = { ceiling := .number 3, count := charges.sum } ∧
        ∀ i chapter, sharedChapters[i]? = some chapter → ∃ n done, charges[i]? = some n ∧
          (bundled.convertShared sharedChapters { ceiling := .number 3 } {})[i]? = some done ∧
          done.outcome.mapError ConvertError.kindName
            = (bundled.alone (.number 3) (charges.take i).sum chapter {}).outcome.mapError
                ConvertError.kindName ∧
          (bundled.alone (.number 3) (charges.take i).sum chapter {}).budget.count = n ∧
          done.budget = { ceiling := .number 3, count := (charges.take i).sum + n } := by
  have hstill : Still SteadyClock.read (.int 0) {} := still_of_fixed (SteadyClock.read_still 0)
  obtain ⟨charges, hlength, hsum, hlast, -, hchapters⟩ :=
    (convertShared_alone bundled sharedChapters (by decide : 0 ≤ (Whole.number 3).value) hstill).1
  exact ⟨by decide, hstill, by decide +kernel, charges, hlength, hsum, hlast, hchapters⟩

end Converter

end Chapter

end Tategaki
