import Tategaki.Proofs.Rule.Settled
import Tategaki.Proofs.Scanner.Headroom

/-!
# 失敗しない走査

走査が失敗するのは、時間か、深さか、枠か、段のためである。必ず節を返す規則（`Rule.Settles`）だけを使うとき、残りの
三つも足りていれば、走査は必ず節を返す（`scanAt_returns`）。

* 時計は、いつ読んでも間に合う（`InTime`）。
* 深さの上限までに、文字列に現れる囲いの文字の種類だけの余りがある。入れ子の走査では、囲いの文字が必ず減る。
* 枠の残りは文字列の長さを下らない。規則は自分の読んだ文字よりも多くは枠を使わない。

備え付けの規則の囲いの文字は二種類なので、深さの上限は二で足りる（`scan_bundled_returns`）。
-/

namespace Tategaki

namespace Scanner

variable {τ : Type} {sc : Scanner τ} {start : Number}

/-! ## 時計と枠 -/

/-- `n` 度読んだ後の時計。 -/
def clockAfter (read : ReadClock τ) : Nat → τ → τ
  | 0, clock => clock
  | n + 1, clock => clockAfter read n (read clock).2

/-- 時計をいつ読んでも、`start` からの経過時間は上限を越えない。 -/
def InTime (sc : Scanner τ) (start : Number) (clock : τ) : Prop :=
  ∀ n, sc.limits.timeout.value.lt ((sc.read (clockAfter sc.read n clock)).1.sub start) = false

/-- 止まった時計は、一度間に合えばいつも間に合う。 -/
theorem inTime_of_still {clock : τ} {now : Number} (hread : sc.read clock = (now, clock))
    (h : sc.limits.timeout.value.lt (now.sub start) = false) : sc.InTime start clock := by
  have hstill : ∀ n, clockAfter sc.read n clock = clock := by
    intro n
    induction n with
    | zero => rfl
    | succ n ih => rw [clockAfter, hread, ih]
  intro n
  rw [hstill, hread]
  exact h

theorem InTime.next {clock : τ} (h : sc.InTime start clock) :
    sc.InTime start (sc.read clock).2 := fun n => h (n + 1)

/-- 時計は間に合い、枠は `cost` 回より少なくは残っていない。 -/
structure Ready (sc : Scanner τ) (start : Number) (cost : Nat) (st : ScanState τ) : Prop where
  inTime : sc.InTime start st.clock
  affordable : cost ≤ st.budget.remaining

/-- 節を返し、時計は間に合ったままで、枠は高々 `cost` 回しか使わない。 -/
def Returns (sc : Scanner τ) (start : Number) (cost : Nat) (st : ScanState τ)
    (result : Result τ (List Node)) : Prop :=
  ∃ nodes st', result = (.ok nodes, st') ∧ sc.InTime start st'.clock ∧
    st.budget.remaining ≤ st'.budget.remaining + cost

theorem Ready.mono {cost cost' : Nat} {st : ScanState τ} (h : sc.Ready start cost st)
    (hle : cost' ≤ cost) : sc.Ready start cost' st := ⟨h.inTime, Nat.le_trans hle h.affordable⟩

/-- 時計を読んでも、枠は減らない。 -/
theorem Ready.readClock {cost : Nat} {st : ScanState τ} (h : sc.Ready start cost st) :
    sc.Ready start cost (st.readClock sc.read).2 ∧
      (st.readClock sc.read).2.budget = st.budget := ⟨⟨h.inTime.next, h.affordable⟩, rfl⟩

/-! ## 一歩 -/

theorem validate_of_inTime {ctx : Context} {st : ScanState τ}
    (hdepth : ctx.depth ≤ sc.limits.maxDepth.value) (h : sc.InTime ctx.startTime st.clock) :
    sc.validate ctx st = (none, (st.readClock sc.read).2) := by
  have hlate : sc.limits.timeout.value.lt ((sc.read st.clock).1.sub ctx.startTime) = false := h 0
  unfold validate ScanState.readClock
  dsimp only
  rw [hlate, if_neg Bool.false_ne_true, if_neg (Int.not_lt.mpr hdepth)]

/-- 間に合ううちは、一歩は止まらない。 -/
theorem turn_of_ready {frame : Frame} {position cost : Nat} {st st' : ScanState τ} {t : Turn}
    (hdepth : frame.ctx.depth ≤ sc.limits.maxDepth.value)
    (h : sc.Ready frame.ctx.startTime cost st) (ht : sc.turn frame position st = (t, st')) :
    (∀ e, t ≠ .stop e) ∧ sc.Ready frame.ctx.startTime cost st' ∧ st'.budget = st.budget := by
  have hstate : st' = (st.readClock sc.read).2 := by
    rw [← turn_state sc frame position st, ht]
  refine ⟨?_, hstate ▸ h.readClock⟩
  rintro e rfl
  unfold turn at ht
  rw [validate_of_inTime hdepth h.inTime] at ht
  dsimp only at ht
  split at ht
  · cases ht
  · split at ht <;> cases ht

variable {guards : List Char} {ctx : Context} {text : Text} {offset : Int}
  {rescan : String → Rescan (ScanState τ) ScanError}

/-- 囲いの文字の少ない部分の走査は、部分の長さだけの枠で節を返す。 -/
def ReturnsWithin (sc : Scanner τ) (guards : List Char) (ctx : Context) (text : Text)
    (rescan : String → Rescan (ScanState τ) ScanError) : Prop :=
  ∀ (name : String) (a b : Nat) (st : ScanState τ),
    fenceCount guards (Text.slice text a b) < fenceCount guards text →
    sc.Ready ctx.startTime (Text.slice text a b).length st →
    sc.Returns ctx.startTime (Text.slice text a b).length st
      (rescan name (Text.slice text a b) a st)

/-- **必ず節を返す規則は、読んだ文字の個数より多くは枠を使わずに節を返す。** -/
theorem transform_returns (offset : Int) {rule : Rule} {found : Regex.Match} {st : ScanState τ}
    (hlt : found.start < found.stop) (hsettled : rule.Settled guards text found)
    (hrescan : sc.ReturnsWithin guards ctx text rescan)
    (h : sc.Ready ctx.startTime (found.stop - found.start) st) :
    sc.Returns ctx.startTime (found.stop - found.start) st
      (transform (.of ctx text offset) rescan rule found st) := by
  have hpos : 0 < st.budget.remaining := Nat.lt_of_lt_of_le (Nat.sub_pos_of_lt hlt) h.affordable
  obtain ⟨b, hcharge, -, hremaining⟩ := Budget.charge_of_remaining_pos (some rule.name) hpos
  unfold transform
  dsimp only
  rw [ScanState.charge_eq]
  generalize hwon : st.record _ _ = won
  have hbudget : won.budget = st.budget := by rw [← hwon]; rfl
  have hclock : (won.setBudget b).clock = st.clock := by
    rw [(ScanState.alike_setBudget won b).clock, ← hwon]
    rfl
  have htime : sc.InTime ctx.startTime (won.setBudget b).clock := hclock ▸ h.inTime
  have hafford := h.affordable
  rw [hbudget, hcharge]
  dsimp only [Except.map]
  cases hsettled with
  | alone hprocess =>
    obtain ⟨nodes, hnodes⟩ := hprocess (some (rescan rule.name)) .transform (won.setBudget b)
    refine ⟨nodes, won.setBudget b, hnodes, htime, ?_⟩
    rw [ScanState.budget_setBudget]
    omega
  | nested a z hlength hfence hprocess =>
    -- 求める部分は合ったところより短いので、一つ使った後の枠でも足りる
    have hready : sc.Ready ctx.startTime (Text.slice text a z).length (won.setBudget b) := by
      refine ⟨htime, ?_⟩
      rw [ScanState.budget_setBudget]
      omega
    obtain ⟨ns, st', hnested, htime', hspent⟩ := hrescan rule.name a z _ hfence hready
    obtain ⟨nodes, hnodes⟩ := hprocess (rescan rule.name) .transform hnested
    refine ⟨nodes, st', hnodes, htime', ?_⟩
    rw [ScanState.budget_setBudget] at hspent
    omega

/-! ## 走査 -/

/-- 枠の中の走査は、残りの文字の個数より多くは枠を使わずに節を返す。 -/
theorem loop_returns (hrules : ∀ rule ∈ sc.rules, rule.Settles guards) (htext : IsOrdinary text)
    (hdepth : ctx.depth ≤ sc.limits.maxDepth.value)
    (hrescan : sc.ReturnsWithin guards ctx text rescan) (fuel : Nat) :
    ∀ (position last : Nat) (st : ScanState τ),
      sc.Ready ctx.startTime (text.length - position) st →
      sc.Returns ctx.startTime (text.length - position) st
        (sc.loop (.of ctx text offset) rescan fuel position last st) := by
  induction fuel with
  | zero =>
    intro position last st h
    exact ⟨_, st, rfl, h.inTime, Nat.le_add_right _ _⟩
  | succ fuel ih =>
    intro position last st h
    by_cases hlt : position < text.length
    · rw [loop_succ sc (.of ctx text offset) rescan hlt]
      generalize hturn : sc.turn (.of ctx text offset) position st = result
      obtain ⟨t, st₁⟩ := result
      obtain ⟨hstop, hready, hbudget⟩ := turn_of_ready hdepth h hturn
      cases t with
      | stop e => exact absurd rfl (hstop e)
      | skip range =>
        have hbounds : position < (Frame.of ctx text offset).afterSkip range ∧ _ :=
          afterSkip_bounds hlt hturn
        obtain ⟨nodes, st', hloop, htime, hspent⟩ := ih
          ((Frame.of ctx text offset).afterSkip range) ((Frame.of ctx text offset).afterSkip range)
          st₁ (hready.mono (by omega))
        dsimp only
        rw [hloop]
        refine ⟨_, st', rfl, htime, ?_⟩
        rw [hbudget] at hspent
        omega
      | step =>
        obtain ⟨nodes, st', hloop, htime, hspent⟩ := ih (position + 1) last st₁
          (hready.mono (by omega))
        refine ⟨nodes, st', hloop, htime, ?_⟩
        rw [hbudget] at hspent
        omega
      | win rule found =>
        obtain ⟨hrule, hmatch⟩ := mem_of_winner? (turn_win hturn).2
        obtain ⟨hstart, hfound, hbound⟩ := Rule.matchAt_bounds hmatch
        -- 規則は読んだ文字の分の枠だけを使い、残りの走査は残りの文字の分の枠を使う
        obtain ⟨produced, st₂, htransform, htime, hspent⟩ := transform_returns offset
          (by omega) (hrules rule hrule text position found htext hmatch) hrescan
          (hready.mono (by omega))
        have hafford := hready.affordable
        obtain ⟨rest, st', hloop, htime', hspent'⟩ := ih found.stop found.stop st₂
          ⟨htime, by omega⟩
        dsimp only
        rw [htransform]
        dsimp only
        rw [hloop]
        refine ⟨_, st', rfl, htime', ?_⟩
        rw [hbudget] at hspent
        omega
    · rw [loop_done sc (.of ctx text offset) rescan (Nat.not_lt.mp hlt)]
      exact ⟨_, st, rfl, h.inTime, Nat.le_add_right _ _⟩

/--
**必ず節を返す規則だけの走査は、時間と深さと枠が足りていれば、必ず節を返す。**

深さは囲いの文字の種類だけ、枠は文字の個数だけあればよい。
-/
theorem scanAt_returns (hrules : ∀ rule ∈ sc.rules, rule.Settles guards) (ctx : Context) :
    ∀ (text : Text) (offset : Int) (st : ScanState τ), IsOrdinary text →
      ctx.depth + fenceCount guards text ≤ sc.limits.maxDepth.value →
      sc.Ready ctx.startTime text.length st →
      sc.Returns ctx.startTime text.length st (sc.scanAt ctx text offset st) := by
  refine scanAt_induction sc (motive := fun ctx => ∀ text offset st, IsOrdinary text →
    ctx.depth + fenceCount guards text ≤ sc.limits.maxDepth.value →
    sc.Ready ctx.startTime text.length st →
    sc.Returns ctx.startTime text.length st (sc.scanAt ctx text offset st)) ?_ ctx
  intro ctx ih text offset st htext hnesting h
  have hdepth : ctx.depth ≤ sc.limits.maxDepth.value := by omega
  have hrescan : sc.ReturnsWithin guards ctx text (sc.rescan ctx offset) := by
    intro name a b st hfence hready
    -- 一段深くなる代わりに、囲いの文字は少なくとも一種類減る
    refine ih hdepth name (Text.slice text a b) (offset + a) st
      (htext.mono (Text.slice_isInfix text a b)) ?_ hready
    show ctx.depth + 1 + _ ≤ _
    omega
  rw [scanAt_eq, validate_of_inTime hdepth h.inTime]
  exact loop_returns hrules htext hdepth hrescan text.length 0 0 _ h.readClock.1

/-- 必ず節を返す規則だけの登録簿での走査は、時間と深さと枠が足りていれば、必ず節を返す。 -/
theorem scan_returns {r : Registry} (hr : r.Reachable)
    (hrules : ∀ rule ∈ r.rules, rule.enabled = true → rule.Settles guards) {limits : Limits}
    {read : ReadClock τ} {st : ScanState τ} (htext : IsOrdinary text)
    (hnesting : ctx.depth + fenceCount guards text ≤ limits.maxDepth.value)
    (htime : (ofRegistry r limits read).InTime ctx.startTime st.clock)
    (hbudget : text.length ≤ st.budget.remaining) :
    ∃ nodes st', (ofRegistry r limits read).scan ctx text st = (.ok nodes, st') := by
  have hactive : ∀ rule ∈ (ofRegistry r limits read).rules, rule.Settles guards := by
    intro rule hrule
    rw [ofRegistry, hr.ordered.activeRules_eq] at hrule
    obtain ⟨hmem, henabled⟩ := Registry.mem_sortEnabled.mp hrule
    exact hrules rule hmem henabled
  obtain ⟨nodes, st', hscan, -, -⟩ := scanAt_returns hactive ctx text 0 st htext hnesting
    ⟨htime, hbudget⟩
  exact ⟨nodes, st', hscan⟩

/-- **備え付けの規則は、ふつうの文字列では失敗しない。** -/
theorem scan_bundled_returns {bundleLimits limits : Limits} {read : ReadClock τ} {ctx : Context}
    {text : Text} {st : ScanState τ} (hdepth : ctx.depth = 0)
    (hlimit : 2 ≤ limits.maxDepth.value) (htext : IsOrdinary text)
    (htime : (ofRegistry (.bundled bundleLimits) limits read).InTime ctx.startTime st.clock)
    (hbudget : text.length ≤ st.budget.remaining) :
    ∃ nodes st', (ofRegistry (.bundled bundleLimits) limits read).scan ctx text st
      = (.ok nodes, st') := by
  have hnesting : ctx.depth + fenceCount bundledFences text ≤ limits.maxDepth.value := by
    have hle := fenceCount_le bundledFences text
    rw [bundledFences, List.length_cons, List.length_cons, List.length_nil] at hle
    rw [hdepth, bundledFences]
    omega
  refine scan_returns (Registry.reachable_bundled bundleLimits) (fun rule hrule _ => ?_) htext
    hnesting htime hbudget
  rw [Registry.bundled_withLimits, Registry.rules_withLimits] at hrule
  exact settles_bundled rule hrule

/-- 深さ二までの上限。 -/
def shallowLimits : Limits := { maxDepth := .number 2 }

/-- 二重山括弧の中に引用符のある文。 -/
def quotedText : Text := "《《第12話の\"2026年\"》》".toList

/-- 文字の個数だけの枠と、止まった時計を持つ状態。 -/
def exactState : ScanState SteadyClock :=
  { shared := { ceiling := .number 16 }, clock := ⟨.int 0, .int 0⟩ }

/-- 二段の入れ子でも、深さの上限が二で、文字の個数だけの枠があれば、節を返す。 -/
theorem scan_bundled_returns_nested :
    ({ startTime := .int 0 } : Context).depth = 0 ∧ 2 ≤ shallowLimits.maxDepth.value ∧
      IsOrdinary quotedText ∧
      (ofRegistry (.bundled {}) shallowLimits SteadyClock.read).InTime (.int 0) exactState.clock ∧
      quotedText.length ≤ exactState.budget.remaining ∧
      ∃ nodes st', (ofRegistry (.bundled {}) shallowLimits SteadyClock.read).scan
        { startTime := .int 0 } quotedText exactState = (.ok nodes, st') := by
  have hordinary : IsOrdinary quotedText := isOrdinary_of_length_le (by decide)
  have hlate : shallowLimits.timeout.value.lt ((Number.int 0).sub (.int 0)) = false := by
    decide +kernel
  have htime : (ofRegistry (.bundled {}) shallowLimits SteadyClock.read).InTime (.int 0)
      exactState.clock := inTime_of_still (SteadyClock.read_still 0) hlate
  exact ⟨rfl, by decide, hordinary, htime, by decide,
    scan_bundled_returns rfl (by decide) hordinary htime (by decide)⟩

end Scanner

end Tategaki
