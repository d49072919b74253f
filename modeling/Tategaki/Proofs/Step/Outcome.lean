import Tategaki.Step.Run

/-!
# 段の結果

一段の結果（`Step.eval`）は、段の種類から読み取れる。

* 値を返す段は `processGroup` でなく、値の種類は `Step.outputKind` のとおりである（`eval_value`）。
* 走査を求める段は `processGroup` で、求めるのはその組の文字列である（`eval_rescan`）。

並びの実行（`runSteps`）が状態に触れるのは走査を求めるときだけである。だから、走査の守る法則は
並びの実行も守り（`Law.runSteps`）、求めに同じ答えを返す二つの走査の間では、並びの実行の結果も
同じである（`runSteps_congr`）。
-/

namespace Tategaki

theorem exists_of_map_ok {ε α β : Type} {x : Except ε α} {f : α → β} {b : β}
    (h : x.map f = .ok b) : ∃ a, x = .ok a ∧ f a = b := by
  cases x with
  | error e => cases h
  | ok a => cases h; exact ⟨a, rfl, rfl⟩

theorem exists_of_bind_ok {ε α β : Type} {x : Except ε α} {f : α → Except ε β} {b : β}
    (h : (x >>= f) = .ok b) : ∃ a, x = .ok a ∧ f a = .ok b := by
  cases x with
  | error e => cases h
  | ok a => exact ⟨a, rfl, h⟩

theorem exists_of_bind_error {ε α β : Type} {x : Except ε α} {f : α → Except ε β} {e : ε}
    (h : (x >>= f) = .error e) : x = .error e ∨ ∃ a, x = .ok a ∧ f a = .error e := by
  cases x with
  | error e' => cases h; exact .inl rfl
  | ok a => exact .inr ⟨a, rfl, h⟩

theorem error_of_map_error {ε α β : Type} {x : Except ε α} {f : α → β} {e : ε}
    (h : x.map f = .error e) : x = .error e := by
  cases x with
  | error e' => cases h; rfl
  | ok a => cases h

/-! ## 一段 -/

namespace Step

/-- 走査を求める段か。 -/
def isReprocess : Step → Bool
  | processGroup _ => true
  | _ => false

theorem kind_mapStrings {f : Text → Except RunError Text} {v w : Value}
    (h : mapStrings f v = .ok w) : w.kind = v.kind := by
  unfold mapStrings at h
  split at h
  · next s => cases hf : f s <;> rw [hf] at h <;> cases h; rfl
  · next parts => cases hf : parts.mapM f <;> rw [hf] at h <;> cases h; rfl
  · cases h; rfl

/-- 受け取れない種類の値では、必ず失敗する。 -/
theorem eval_not_accepts {m : Matched} {canRescan : Bool} {s : Step} {v : Value}
    (h : s.accepts v.kind = false) :
    s.eval m canRescan v = .error (.cannotApply s.action v.kind) := by
  unfold eval
  rw [if_pos (by simp [h])]

/-- **値を返す段は走査を求めず、値の種類は決まったとおりである。** -/
theorem eval_value {m : Matched} {canRescan : Bool} {s : Step} {v w : Value}
    (h : s.eval m canRescan v = .ok (.value w)) :
    s.isReprocess = false ∧ w.kind = s.outputKind v.kind := by
  unfold eval at h
  split at h
  · cases h
  · next ha =>
    split at h
    · obtain ⟨u, hu, hw⟩ := exists_of_map_ok h
      cases hw
      exact ⟨rfl, kind_mapStrings hu⟩
    · obtain ⟨u, hu, hw⟩ := exists_of_map_ok h
      cases hw
      exact ⟨rfl, kind_mapStrings hu⟩
    · obtain ⟨u, -, hw⟩ := exists_of_map_ok h
      cases hw
      exact ⟨rfl, rfl⟩
    · obtain ⟨u, -, hw⟩ := exists_of_map_ok h
      cases hw
      exact ⟨rfl, rfl⟩
    · cases h
      exact ⟨rfl, rfl⟩
    · next hnodes =>
      cases h
      cases v with
      | string s => exact ⟨rfl, rfl⟩
      | strings parts => simp [accepts, Value.kind] at ha
      | nodes ns => exact absurd rfl (hnodes ns)
    · obtain ⟨u, -, hw⟩ := exists_of_map_ok h
      cases hw
      exact ⟨rfl, rfl⟩
    · cases h
      exact ⟨rfl, rfl⟩
    · split at h
      · cases h
      · split at h <;> cases h

/-- **走査を求める段は、指した組の文字列を、その位置から始まるものとして求める。** -/
theorem eval_rescan {m : Matched} {canRescan : Bool} {s : Step} {v : Value} {segment : Text}
    {start : Nat} (h : s.eval m canRescan v = .ok (.rescan segment start)) :
    ∃ group stop, s = .processGroup group ∧ m.found.span? group = some (start, stop) ∧
      segment = Text.slice m.input start stop := by
  unfold eval at h
  split at h
  · cases h
  · split at h
    · obtain ⟨u, -, hw⟩ := exists_of_map_ok h; cases hw
    · obtain ⟨u, -, hw⟩ := exists_of_map_ok h; cases hw
    · obtain ⟨u, -, hw⟩ := exists_of_map_ok h; cases hw
    · obtain ⟨u, -, hw⟩ := exists_of_map_ok h; cases hw
    · cases h
    · cases h
    · obtain ⟨u, -, hw⟩ := exists_of_map_ok h; cases hw
    · cases h
    · next group _ =>
      split at h
      · cases h
      · split at h
        · next s hs =>
          cases h
          unfold groupText at hs
          split at hs
          · cases hs
          · split at hs
            · next t ht =>
              cases hs
              obtain ⟨⟨a, b⟩, hspan, hslice⟩ := Option.map_eq_some_iff.mp ht
              refine ⟨group, b, rfl, ?_, ?_⟩
              · simp [hspan]
              · simp [hspan, ← hslice]
            · cases hs
        · cases h

end Step

/-! ## 並びの求める走査 -/

/-- 段の並びは、`start` から始まる `segment` の走査を求めることがある。 -/
def Reprocesses (steps : List Step) (m : Matched) (segment : Text) (start : Nat) : Prop :=
  ∃ group stop, Step.processGroup group ∈ steps ∧ m.found.span? group = some (start, stop) ∧
    segment = Text.slice m.input start stop

theorem Reprocesses.of_tail {s : Step} {steps : List Step} {m : Matched} {segment : Text}
    {start : Nat} (h : Reprocesses steps m segment start) :
    Reprocesses (s :: steps) m segment start := by
  obtain ⟨group, stop, hmem, hspan, hslice⟩ := h
  exact ⟨group, stop, List.mem_cons_of_mem _ hmem, hspan, hslice⟩

theorem reprocesses_of_eval {m : Matched} {canRescan : Bool} {s : Step} {steps : List Step}
    {v : Value} {segment : Text} {start : Nat}
    (h : s.eval m canRescan v = .ok (.rescan segment start)) :
    Reprocesses (s :: steps) m segment start := by
  obtain ⟨group, stop, rfl, hspan, hslice⟩ := Step.eval_rescan h
  exact ⟨group, stop, List.mem_cons_self, hspan, hslice⟩

/-! ## 法則 -/

/-- 状態の移りの法則。`ok` は続けられるときの、`bad` は失敗で終わるときの移り方である。 -/
structure Law (σ ε : Type) where
  ok : σ → σ → Prop
  bad : σ → ε → σ → Prop
  refl : ∀ s, ok s s
  trans : ∀ {a b c}, ok a b → ok b c → ok a c
  andThen : ∀ {a b e c}, ok a b → bad b e c → bad a e c

namespace Law

variable {σ ε α β : Type}

/-- 結果が法則に従う。 -/
def Holds (L : Law σ ε) (s : σ) : Except ε α × σ → Prop
  | (.ok _, s') => L.ok s s'
  | (.error e, s') => L.bad s e s'

theorem Holds.after {L : Law σ ε} {a b : σ} {result : Except ε α × σ} (h : L.ok a b)
    (hr : L.Holds b result) : L.Holds a result := by
  obtain ⟨x | x, s⟩ := result
  · exact L.andThen h hr
  · exact L.trans h hr

/-- **走査が法則に従えば、並びの実行も従う。** -/
theorem runSteps (L : Law σ ε) {m : Matched} (patternName : Option String)
    {f : Rescan σ ε} {report : TransformError → ε} (hreport : ∀ s e, L.bad s (report e) s) :
    ∀ (steps : List Step), (∀ segment start, Reprocesses steps m segment start →
        ∀ s, L.Holds s (f segment start s)) →
      ∀ (index : Nat) (v : Value) (s : σ),
        L.Holds s (runSteps m patternName (some f) report steps index v s)
  | [], _, _, _, s => L.refl s
  | step :: rest, hcall, index, v, s => by
    have hrest := runSteps L (m := m) patternName (f := f) hreport rest
      fun segment start h => hcall segment start h.of_tail
    rw [Tategaki.runSteps]
    split
    · exact hreport s _
    · exact hrest _ _ s
    · next segment start heval =>
      have hf := hcall segment start (reprocesses_of_eval heval) s
      simp only [rescanWith]
      split
      · next heq => rw [heq] at hf; exact hf
      · next heq =>
        rw [heq] at hf
        exact (hrest _ _ _).after hf

/-- 走査が法則に従えば、段の並びを使うことも従う。 -/
theorem applySteps (L : Law σ ε) {steps : List Step} {m : Matched} {output : OutputKind}
    {patternName : Option String} {f : Rescan σ ε} {report : TransformError → ε}
    (hreport : ∀ s e, L.bad s (report e) s)
    (hcall : ∀ segment start, Reprocesses steps m segment start →
      ∀ s, L.Holds s (f segment start s)) (s : σ) :
    L.Holds s (applySteps steps m output patternName (some f) report s) := by
  have h := L.runSteps patternName hreport steps hcall 0 (.string m.whole) s
  unfold Tategaki.applySteps
  split
  · next heq => rw [heq] at h; exact h
  · next heq =>
    rw [heq] at h
    split
    · exact h
    · exact L.andThen h (hreport _ _)

end Law

end Tategaki
