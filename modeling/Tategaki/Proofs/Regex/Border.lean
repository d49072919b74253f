import Tategaki.Proofs.Regex.Fence

/-!
# 合ったところの境目

一文字の条件の繰り返しは、条件に合う文字だけを読む（`exists_of_run_loop_test`）。逆に、条件に合う文字が続き、
その先で続きが成功するなら、繰り返しは成功する（`exists_run_loop_test`）。上限のない欲張りの繰り返しで終わる
照合は、続く限り読む（`any_of_run_loop_test`）。

合ったところの終わりが、ある文字の続きの途中にならない式がある（`Expr.severs`）。その文字を読まないか、別の
文字を読んで終わるか、先を見て終わるか、欲張りの繰り返しで終わるかである（`Pattern.matchAt_severs`）。
-/

namespace Tategaki

/-- 位置の直前の文字。 -/
def Text.prior? (text : Text) : Nat → Option Char
  | 0 => none
  | position + 1 => text[position]?

namespace Regex

variable {text : Text} {t : CharTest} {s r : Spot} {k : Spot → Option Spot}

/-! ## 一文字の条件 -/

theorem run_test : (Expr.test t).run text.toArray s k
    = if (text[s.position]?).any t.matches? then k (s.advance 1) else none := by
  rw [Expr.run, List.getElem?_toArray]
  cases text[s.position]? <;> rfl

/-- 直後の一文字を見る先読み。 -/
theorem run_lookAhead_test (negated : Bool) :
    (Expr.lookAhead negated (.test t)).run text.toArray s k
      = if (text[s.position]?).any t.matches? = negated then none else k s := by
  rw [Expr.run, run_test]
  cases (text[s.position]?).any t.matches? <;> cases negated <;> rfl

/-- 直前の一文字を見る後読み。 -/
theorem run_lookBehind_test (negated : Bool) :
    (Expr.lookBehind negated 1 1 (.test t)).run text.toArray s k
      = if (text.prior? s.position).any t.matches? = negated then none else k s := by
  obtain ⟨position, marks⟩ := s
  rw [Expr.run, run_test]
  cases position with
  | zero => cases negated <;> rfl
  | succ position =>
    rw [if_neg (by simp), Text.prior?]
    dsimp only
    rw [Nat.add_sub_cancel]
    cases (text[position]?).any t.matches? <;> cases negated <;> rfl

/-! ## 欲張りの繰り返し -/

/-- 続けて条件に合う文字は、すべて数える。 -/
theorem le_runLength (limit : Nat) : ∀ {n p : Nat}, n ≤ limit →
    (∀ i < n, (text[p + i]?).any t.matches? = true) → n ≤ runLength text.toArray t limit p := by
  induction limit with
  | zero => exact fun hn _ => hn
  | succ limit ih =>
    intro n p hn hrun
    cases n with
    | zero => exact Nat.zero_le _
    | succ n =>
      obtain ⟨c, hc, ht⟩ := (Option.any_eq_true _ _).mp (hrun 0 (Nat.succ_pos n))
      have hrest : n ≤ runLength text.toArray t limit (p + 1) := by
        refine ih (Nat.le_of_succ_le_succ hn) fun i hi => ?_
        rw [Nat.add_assoc, Nat.add_comm 1]
        exact hrun (i + 1) (Nat.succ_lt_succ hi)
      rw [runLength, List.getElem?_toArray, show text[p]? = some c from hc]
      dsimp only
      rw [if_pos ht]
      exact Nat.succ_le_succ hrest

/-- 数え終わったところの文字は、条件に合わない。 -/
theorem any_of_runLength (limit : Nat) : ∀ {p : Nat}, text.length ≤ p + limit →
    (text[p + runLength text.toArray t limit p]?).any t.matches? = false := by
  induction limit with
  | zero =>
    intro p hp
    rw [runLength, List.getElem?_eq_none hp]
    rfl
  | succ limit ih =>
    intro p hp
    rw [runLength, List.getElem?_toArray]
    cases hc : text[p]? with
    | none => rw [Nat.add_zero, hc]; rfl
    | some c =>
      dsimp only
      split
      · have hrest := ih (p := p + 1) (by omega)
        rwa [Nat.add_assoc, Nat.add_comm 1] at hrest
      · next ht =>
        rw [Nat.add_zero, hc, Option.any_some]
        exact Bool.eq_false_iff.mpr ht

theorem isSome_tryDown {least count n : Nat} (hleast : least ≤ n) (hn : n ≤ count)
    (hk : (k (s.advance n)).isSome = true) : (tryDown s k least count).isSome = true := by
  induction count with
  | zero =>
    obtain rfl : n = 0 := Nat.le_zero.mp hn
    obtain rfl : least = 0 := Nat.le_zero.mp hleast
    exact hk
  | succ count ih =>
    rw [tryDown, if_neg (by omega)]
    split
    · rfl
    · next hnone =>
      rcases Nat.eq_or_lt_of_le hn with rfl | hlt
      · rw [hnone] at hk
        cases hk
      · exact ih (Nat.le_of_lt_succ hlt)

/-- 一文字の条件の繰り返しは、条件に合う文字を下限以上に読んで続く。 -/
theorem exists_of_run_loop_test {greedy : Bool} {least : Nat} {most : Option Nat}
    (h : (Expr.loop greedy least most (.test t)).run text.toArray s k = some r) :
    ∃ n, least ≤ n ∧ (∀ i < n, (text[s.position + i]?).any t.matches? = true) ∧
      k (s.advance n) = some r := by
  rw [Expr.run] at h
  unfold runLoop at h
  extract_lets room limit count at h
  have hread : ∀ n ≤ count, ∀ i < n, (text[s.position + i]?).any t.matches? = true := by
    intro n hn i hi
    obtain ⟨c, hc, ht⟩ := matches?_of_lt_runLength (Nat.lt_of_lt_of_le hi hn)
    rw [List.getElem?_toArray] at hc
    rw [hc]
    exact ht
  split at h
  · cases h
  · split at h
    · obtain ⟨n, hleast, hn, hk⟩ := tryDown_some h
      exact ⟨n, hleast, hread n hn, hk⟩
    · obtain ⟨n, hleast, hn, hk⟩ := tryUp_some h
      exact ⟨n, hleast, hread n (by omega), hk⟩

/-- **条件に合う文字が `n` 個続き、その先で続きが成功するなら、繰り返しは成功する。** -/
theorem exists_run_loop_test {least n : Nat} (most : Option Nat) (hleast : least ≤ n)
    (hmost : ∀ m, most = some m → n ≤ m)
    (hrun : ∀ i < n, (text[s.position + i]?).any t.matches? = true)
    (hk : (k (s.advance n)).isSome = true) :
    ∃ m r, least ≤ m ∧ k (s.advance m) = some r ∧
      (Expr.loop true least most (.test t)).run text.toArray s k = some r := by
  have hroom : n ≤ text.toArray.size - s.position := by
    rcases Nat.eq_zero_or_pos n with rfl | hpos
    · exact Nat.zero_le _
    · obtain ⟨c, hc, -⟩ := (Option.any_eq_true _ _).mp (hrun (n - 1) (by omega))
      have hlt := (List.getElem?_eq_some_iff.mp hc).1
      rw [List.size_toArray]
      omega
  have hsome : ((Expr.loop true least most (.test t)).run text.toArray s k).isSome = true := by
    rw [Expr.run]
    unfold runLoop
    extract_lets room limit count
    have hlimit : n ≤ limit := by
      cases most with
      | none => exact hroom
      | some m => exact Nat.le_min.mpr ⟨hmost m rfl, hroom⟩
    have hcount : n ≤ count := le_runLength limit hlimit hrun
    rw [if_neg (by omega), if_pos rfl]
    exact isSome_tryDown hleast hcount hk
  obtain ⟨r, hr⟩ := Option.isSome_iff_exists.mp hsome
  obtain ⟨m, hm, -, hkm⟩ := exists_of_run_loop_test hr
  exact ⟨m, r, hm, hkm, hr⟩

/-- **上限のない欲張りの繰り返しで終わる照合は、続く限り読む。** -/
theorem any_of_run_loop_test {least : Nat}
    (h : (Expr.loop true least none (.test t)).run text.toArray s some = some r) :
    (text[r.position]?).any t.matches? = false := by
  have hgreedy : ∀ {count : Nat}, least ≤ count →
      tryDown s some least count = some (s.advance count) := by
    intro count hcount
    cases count with
    | zero =>
      obtain rfl : least = 0 := Nat.le_zero.mp hcount
      rfl
    | succ count => rw [tryDown, if_neg (Nat.not_lt.mpr hcount)]
  rw [Expr.run] at h
  unfold runLoop at h
  dsimp only at h
  split at h
  · cases h
  · next hcount =>
    rw [if_pos rfl, hgreedy (Nat.not_lt.mp hcount)] at h
    cases h
    refine any_of_runLength _ ?_
    rw [List.size_toArray]
    omega

/-! ## 終わりの見分け -/

namespace Expr

/-- 合った後に `letters` の文字が続かないか。先を見て終わるか、`letters` の文字を読む限り読んで終わる。 -/
def stopsBefore (letters : List Char) : Expr → Bool
  | seq _ b => b.stopsBefore letters
  | lookAhead true (test t) => letters.all t.matches?
  | lookAhead false (test t) => letters.all (!t.matches? ·)
  | loop true _ none (test t) => letters.all t.matches?
  | _ => false

/-- 最後に読む文字が `letters` にないか。 -/
def endsOutside (letters : List Char) : Expr → Bool
  | seq _ b => b.endsOutside letters
  | test t => letters.all (!t.matches? ·)
  | _ => false

/-- 合ったところの終わりが、`letters` の文字の続きの途中にならないか。 -/
def severs (letters : List Char) (e : Expr) : Bool :=
  e.stopsBefore letters || e.endsOutside letters || letters.all (avoids · e)

end Expr

variable {letters : List Char}

theorem not_mem_of_run_stopsBefore (e : Expr) : ∀ {s : Spot},
    e.run text.toArray s some = some r → e.stopsBefore letters = true →
    ∀ c, text[r.position]? = some c → c ∉ letters := by
  induction e with
  | seq a b _ ihb =>
    intro s h he
    rw [Expr.run] at h
    obtain ⟨u, -, hb⟩ := run_reaches _ _ _ _ h
    exact ihb hb he
  | lookAhead negated body _ =>
    intro s h he c hc hmem
    unfold Expr.stopsBefore at he
    split at he
    · next heq => cases heq
    · next heq =>
      cases heq
      rw [run_lookAhead_test] at h
      split at h
      · cases h
      · next hnot =>
        cases h
        rw [hc, Option.any_some] at hnot
        exact hnot (List.all_eq_true.mp he c hmem)
    · next heq =>
      cases heq
      rw [run_lookAhead_test] at h
      split at h
      · cases h
      · next hnot =>
        cases h
        rw [hc, Option.any_some] at hnot
        exact hnot (by simpa using List.all_eq_true.mp he c hmem)
    · next heq => cases heq
    · cases he
  | loop greedy least most body _ =>
    intro s h he c hc hmem
    unfold Expr.stopsBefore at he
    split at he
    · next heq => cases heq
    · next heq => cases heq
    · next heq => cases heq
    · next heq =>
      cases heq
      have hnot := any_of_run_loop_test h
      rw [hc, Option.any_some, List.all_eq_true.mp he c hmem] at hnot
      cases hnot
    · cases he
  | _ =>
    intro s _ he
    cases he

/-- 最後に読む文字は、届いた先の直前にある。 -/
theorem Reaches.endsOutside {e : Expr} {s t : Spot} (h : Reaches text.toArray e s t)
    (he : e.endsOutside letters = true) : ∃ c, text.prior? t.position = some c ∧ c ∉ letters := by
  induction h with
  | @test t s c hc ht =>
    rw [List.getElem?_toArray] at hc
    refine ⟨c, hc, fun hmem => ?_⟩
    have hnot := List.all_eq_true.mp he c hmem
    rw [ht] at hnot
    cases hnot
  | seq _ _ _ ihb => exact ihb he
  | _ => cases he

/-- 読まないとした文字は、空でない合ったところの最後にない。 -/
theorem Reaches.avoids_prior {e : Expr} {s t : Spot} (h : Reaches text.toArray e s t)
    (hlt : s.position < t.position) {c : Char} (he : e.avoids c = true) :
    text.prior? t.position ≠ some c := by
  obtain ⟨position, hposition⟩ :=
    Nat.exists_eq_succ_of_ne_zero (Nat.ne_of_gt (Nat.zero_lt_of_lt hlt))
  have hlacks := h.lacks he position (by omega) (by omega)
  rw [hposition, Text.prior?]
  rwa [List.getElem?_toArray] at hlacks

/-- 何も読まない合い方も認める照合は、始まりの位置から終わりの位置へ届く。 -/
theorem Pattern.exists_run_of_matchAt {p : Pattern} {position : Nat} {m : Match}
    (h : p.matchAt text.toArray position false = some m) :
    ∃ s r, s.position = m.start ∧ r.position = m.stop ∧
      p.expr.run text.toArray s some = some r := by
  obtain ⟨r, hrun, rfl⟩ := Option.map_eq_some_iff.mp h
  simp only [Bool.false_and, Bool.false_eq_true, if_false] at hrun
  exact ⟨_, r, rfl, rfl, hrun⟩

/-- 始まりの位置から届けば、そこで合う。 -/
theorem Pattern.exists_matchAt_of_run {p : Pattern} {position : Nat}
    (hle : position ≤ text.length)
    (h : p.expr.run text.toArray (p.startAt position) some = some r) :
    ∃ m, p.matchAt text.toArray position false = some m ∧ m.start = position ∧
      m.stop = r.position := by
  refine ⟨_, Option.map_eq_some_iff.mpr ⟨r, ?_, rfl⟩, ?_, rfl⟩
  · simp only [Bool.false_and, Bool.false_eq_true, if_false]
    rwa [List.size_toArray, Nat.min_eq_left hle]
  · exact Nat.min_eq_left hle

/-- **合ったところの終わりは、`letters` の文字の続きの途中ではない。** -/
theorem Pattern.matchAt_severs {p : Pattern} {position : Nat} {m : Match}
    (hs : p.expr.severs letters = true) (h : p.matchAt text.toArray position false = some m)
    (hlt : m.start < m.stop) {c d : Char} (hc : text.prior? m.stop = some c)
    (hd : text[m.stop]? = some d) : c ∉ letters ∨ d ∉ letters := by
  obtain ⟨start, r, hstart, hstop, hrun⟩ := exists_run_of_matchAt h
  rw [← hstart, ← hstop] at hlt
  rw [← hstop] at hc hd
  obtain ⟨t, hreach, ht⟩ := run_reaches _ _ _ _ hrun
  cases ht
  simp only [Expr.severs, Bool.or_eq_true] at hs
  rcases hs with (hs | hs) | hs
  · exact .inr (not_mem_of_run_stopsBefore _ hrun hs d hd)
  · obtain ⟨x, hx, hnot⟩ := hreach.endsOutside hs
    cases hx.symm.trans hc
    exact .inl hnot
  · exact .inl fun hmem => hreach.avoids_prior hlt (List.all_eq_true.mp hs c hmem) hc

end Regex

end Tategaki
