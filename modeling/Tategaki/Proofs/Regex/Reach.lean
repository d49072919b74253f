import Tategaki.Regex.Matcher

/-!
# 照合の届く先

照合器（`Expr.run`）は継続を渡しながら後戻りする。どの選択を試したかを忘れ、木がどの状態から
どの状態へ届きうるかだけを見たのが `Reaches` である。照合が成功したなら、継続は届いた先の
どれかで成功している（`run_reaches`）。

位置は戻らず、文字列を越えない（`Reaches.position_le`・`Reaches.position_le_size`）。先読みと
後読みの中に組がなければ、組の印はすべて始まりと届いた先の間で付く（`Reaches.marks_within`）。
-/

namespace Tategaki.Regex

/-- 木は、状態 `s` から状態 `t` へ届きうる。 -/
inductive Reaches (input : Array Char) : Expr → Spot → Spot → Prop
  | empty (s : Spot) : Reaches input .empty s s
  | test {t : CharTest} {s : Spot} {c : Char} (hc : input[s.position]? = some c)
      (ht : t.matches? c = true) : Reaches input (.test t) s (s.advance 1)
  | anchor {a : Anchor} {s : Spot} (h : a.holds input s.position = true) :
      Reaches input (.anchor a) s s
  | seq {a b : Expr} {s t u : Spot} (ha : Reaches input a s t) (hb : Reaches input b t u) :
      Reaches input (.seq a b) s u
  | altLeft {a b : Expr} {s t : Spot} (h : Reaches input a s t) : Reaches input (.alt a b) s t
  | altRight {a b : Expr} {s t : Spot} (h : Reaches input b s t) : Reaches input (.alt a b) s t
  | group {number : Nat} {e : Expr} {s t : Spot} (h : Reaches input e (s.openGroup number) t) :
      Reaches input (.group number e) s (t.closeGroup number)
  | loopDone {greedy : Bool} {most : Option Nat} {e : Expr} (s : Spot) :
      Reaches input (.loop greedy 0 most e) s s
  | loopMore {greedy : Bool} {least : Nat} {most : Option Nat} {e : Expr} {s t u : Spot}
      (hm : 0 < least ∨ most ≠ some 0) (h : Reaches input e s t)
      (hr : Reaches input (.loop greedy (least - 1) (most.map (· - 1)) e) t u) :
      Reaches input (.loop greedy least most e) s u
  | atomic {e : Expr} {s t : Spot} (h : Reaches input e s t) : Reaches input (.atomic e) s t
  | ahead {e : Expr} {s t : Spot} (h : Reaches input e s t) :
      Reaches input (.lookAhead false e) s { t with position := s.position }
  | notAhead {e : Expr} {s : Spot} (h : e.run input s some = none) :
      Reaches input (.lookAhead true e) s s
  | behind {low high : Nat} {e : Expr} {s t : Spot} (hl : low ≤ s.position)
      (h : Reaches input e { s with position := s.position - low } t) :
      Reaches input (.lookBehind false low high e) s { t with position := s.position }
  | notBehind {low high : Nat} {e : Expr} {s : Spot}
      (h : s.position < low ∨ e.run input { s with position := s.position - low } some = none) :
      Reaches input (.lookBehind true low high e) s s
  | backref {number : Nat} {f : Folding} {s : Spot} {a b : Nat}
      (hg : s.span? number = some (a, b))
      (h : sameText input f (b - a) a s.position = true) :
      Reaches input (.backref number f) s (s.advance (b - a))
  | present {number : Nat} {a b : Expr} {s t : Spot} (hg : (s.span? number).isSome = true)
      (h : Reaches input a s t) : Reaches input (.ifGroup number a b) s t
  | absent {number : Nat} {a b : Expr} {s t : Spot} (hg : (s.span? number).isSome = false)
      (h : Reaches input b s t) : Reaches input (.ifGroup number a b) s t

/-! ## 照合は届いた先で続く -/

/-- 下限と上限を一つずつ使い、一文字の条件を `n` 回繰り返す。 -/
theorem reaches_loop_test {input : Array Char} {t : CharTest} {greedy : Bool} (n : Nat) :
    ∀ {least : Nat} {most : Option Nat} {s : Spot}, least ≤ n → (∀ m, most = some m → n ≤ m) →
      (∀ i, i < n → ∃ c, input[s.position + i]? = some c ∧ t.matches? c = true) →
      Reaches input (.loop greedy least most (.test t)) s (s.advance n) := by
  induction n with
  | zero =>
    intro least most s hl _ _
    obtain rfl : least = 0 := by omega
    exact .loopDone s
  | succ n ih =>
    intro least most s hl hm hrun
    obtain ⟨c, hc, ht⟩ := hrun 0 (by omega)
    have hmore : 0 < least ∨ most ≠ some 0 := by
      refine Or.inr fun h => ?_
      have := hm 0 h
      omega
    refine .loopMore hmore (.test hc ht) ?_
    have hrest : Reaches input
        (.loop greedy (least - 1) (most.map (· - 1)) (.test t)) (s.advance 1)
        ((s.advance 1).advance n) := by
      refine ih (by omega) ?_ ?_
      · intro m h
        obtain ⟨m', hm', rfl⟩ := Option.map_eq_some_iff.mp h
        have := hm m' hm'
        omega
      · intro i hi
        obtain ⟨d, hd, htd⟩ := hrun (i + 1) (by omega)
        refine ⟨d, ?_, htd⟩
        rw [← hd, Spot.advance_position]
        congr 1
        omega
    have hadd : (s.advance 1).advance n = s.advance (n + 1) := by
      simp only [Spot.advance]
      congr 1
      omega
    rwa [hadd] at hrest

/-- 多い方から試したときに成功したのは、試した個数のどれかである。 -/
theorem tryDown_some {s r : Spot} {k : Spot → Option Spot} {least count : Nat}
    (h : tryDown s k least count = some r) :
    ∃ n, least ≤ n ∧ n ≤ count ∧ k (s.advance n) = some r := by
  induction count with
  | zero =>
    rw [tryDown] at h
    split at h
    · next hl => exact ⟨0, by simp at hl; omega, by omega, h⟩
    · cases h
  | succ count ih =>
    rw [tryDown] at h
    split at h
    · cases h
    · next hl =>
      split at h
      · next hk => exact ⟨count + 1, by omega, by omega, by rw [hk, h]⟩
      · obtain ⟨n, h1, h2, h3⟩ := ih h
        exact ⟨n, h1, by omega, h3⟩

/-- 少ない方から試したときに成功したのも、試した個数のどれかである。 -/
theorem tryUp_some {s r : Spot} {k : Spot → Option Spot} {n more : Nat}
    (h : tryUp s k n more = some r) :
    ∃ m, n ≤ m ∧ m < n + more ∧ k (s.advance m) = some r := by
  induction more generalizing n with
  | zero => cases h
  | succ more ih =>
    rw [tryUp] at h
    split at h
    · next hk => exact ⟨n, by omega, by omega, by rw [hk, h]⟩
    · obtain ⟨m, h1, h2, h3⟩ := ih h
      exact ⟨m, by omega, by omega, h3⟩

/-- 一文字の条件の繰り返しは、条件に合う文字だけを読む。 -/
theorem runLoop_reaches {input : Array Char} {t : CharTest} {greedy : Bool} {least : Nat}
    {most : Option Nat} {s r : Spot} {k : Spot → Option Spot}
    (h : runLoop input t greedy least most s k = some r) :
    ∃ u, Reaches input (.loop greedy least most (.test t)) s u ∧ k u = some r := by
  unfold runLoop at h
  extract_lets room limit count at h
  have hle : count ≤ limit := runLength_le_limit input t limit s.position
  have hmost : ∀ m, most = some m → limit ≤ m := by
    intro m hm
    subst hm
    exact Nat.min_le_left m room
  have reach : ∀ n, least ≤ n → n ≤ count →
      Reaches input (.loop greedy least most (.test t)) s (s.advance n) := by
    intro n h1 h2
    refine reaches_loop_test n h1 (fun m hm => ?_) fun i hi => ?_
    · have := hmost m hm
      omega
    · have hlt : i < runLength input t limit s.position := by omega
      exact matches?_of_lt_runLength hlt
  split at h
  · cases h
  · split at h
    · obtain ⟨n, h1, h2, h3⟩ := tryDown_some h
      exact ⟨_, reach n h1 h2, h3⟩
    · obtain ⟨n, h1, h2, h3⟩ := tryUp_some h
      exact ⟨_, reach n h1 (by omega), h3⟩

/-- 木の照合が成功したなら、継続は届いた先で成功している。 -/
def Expr.Follows (input : Array Char) (e : Expr) : Prop :=
  ∀ (s r : Spot) (k : Spot → Option Spot), e.run input s k = some r →
    ∃ t, Reaches input e s t ∧ k t = some r

namespace Expr.Follows

variable {input : Array Char} {a b e : Expr}

/-- 継続なしの照合が成功したなら、そこへ届く。 -/
theorem reaches (he : e.Follows input) {s t : Spot} (h : e.run input s some = some t) :
    Reaches input e s t := by
  obtain ⟨u, hu, hk⟩ := he _ _ _ h
  cases hk
  exact hu

theorem test (t : CharTest) : (Expr.test t).Follows input := by
  intro s r k h
  rw [Expr.run] at h
  split at h
  · next c hc =>
    split at h
    · next ht => exact ⟨_, .test hc ht, h⟩
    · cases h
  · cases h

theorem anchor (p : Anchor) : (Expr.anchor p).Follows input := by
  intro s r k h
  rw [Expr.run] at h
  split at h
  · next hp => exact ⟨s, .anchor hp, h⟩
  · cases h

theorem seq (ha : a.Follows input) (hb : b.Follows input) : (Expr.seq a b).Follows input := by
  intro s r k h
  rw [Expr.run] at h
  obtain ⟨t, ht, h⟩ := ha _ _ _ h
  obtain ⟨u, hu, h⟩ := hb _ _ _ h
  exact ⟨u, .seq ht hu, h⟩

theorem alt (ha : a.Follows input) (hb : b.Follows input) : (Expr.alt a b).Follows input := by
  intro s r k h
  rw [Expr.run] at h
  split at h
  · next hrun =>
    rw [h] at hrun
    obtain ⟨t, ht, hk⟩ := ha _ _ _ hrun
    exact ⟨t, .altLeft ht, hk⟩
  · obtain ⟨t, ht, hk⟩ := hb _ _ _ h
    exact ⟨t, .altRight ht, hk⟩

theorem group (number : Nat) (he : e.Follows input) : (Expr.group number e).Follows input := by
  intro s r k h
  rw [Expr.run] at h
  obtain ⟨t, ht, hk⟩ := he _ _ _ h
  exact ⟨_, .group ht, hk⟩

theorem atomic (he : e.Follows input) : (Expr.atomic e).Follows input := by
  intro s r k h
  rw [Expr.run] at h
  split at h
  · next t ht => exact ⟨_, .atomic (he.reaches ht), h⟩
  · cases h

theorem lookAhead (negated : Bool) (he : e.Follows input) :
    (Expr.lookAhead negated e).Follows input := by
  intro s r k h
  rw [Expr.run] at h
  split at h
  · next t ht =>
    split at h
    · cases h
    · next hn =>
      rw [Bool.not_eq_true] at hn
      subst hn
      exact ⟨_, .ahead (he.reaches ht), h⟩
  · next ht =>
    split at h
    · next hn => subst hn; exact ⟨s, .notAhead ht, h⟩
    · cases h

theorem lookBehind (negated : Bool) (low high : Nat) (he : e.Follows input) :
    (Expr.lookBehind negated low high e).Follows input := by
  intro s r k h
  rw [Expr.run] at h
  split at h
  · next hl =>
    split at h
    · next hn => subst hn; exact ⟨s, .notBehind (Or.inl hl), h⟩
    · cases h
  · next hl =>
    split at h
    · next t ht =>
      split at h
      · cases h
      · next hn =>
        rw [Bool.not_eq_true] at hn
        subst hn
        exact ⟨_, .behind (by omega) (he.reaches ht), h⟩
    · next ht =>
      split at h
      · next hn => subst hn; exact ⟨s, .notBehind (Or.inr ht), h⟩
      · cases h

theorem backref (number : Nat) (f : Folding) : (Expr.backref number f).Follows input := by
  intro s r k h
  rw [Expr.run] at h
  split at h
  · next first last hg =>
    split at h
    · next hs => exact ⟨_, .backref hg hs, h⟩
    · cases h
  · cases h

theorem ifGroup (number : Nat) (ha : a.Follows input) (hb : b.Follows input) :
    (Expr.ifGroup number a b).Follows input := by
  intro s r k h
  rw [Expr.run] at h
  split at h
  · next hg =>
    obtain ⟨t, ht, hk⟩ := ha _ _ _ h
    exact ⟨t, .present hg ht, hk⟩
  · next hg =>
    obtain ⟨t, ht, hk⟩ := hb _ _ _ h
    exact ⟨t, .absent (by simpa using hg) ht, hk⟩

end Expr.Follows

/-! ### 一般の繰り返し -/

section

variable {input : Array Char} {e : Expr} {greedy : Bool} {least count : Nat} {most : Option Nat}
  {k next : Spot → Option Spot} {s r : Spot}

/-- まだ繰り返せるなら、残りの上限は零でない。 -/
theorem map_sub_ne_zero (h : mayRepeat most count = true) : most.map (· - count) ≠ some 0 := by
  cases most with
  | none => simp
  | some m =>
    simp only [mayRepeat, decide_eq_true_eq] at h
    simp only [Option.map_some, ne_eq, Option.some.injEq]
    omega

/-- 本体を一度読んで残りの回数だけ続ければ、回数を一つ使った繰り返しになる。 -/
theorem reaches_more (he : e.Follows input)
    (hnext : ∀ t, next t = some r → ∃ u, Reaches input
      (.loop greedy (least - (count + 1)) (most.map (· - (count + 1))) e) t u ∧ k u = some r)
    (hmore : 0 < least - count ∨ most.map (· - count) ≠ some 0)
    (h : e.run input s next = some r) :
    ∃ u, Reaches input (.loop greedy (least - count) (most.map (· - count)) e) s u ∧
      k u = some r := by
  obtain ⟨t, ht, hrest⟩ := he _ _ _ h
  obtain ⟨u, hu, hk⟩ := hnext t hrest
  have hleast : least - count - 1 = least - (count + 1) := by omega
  have hmost : (most.map (· - count)).map (· - 1) = most.map (· - (count + 1)) := by
    cases most with
    | none => rfl
    | some m => simp only [Option.map_some, Option.some.injEq]; omega
  refine ⟨u, .loopMore hmore ht ?_, hk⟩
  rw [hleast, hmost]
  exact hu

/-- 一般の繰り返しは、本体の届く先をつないだところへ届く。 -/
theorem iterate_reaches (hbody : e.Follows input) (fuel : Nat) :
    ∀ {count : Nat} {last : Option Nat} {s r : Spot},
      iterate (fun t next => e.run input t next) greedy least most k fuel count last s = some r →
      ∃ t, Reaches input (.loop greedy (least - count) (most.map (· - count)) e) s t ∧
        k t = some r := by
  induction fuel with
  | zero => intro count last s r h; cases h
  | succ fuel ih =>
    intro count last s r h
    have again : ∀ {b : Bool}, (if (mayRepeat most count && b) = true then
          e.run input s (fun t => iterate (fun t next => e.run input t next) greedy least most k
            fuel (count + 1) (some s.position) t) else none) = some r →
        ∃ t, Reaches input (.loop greedy (least - count) (most.map (· - count)) e) s t ∧
          k t = some r := by
      intro b hagain
      obtain ⟨hmay, hrun⟩ := Option.ite_none_right_eq_some.mp hagain
      rw [Bool.and_eq_true] at hmay
      exact reaches_more hbody (fun t ht => ih ht) (Or.inr (map_sub_ne_zero hmay.1)) hrun
    rw [iterate] at h
    dsimp only at h
    -- 下限に届くまでは続けるしかなく、届いた後は続けることも止めることもできる
    split at h
    · next hc => exact reaches_more hbody (fun t ht => ih ht) (Or.inl (by omega)) h
    · next hc =>
      have done (hk : k s = some r) :
          ∃ t, Reaches input (.loop greedy (least - count) (most.map (· - count)) e) s t ∧
            k t = some r := by
        rw [show least - count = 0 by omega]
        exact ⟨s, .loopDone s, hk⟩
      split at h
      · split at h
        · next hag => rw [h] at hag; exact again hag
        · exact done h
      · split at h
        · next hk => rw [h] at hk; exact done hk
        · exact again h

end

/-- 繰り返しは、一文字の条件なら読める個数から選び、そうでなければ本体をつなぐ。 -/
theorem Expr.Follows.loop {input : Array Char} {e : Expr} (greedy : Bool) (least : Nat)
    (most : Option Nat) (he : e.Follows input) : (Expr.loop greedy least most e).Follows input := by
  intro s r k h
  cases e with
  | test t => exact runLoop_reaches h
  | _ =>
    rw [Expr.run] at h
    · obtain ⟨t, ht, hk⟩ := iterate_reaches he _ h
      refine ⟨t, ?_, hk⟩
      simpa using ht
    · simp

/-- **照合が成功したなら、継続は届いた先で成功している。** -/
theorem run_reaches {input : Array Char} (e : Expr) :
    ∀ (s r : Spot) (k : Spot → Option Spot), e.run input s k = some r →
      ∃ t, Reaches input e s t ∧ k t = some r := by
  induction e with
  | empty => exact fun s r k h => ⟨s, .empty s, h⟩
  | test t => exact Expr.Follows.test t
  | anchor p => exact Expr.Follows.anchor p
  | seq a b iha ihb => exact Expr.Follows.seq iha ihb
  | alt a b iha ihb => exact Expr.Follows.alt iha ihb
  | group number e ih => exact Expr.Follows.group number ih
  | loop greedy least most e ih => exact Expr.Follows.loop greedy least most ih
  | atomic e ih => exact Expr.Follows.atomic ih
  | lookAhead negated e ih => exact Expr.Follows.lookAhead negated ih
  | lookBehind negated low high e ih => exact Expr.Follows.lookBehind negated low high ih
  | backref number f => exact Expr.Follows.backref number f
  | ifGroup number a b iha ihb => exact Expr.Follows.ifGroup number iha ihb

/-! ## 位置 -/

/-- 届いた先は、始まりより左にない。 -/
theorem Reaches.position_le {input : Array Char} {e : Expr} {s t : Spot}
    (h : Reaches input e s t) : s.position ≤ t.position := by
  induction h with
  | test => simp
  | seq _ _ iha ihb => exact Nat.le_trans iha ihb
  | altLeft _ ih => exact ih
  | altRight _ ih => exact ih
  | group _ ih =>
    rw [Spot.openGroup_position] at ih
    rwa [Spot.closeGroup_position]
  | loopMore _ _ _ ih ihr => exact Nat.le_trans ih ihr
  | atomic _ ih => exact ih
  | backref => simp
  | present _ _ ih => exact ih
  | absent _ _ ih => exact ih
  | _ => exact Nat.le_refl _

/-- 同じ文字列がもう一度現れるところは、文字列を越えない。 -/
theorem sameText_le_size {input : Array Char} {f : Folding} {count p q : Nat}
    (hq : q ≤ input.size) (h : sameText input f count p q = true) : q + count ≤ input.size := by
  induction count generalizing p q with
  | zero => exact hq
  | succ count ih =>
    rw [sameText] at h
    split at h
    · next c d hc hd =>
      rw [Bool.and_eq_true] at h
      have hlt : q < input.size := (Array.getElem?_eq_some_iff.mp hd).1
      have := ih (by omega) h.2
      omega
    · cases h

/-- 届いた先は、文字列を越えない。 -/
theorem Reaches.position_le_size {input : Array Char} {e : Expr} {s t : Spot}
    (h : Reaches input e s t) (hs : s.position ≤ input.size) : t.position ≤ input.size := by
  induction h with
  | test hc _ =>
    have := (Array.getElem?_eq_some_iff.mp hc).1
    rw [Spot.advance_position]
    omega
  | seq _ _ iha ihb => exact ihb (iha hs)
  | altLeft _ ih => exact ih hs
  | altRight _ ih => exact ih hs
  | group _ ih => exact ih hs
  | loopMore _ _ _ ih ihr => exact ihr (ih hs)
  | atomic _ ih => exact ih hs
  | backref _ h => exact sameText_le_size hs h
  | present _ _ ih => exact ih hs
  | absent _ _ ih => exact ih hs
  | _ => exact hs

/-! ## 組の印 -/

/-- 組を持たない木か。 -/
def Expr.groupFree : Expr → Bool
  | seq a b => a.groupFree && b.groupFree
  | alt a b => a.groupFree && b.groupFree
  | group _ _ => false
  | loop _ _ _ e => e.groupFree
  | atomic e => e.groupFree
  | lookAhead _ e => e.groupFree
  | lookBehind _ _ _ e => e.groupFree
  | ifGroup _ a b => a.groupFree && b.groupFree
  | _ => true

/-- 先読みと後読みの中に組がないか。 -/
def Expr.plainLooks : Expr → Bool
  | seq a b => a.plainLooks && b.plainLooks
  | alt a b => a.plainLooks && b.plainLooks
  | group _ e => e.plainLooks
  | loop _ _ _ e => e.plainLooks
  | atomic e => e.plainLooks
  | lookAhead _ e => e.groupFree
  | lookBehind _ _ _ e => e.groupFree
  | ifGroup _ a b => a.plainLooks && b.plainLooks
  | _ => true

/-- 組のない木は、印を変えない。 -/
theorem Reaches.marks_eq {input : Array Char} {e : Expr} {s t : Spot} (h : Reaches input e s t)
    (hf : e.groupFree = true) : t.marks = s.marks := by
  induction h with
  | seq _ _ iha ihb =>
    simp only [Expr.groupFree, Bool.and_eq_true] at hf
    rw [ihb hf.2, iha hf.1]
  | altLeft _ ih => simp only [Expr.groupFree, Bool.and_eq_true] at hf; exact ih hf.1
  | altRight _ ih => simp only [Expr.groupFree, Bool.and_eq_true] at hf; exact ih hf.2
  | group => cases hf
  | loopMore _ _ _ ih ihr => rw [ihr hf, ih hf]
  | atomic _ ih => exact ih hf
  | ahead _ ih => exact ih hf
  | behind _ _ ih => exact ih hf
  | present _ _ ih => simp only [Expr.groupFree, Bool.and_eq_true] at hf; exact ih hf.1
  | absent _ _ ih => simp only [Expr.groupFree, Bool.and_eq_true] at hf; exact ih hf.2
  | _ => rfl

/-- 組の区間は、開く印から閉じる印までである。 -/
theorem Mark.closed_of_span? {m : Mark} {a b : Nat} (h : m.span? = some (a, b)) :
    m.closed = some b := by
  unfold span? at h
  split at h
  · split at h
    · cases h; rfl
    · cases h
  · cases h

/-- 印の位置がすべて `lo` から `hi` までにある。 -/
def Mark.Within (lo hi : Nat) (m : Mark) : Prop :=
  ∀ p, m.opened = some p ∨ m.closed = some p → lo ≤ p ∧ p ≤ hi

/-- 組の印がすべて、`lo` から今の位置までにある。 -/
def Spot.Within (lo : Nat) (s : Spot) : Prop := ∀ m ∈ s.marks, m.Within lo s.position

theorem Mark.Within.mono {lo hi hi' : Nat} {m : Mark} (h : m.Within lo hi) (hle : hi ≤ hi') :
    m.Within lo hi' := by
  intro p hp
  obtain ⟨h1, h2⟩ := h p hp
  exact ⟨h1, Nat.le_trans h2 hle⟩

theorem Spot.Within.mark {lo : Nat} {s : Spot} (h : s.Within lo) (number : Nat) :
    (s.mark number).Within lo s.position := by
  unfold Spot.mark
  rw [List.getD_eq_getElem?_getD]
  cases hm : s.marks[number - 1]? with
  | none => intro p hp; simp at hp
  | some m => exact h m (List.mem_of_getElem? hm)

/-- 印を一つ、範囲の中のものに替える。 -/
theorem Spot.Within.set {lo : Nat} {s : Spot} (h : s.Within lo) (i : Nat) {m : Mark}
    (hm : m.Within lo s.position) : ({ s with marks := s.marks.set i m } : Spot).Within lo := by
  intro m' hm'
  rcases List.mem_or_eq_of_mem_set hm' with hm' | rfl
  · exact h m' hm'
  · exact hm

theorem Spot.Within.openGroup {lo : Nat} {s : Spot} (h : s.Within lo) (hlo : lo ≤ s.position)
    (number : Nat) : (s.openGroup number).Within lo := by
  refine h.set _ fun p hp => ?_
  rcases hp with hp | hp
  · cases hp; exact ⟨hlo, Nat.le_refl _⟩
  · exact h.mark number p (Or.inr hp)

theorem Spot.Within.closeGroup {lo : Nat} {s : Spot} (h : s.Within lo) (hlo : lo ≤ s.position)
    (number : Nat) : (s.closeGroup number).Within lo := by
  refine h.set _ fun p hp => ?_
  rcases hp with hp | hp
  · exact h.mark number p (Or.inl hp)
  · cases hp; exact ⟨hlo, Nat.le_refl _⟩

theorem Spot.Within.advance {lo : Nat} {s : Spot} (h : s.Within lo) (n : Nat) :
    (s.advance n).Within lo := fun m hm => (h m hm).mono (Nat.le_add_right _ _)

/-- 組のない木を読み、位置を戻しても、印は範囲の中にある。 -/
theorem Spot.Within.look {input : Array Char} {lo p : Nat} {e : Expr} {s t : Spot}
    (h : s.Within lo) (hr : Reaches input e { s with position := p } t)
    (hf : e.groupFree = true) : ({ t with position := s.position } : Spot).Within lo := by
  intro m hm
  refine h m ?_
  have hmarks : t.marks = s.marks := hr.marks_eq hf
  rw [← hmarks]
  exact hm

/-- **先読みと後読みの中に組がなければ、印は始まりと届いた先の間で付く。** -/
theorem Reaches.marks_within {input : Array Char} {lo : Nat} {e : Expr} {s t : Spot}
    (h : Reaches input e s t) (hf : e.plainLooks = true) (hlo : lo ≤ s.position)
    (hs : s.Within lo) : t.Within lo := by
  induction h with
  | test => exact hs.advance 1
  | seq ha _ iha ihb =>
    simp only [Expr.plainLooks, Bool.and_eq_true] at hf
    exact ihb hf.2 (Nat.le_trans hlo ha.position_le) (iha hf.1 hlo hs)
  | altLeft _ ih => simp only [Expr.plainLooks, Bool.and_eq_true] at hf; exact ih hf.1 hlo hs
  | altRight _ ih => simp only [Expr.plainLooks, Bool.and_eq_true] at hf; exact ih hf.2 hlo hs
  | group h ih =>
    -- 開く印は始まりに、閉じる印は届いた先に付く
    exact (ih hf hlo (hs.openGroup hlo _)).closeGroup (Nat.le_trans hlo h.position_le) _
  | loopMore _ h _ ih ihr => exact ihr hf (Nat.le_trans hlo h.position_le) (ih hf hlo hs)
  | atomic _ ih => exact ih hf hlo hs
  | ahead h => exact hs.look h hf
  | behind _ h => exact hs.look h hf
  | backref => exact hs.advance _
  | present _ _ ih => simp only [Expr.plainLooks, Bool.and_eq_true] at hf; exact ih hf.1 hlo hs
  | absent _ _ ih => simp only [Expr.plainLooks, Bool.and_eq_true] at hf; exact ih hf.2 hlo hs
  | _ => exact hs

/-- 組の印がすべて、長さ `size` の文字列の中にある。 -/
def Spot.InText (size : Nat) (s : Spot) : Prop := ∀ m ∈ s.marks, m.Within 0 size

theorem Spot.InText.mark {size : Nat} {s : Spot} (h : s.InText size) (number : Nat) :
    (s.mark number).Within 0 size := by
  unfold Spot.mark
  rw [List.getD_eq_getElem?_getD]
  cases hm : s.marks[number - 1]? with
  | none => intro p hp; simp at hp
  | some m => exact h m (List.mem_of_getElem? hm)

theorem Spot.InText.openGroup {size : Nat} {s : Spot} (h : s.InText size)
    (hs : s.position ≤ size) (number : Nat) : (s.openGroup number).InText size := by
  intro m hm
  rcases List.mem_or_eq_of_mem_set hm with hm | rfl
  · exact h m hm
  · rintro p (hp | hp)
    · cases hp; exact ⟨Nat.zero_le _, hs⟩
    · exact h.mark number p (Or.inr hp)

theorem Spot.InText.closeGroup {size : Nat} {s : Spot} (h : s.InText size)
    (hs : s.position ≤ size) (number : Nat) : (s.closeGroup number).InText size := by
  intro m hm
  rcases List.mem_or_eq_of_mem_set hm with hm | rfl
  · exact h m hm
  · rintro p (hp | hp)
    · exact h.mark number p (Or.inl hp)
    · cases hp; exact ⟨Nat.zero_le _, hs⟩

/-- 先読みと後読みの中の組も、文字列の中で開き、文字列の中で閉じる。 -/
theorem Reaches.marks_inText {input : Array Char} {e : Expr} {s t : Spot}
    (h : Reaches input e s t) (hp : s.position ≤ input.size) (hs : s.InText input.size) :
    t.InText input.size := by
  induction h with
  | seq ha _ iha ihb => exact ihb (ha.position_le_size hp) (iha hp hs)
  | altLeft _ ih => exact ih hp hs
  | altRight _ ih => exact ih hp hs
  | group h ih => exact (ih hp (hs.openGroup hp _)).closeGroup (h.position_le_size hp) _
  | loopMore _ h _ ih ihr => exact ihr (h.position_le_size hp) (ih hp hs)
  | atomic _ ih => exact ih hp hs
  | ahead _ ih => exact ih hp hs
  | behind _ _ ih => exact ih (Nat.le_trans (Nat.sub_le _ _) hp) hs
  | present _ _ ih => exact ih hp hs
  | absent _ _ ih => exact ih hp hs
  | _ => exact hs

/-! ## 式の照合 -/

/-- 照合の結果は、始まりの状態から届いた先である。 -/
theorem Pattern.matchAt_reaches {p : Pattern} {input : Array Char} {position : Nat}
    {advancing : Bool} {m : Match} (h : p.matchAt input position advancing = some m) :
    ∃ t, Reaches input p.expr (p.startAt (min position input.size)) t ∧
      m = ⟨min position input.size, t.position, t.marks.map Mark.span?⟩ := by
  simp only [matchAt, Option.map_eq_some_iff] at h
  obtain ⟨r, hrun, rfl⟩ := h
  obtain ⟨t, ht, hk⟩ := run_reaches _ _ _ _ hrun
  split at hk
  · cases hk
  · have htr : t = r := Option.some.inj hk
    exact ⟨t, ht, by rw [htr]⟩

/-- 合ったところは、始まりより左で終わらず、文字列を越えない。 -/
theorem Pattern.matchAt_bounds {p : Pattern} {input : Array Char} {position : Nat}
    {advancing : Bool} {m : Match} (h : p.matchAt input position advancing = some m) :
    m.start ≤ m.stop ∧ m.stop ≤ input.size := by
  obtain ⟨t, ht, rfl⟩ := matchAt_reaches h
  exact ⟨ht.position_le, ht.position_le_size (Nat.min_le_right _ _)⟩

/-- 組の区間は、逆さにならない。 -/
theorem Match.span?_le_of_matchAt {p : Pattern} {input : Array Char} {position : Nat}
    {advancing : Bool} {m : Match} (h : p.matchAt input position advancing = some m)
    {number a b : Nat} (hg : m.span? number = some (a, b)) : a ≤ b := by
  have hb := Pattern.matchAt_bounds h
  obtain ⟨t, -, rfl⟩ := Pattern.matchAt_reaches h
  unfold Match.span? at hg
  split at hg
  · cases hg; exact hb.1
  · rw [List.getElem?_map] at hg
    cases hm : t.marks[number - 1]? with
    | none => rw [hm] at hg; cases hg
    | some mark => rw [hm] at hg; exact Mark.span?_le hg

/-- 組の区間は、文字列を越えない。 -/
theorem Match.span?_le_size {p : Pattern} {input : Array Char} {position : Nat}
    {advancing : Bool} {m : Match} (h : p.matchAt input position advancing = some m)
    {number a b : Nat} (hg : m.span? number = some (a, b)) : b ≤ input.size := by
  have hb := Pattern.matchAt_bounds h
  obtain ⟨t, ht, rfl⟩ := Pattern.matchAt_reaches h
  have hstart : (p.startAt (min position input.size)).InText input.size := by
    intro m hm
    obtain ⟨-, rfl⟩ := List.mem_replicate.mp hm
    intro x hx
    simp at hx
  have hmarks := ht.marks_inText (Nat.min_le_right _ _) hstart
  unfold Match.span? at hg
  split at hg
  · cases hg; exact hb.2
  · rw [List.getElem?_map] at hg
    cases hm : t.marks[number - 1]? with
    | none => rw [hm] at hg; cases hg
    | some mark =>
      rw [hm] at hg
      exact (hmarks mark (List.mem_of_getElem? hm) b (Or.inr (Mark.closed_of_span? hg))).2

/-- **先読みと後読みの中に組がなければ、組は合ったところの中にある。** -/
theorem Match.span?_within {p : Pattern} {input : Array Char} {position : Nat}
    {advancing : Bool} {m : Match} (hf : p.expr.plainLooks = true)
    (h : p.matchAt input position advancing = some m) {number a b : Nat}
    (hg : m.span? number = some (a, b)) : m.start ≤ a ∧ b ≤ m.stop := by
  have hb := Pattern.matchAt_bounds h
  obtain ⟨t, ht, rfl⟩ := Pattern.matchAt_reaches h
  have hstart : (p.startAt (min position input.size)).Within (min position input.size) := by
    intro m hm
    obtain ⟨-, rfl⟩ := List.mem_replicate.mp hm
    intro x hx
    simp at hx
  have hmarks := ht.marks_within hf (Nat.le_refl _) hstart
  unfold Match.span? at hg
  split at hg
  · cases hg; exact ⟨Nat.le_refl _, Nat.le_refl _⟩
  · rw [List.getElem?_map] at hg
    cases hm : t.marks[number - 1]? with
    | none => rw [hm] at hg; cases hg
    | some mark =>
      rw [hm] at hg
      have hw := hmarks mark (List.mem_of_getElem? hm)
      change mark.span? = some (a, b) at hg
      unfold Mark.span? at hg
      split at hg
      · split at hg
        · cases hg
          exact ⟨(hw a (Or.inl rfl)).1, (hw b (Or.inr rfl)).2⟩
        · cases hg
      · cases hg

end Tategaki.Regex
