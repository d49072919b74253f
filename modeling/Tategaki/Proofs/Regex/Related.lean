import Tategaki.Proofs.Regex.Reach

/-!
# 照合の比較

照合器は、状態を位置と組の区間を通してしか見ない。だから、よく似た二つの状態（`Alike`）から、よく似た継続で照合すれば、
よく似た結果になる（`run_related`）。結果の似かたは、失敗どうしと、後戻りで選び直すことが保つものなら何でもよい
（`Answers`）。

組を指さない木なら、位置の同じ二つの状態がよく似ている（`alike_position`）。
-/

namespace Tategaki.Regex

/-- 二つの状態の似かた。位置は同じで、位置を動かしても、組を開いても閉じても似ている。 -/
structure Alike (P : Spot → Spot → Prop) : Prop where
  position : ∀ {s t}, P s t → s.position = t.position
  moved : ∀ {s t} p, P s t → P { s with position := p } { t with position := p }
  opened : ∀ {s t} number, P s t → P (s.openGroup number) (t.openGroup number)
  closed : ∀ {s t} number, P s t → P (s.closeGroup number) (t.closeGroup number)

/-- 似ている状態では、組の区間が同じである。 -/
def SameSpans (P : Spot → Spot → Prop) : Prop :=
  ∀ s t, P s t → ∀ number, s.span? number = t.span? number

theorem sameSpans_eq : SameSpans Eq := fun _ _ h _ => h ▸ rfl

/-- 二つの結果の似かた。前者が失敗したときだけ、次の合い方を試す。 -/
structure Answers (Q : Option Spot → Option Spot → Prop) : Prop where
  none : Q none none
  or : ∀ {a b x y}, Q a b → Q x y → Q (a.or x) (b.or y)

theorem alike_eq : Alike Eq :=
  ⟨fun h => congrArg _ h, fun _ h => h ▸ rfl, fun _ h => h ▸ rfl, fun _ h => h ▸ rfl⟩

/-- 位置が同じである。 -/
theorem alike_position : Alike fun s t => s.position = t.position :=
  ⟨id, fun _ _ => rfl, fun _ h => h, fun _ h => h⟩

/-- どちらも失敗するか、よく似た状態に届く。 -/
theorem answers_rel (P : Spot → Spot → Prop) : Answers (Option.Rel P) := by
  refine ⟨.none, fun {a b x y} hab hxy => ?_⟩
  cases hab with
  | none => exact hxy
  | some h => exact .some h

/-- 前者が成功すれば、後者も成功する。 -/
theorem answers_isSome : Answers fun a b => a.isSome = true → b.isSome = true := by
  refine ⟨id, fun {a b x y} hab hxy h => ?_⟩
  cases a with
  | some r =>
    rw [Option.isSome_or, hab rfl, Bool.true_or]
  | none =>
    rw [Option.isSome_or, hxy h, Bool.or_true]

/-- 前者が `r` に届けば、後者も成功する。 -/
theorem answers_reach (r : Spot) : Answers fun a b => a = some r → b.isSome = true := by
  refine ⟨nofun, fun {a b x y} hab hxy h => ?_⟩
  cases a with
  | some r' =>
    rw [Option.isSome_or, hab h, Bool.true_or]
  | none =>
    rw [Option.isSome_or, hxy h, Bool.or_true]

/-- 組を指さない木か。 -/
def Expr.refFree : Expr → Bool
  | seq a b => a.refFree && b.refFree
  | alt a b => a.refFree && b.refFree
  | group _ e => e.refFree
  | loop _ _ _ e => e.refFree
  | atomic e => e.refFree
  | lookAhead _ e => e.refFree
  | lookBehind _ _ _ e => e.refFree
  | backref _ _ => false
  | ifGroup _ _ _ => false
  | _ => true

section Related

variable {P : Spot → Spot → Prop} {Q : Option Spot → Option Spot → Prop} {s t : Spot}
  {k k' : Spot → Option Spot} {input : Array Char}

theorem Alike.advance (hP : Alike P) (h : P s t) (n : Nat) : P (s.advance n) (t.advance n) := by
  have hmoved := hP.moved (s.position + n) h
  rw [hP.position h] at hmoved
  unfold Spot.advance
  rwa [hP.position h]

/-- 先の結果が失敗なら、次の合い方を試す。 -/
theorem Answers.first (hQ : Answers Q) : ∀ {a b x y : Option Spot}, Q a b → Q x y →
    Q (match a with | some r => some r | .none => x)
      (match b with | some r => some r | .none => y) := by
  intro a b x y hab hxy
  have hor := hQ.or hab hxy
  cases a <;> cases b <;> exact hor

theorem tryDown_related (hP : Alike P) (hQ : Answers Q) (hs : P s t)
    (hk : ∀ {u v}, P u v → Q (k u) (k' v)) (least count : Nat) :
    Q (tryDown s k least count) (tryDown t k' least count) := by
  induction count with
  | zero =>
    unfold tryDown
    split
    · exact hk hs
    · exact hQ.none
  | succ count ih =>
    unfold tryDown
    split
    · exact hQ.none
    · exact hQ.first (hk (hP.advance hs _)) ih

theorem tryUp_related (hP : Alike P) (hQ : Answers Q) (hs : P s t)
    (hk : ∀ {u v}, P u v → Q (k u) (k' v)) (more : Nat) :
    ∀ n, Q (tryUp s k n more) (tryUp t k' n more) := by
  induction more with
  | zero => exact fun _ => hQ.none
  | succ more ih =>
    intro n
    unfold tryUp
    exact hQ.first (hk (hP.advance hs n)) (ih (n + 1))

theorem runLoop_related (hP : Alike P) (hQ : Answers Q) (hs : P s t)
    (hk : ∀ {u v}, P u v → Q (k u) (k' v)) (c : CharTest) (greedy : Bool) (least : Nat)
    (most : Option Nat) :
    Q (runLoop input c greedy least most s k) (runLoop input c greedy least most t k') := by
  have hcount : ∀ count : Nat, Q
      (if count < least then none else if greedy then tryDown s k least count
        else tryUp s k least (count - least + 1))
      (if count < least then none else if greedy then tryDown t k' least count
        else tryUp t k' least (count - least + 1)) := by
    intro count
    split
    · exact hQ.none
    · split
      · exact tryDown_related hP hQ hs hk _ _
      · exact tryUp_related hP hQ hs hk _ _
  unfold runLoop
  rw [hP.position hs]
  exact hcount _

theorem iterate_related (hP : Alike P) (hQ : Answers Q)
    {body : Spot → (Spot → Option Spot) → Option Spot} (hbody : ∀ {s t : Spot} {k k'}, P s t →
      (∀ {u v}, P u v → Q (k u) (k' v)) → Q (body s k) (body t k'))
    (hk : ∀ {u v}, P u v → Q (k u) (k' v)) (greedy : Bool) (least : Nat) (most : Option Nat)
    (fuel : Nat) : ∀ (count : Nat) (last : Option Nat) {s t : Spot}, P s t →
      Q (iterate body greedy least most k fuel count last s)
        (iterate body greedy least most k' fuel count last t) := by
  induction fuel with
  | zero => exact fun _ _ _ _ _ => hQ.none
  | succ fuel ih =>
    intro count last s t hs
    have hposition := hP.position hs
    unfold iterate
    split
    · exact hbody hs fun huv => ih _ _ huv
    · have hagain : Q
          (if mayRepeat most count && last != some s.position then
            body s fun u => iterate body greedy least most k fuel (count + 1) (some s.position) u
          else none)
          (if mayRepeat most count && last != some t.position then
            body t fun u => iterate body greedy least most k' fuel (count + 1) (some t.position) u
          else none) := by
        rw [hposition]
        split
        · exact hbody hs fun huv => ih _ _ huv
        · exact hQ.none
      dsimp only
      split
      · exact hQ.first hagain (hk hs)
      · exact hQ.first (hk hs) hagain

/-! ### 木の形ごと -/

/-- 木の照合は、似た状態と似た継続から、似た結果を返す。 -/
structure Expr.Relates (P : Spot → Spot → Prop) (input : Array Char) (e : Expr) : Prop where
  run : ∀ {Q : Option Spot → Option Spot → Prop} {s t : Spot} {k k' : Spot → Option Spot},
    Answers Q → P s t → (∀ {u v}, P u v → Q (k u) (k' v)) → Q (e.run input s k) (e.run input t k')

namespace Expr.Relates

variable {a b e : Expr}

/-- 継続なしの照合は、どちらも失敗するか、似た状態に届く。 -/
theorem rel (he : e.Relates P input) (hs : P s t) :
    Option.Rel P (e.run input s some) (e.run input t some) :=
  he.run (answers_rel P) hs fun huv => .some huv

theorem test (hP : Alike P) (c : CharTest) : (Expr.test c).Relates P input := by
  refine ⟨fun {Q s t k k'} hQ hs hk => ?_⟩
  rw [Expr.run, Expr.run, hP.position hs]
  split
  · split
    · exact hk (hP.advance hs 1)
    · exact hQ.none
  · exact hQ.none

theorem anchor (hP : Alike P) (p : Anchor) : (Expr.anchor p).Relates P input := by
  refine ⟨fun {Q s t k k'} hQ hs hk => ?_⟩
  rw [Expr.run, Expr.run, hP.position hs]
  split
  · exact hk hs
  · exact hQ.none

theorem seq (ha : a.Relates P input) (hb : b.Relates P input) :
    (Expr.seq a b).Relates P input := by
  refine ⟨fun {Q s t k k'} hQ hs hk => ?_⟩
  rw [Expr.run, Expr.run]
  exact ha.run hQ hs fun huv => hb.run hQ huv hk

theorem alt (ha : a.Relates P input) (hb : b.Relates P input) :
    (Expr.alt a b).Relates P input := by
  refine ⟨fun {Q s t k k'} hQ hs hk => ?_⟩
  rw [Expr.run, Expr.run]
  exact hQ.first (ha.run hQ hs hk) (hb.run hQ hs hk)

theorem group (hP : Alike P) (number : Nat) (he : e.Relates P input) :
    (Expr.group number e).Relates P input := by
  refine ⟨fun {Q s t k k'} hQ hs hk => ?_⟩
  rw [Expr.run, Expr.run]
  exact he.run hQ (hP.opened number hs) fun huv => hk (hP.closed number huv)

theorem loop (hP : Alike P) (greedy : Bool) (least : Nat) (most : Option Nat)
    (he : e.Relates P input) : (Expr.loop greedy least most e).Relates P input := by
  refine ⟨fun {Q s t k k'} hQ hs hk => ?_⟩
  cases e with
  | test c => exact runLoop_related hP hQ hs hk c greedy least most
  | _ =>
    rw [Expr.run, Expr.run, hP.position hs]
    · exact iterate_related hP hQ (fun hs hk => he.run hQ hs hk) hk _ _ _ _ _ _ hs
    · simp
    · simp

theorem atomic (he : e.Relates P input) : (Expr.atomic e).Relates P input := by
  refine ⟨fun {Q s t k k'} hQ hs hk => ?_⟩
  have hfirst := he.rel hs
  rw [Expr.run, Expr.run]
  generalize e.run input s some = a at hfirst ⊢
  generalize e.run input t some = b at hfirst ⊢
  cases hfirst with
  | none => exact hQ.none
  | some huv => exact hk huv

theorem lookAhead (hP : Alike P) (negated : Bool) (he : e.Relates P input) :
    (Expr.lookAhead negated e).Relates P input := by
  refine ⟨fun {Q s t k k'} hQ hs hk => ?_⟩
  have hfirst := he.rel hs
  rw [Expr.run, Expr.run]
  generalize e.run input s some = a at hfirst ⊢
  generalize e.run input t some = b at hfirst ⊢
  cases hfirst with
  | none =>
    dsimp only
    split
    · exact hk hs
    · exact hQ.none
  | some huv =>
    dsimp only
    split
    · exact hQ.none
    · rw [hP.position hs]
      exact hk (hP.moved _ huv)

theorem lookBehind (hP : Alike P) (negated : Bool) (low high : Nat) (he : e.Relates P input) :
    (Expr.lookBehind negated low high e).Relates P input := by
  refine ⟨fun {Q s t k k'} hQ hs hk => ?_⟩
  have hfirst := he.rel (hP.moved (t.position - low) hs)
  rw [Expr.run, Expr.run, hP.position hs]
  generalize e.run input { s with position := t.position - low } some = a at hfirst ⊢
  generalize e.run input { t with position := t.position - low } some = b at hfirst ⊢
  split
  · split
    · exact hk hs
    · exact hQ.none
  · cases hfirst with
    | none =>
      dsimp only
      split
      · exact hk hs
      · exact hQ.none
    | some huv =>
      dsimp only
      split
      · exact hQ.none
      · exact hk (hP.moved _ huv)

theorem backref (hP : Alike P) (hspan : SameSpans P) (number : Nat) (f : Folding) :
    (Expr.backref number f).Relates P input := by
  refine ⟨fun {Q s t k k'} hQ hs hk => ?_⟩
  rw [Expr.run, Expr.run, hspan s t hs number, hP.position hs]
  split
  · split
    · exact hk (hP.advance hs _)
    · exact hQ.none
  · exact hQ.none

theorem ifGroup (hspan : SameSpans P) (number : Nat) (ha : a.Relates P input)
    (hb : b.Relates P input) : (Expr.ifGroup number a b).Relates P input := by
  refine ⟨fun {Q s t k k'} hQ hs hk => ?_⟩
  rw [Expr.run, Expr.run, hspan s t hs number]
  split
  · exact ha.run hQ hs hk
  · exact hb.run hQ hs hk

end Expr.Relates

/-- 組を指さない木か、似ている状態の組の区間が同じなら、木の照合は似た結果を返す。 -/
theorem Expr.relates (hP : Alike P) (e : Expr) (hspan : e.refFree = true ∨ SameSpans P) :
    e.Relates P input := by
  induction e with
  | empty => exact ⟨fun _ hs hk => hk hs⟩
  | test c => exact .test hP c
  | anchor p => exact .anchor hP p
  | seq a b iha ihb =>
    simp only [refFree, Bool.and_eq_true] at hspan
    exact .seq (iha (hspan.imp And.left id)) (ihb (hspan.imp And.right id))
  | alt a b iha ihb =>
    simp only [refFree, Bool.and_eq_true] at hspan
    exact .alt (iha (hspan.imp And.left id)) (ihb (hspan.imp And.right id))
  | group number e ih => exact .group hP number (ih hspan)
  | loop greedy least most e ih => exact .loop hP greedy least most (ih hspan)
  | atomic e ih => exact .atomic (ih hspan)
  | lookAhead negated e ih => exact .lookAhead hP negated (ih hspan)
  | lookBehind negated low high e ih => exact .lookBehind hP negated low high (ih hspan)
  | backref number f => exact .backref hP (hspan.resolve_left Bool.false_ne_true) number f
  | ifGroup number a b iha ihb =>
    have hsame := hspan.resolve_left Bool.false_ne_true
    exact .ifGroup hsame number (iha (.inr hsame)) (ihb (.inr hsame))

/-- **よく似た状態からよく似た継続で照合すれば、よく似た結果になる。** -/
theorem run_related (hP : Alike P) (e : Expr) : ∀ {Q : Option Spot → Option Spot → Prop}
    {s t : Spot} {k k' : Spot → Option Spot},
    (e.refFree = true ∨ SameSpans P) → Answers Q → P s t → (∀ {u v}, P u v → Q (k u) (k' v)) →
    Q (e.run input s k) (e.run input t k') :=
  fun hspan hQ hs hk => (e.relates hP hspan).run hQ hs hk

end Related

end Tategaki.Regex
