import Tategaki.Proofs.Regex.Alphabet

/-!
# 式の囲い

ある文字で始まり、組の中ではその文字を決して読まない式がある（`Expr.fences`）。そのような式の合ったところには
必ずその文字があり、組にはない（`Pattern.matchAt_fences`）。だから、組の文字列だけを照合し直せば、組の外にあった
その文字の分だけ、残る文字の種類が減る。
-/

namespace Tategaki.Regex

namespace Expr

/-- 文字 `c` を読まないか。先読みと後読みは文字を読まない。 -/
def avoids (c : Char) : Expr → Bool
  | test t => !t.matches? c
  | seq a b => a.avoids c && b.avoids c
  | alt a b => a.avoids c && b.avoids c
  | group _ e => e.avoids c
  | loop _ _ _ e => e.avoids c
  | atomic e => e.avoids c
  | backref _ _ => false
  | ifGroup _ a b => a.avoids c && b.avoids c
  | _ => true

/-- 最初に文字 `c` を読むか。 -/
def opensWith (c : Char) : Expr → Bool
  | test t => t == .one false c.toNat .exact
  | seq a _ => a.opensWith c
  | _ => false

/-- 組 `number` の本体。 -/
def body (number : Nat) : Expr → Expr
  | group _ e => e
  | seq a b => if a.surrounds number then a.body number else b.body number
  | _ => .empty

/-- 文字 `c` で始まり、一つだけ持つ組 `number` の中では `c` を読まないか。 -/
def fences (number : Nat) (c : Char) (e : Expr) : Bool :=
  e.surrounds number && e.opensWith c && (e.body number).avoids c

end Expr

/-- `[start, stop)` に文字 `c` はない。 -/
def Lacks (input : Array Char) (c : Char) (start stop : Nat) : Prop :=
  ∀ p, start ≤ p → p < stop → input[p]? ≠ some c

theorem Lacks.trans {input : Array Char} {c : Char} {start middle stop : Nat}
    (h : Lacks input c start middle) (h' : Lacks input c middle stop) :
    Lacks input c start stop := by
  intro p hstart hstop
  rcases Nat.lt_or_ge p middle with hlt | hge
  · exact h p hstart hlt
  · exact h' p hge hstop

/-- **読まないとした文字は、読んだところにない。** -/
theorem Reaches.lacks {input : Array Char} {c : Char} {e : Expr} {s t : Spot}
    (h : Reaches input e s t) (he : e.avoids c = true) :
    Lacks input c s.position t.position := by
  induction h with
  | @test t s d hd ht =>
    intro p hp hlt hc
    rw [Spot.advance_position] at hlt
    obtain rfl : p = s.position := by omega
    obtain rfl : d = c := Option.some.inj (hd.symm.trans hc)
    rw [Expr.avoids, ht] at he
    cases he
  | seq _ _ iha ihb =>
    rw [Expr.avoids, Bool.and_eq_true] at he
    exact (iha he.1).trans (ihb he.2)
  | altLeft _ ih =>
    rw [Expr.avoids, Bool.and_eq_true] at he
    exact ih he.1
  | altRight _ ih =>
    rw [Expr.avoids, Bool.and_eq_true] at he
    exact ih he.2
  | group _ ih => exact ih he
  | loopMore _ _ _ ih ihr => exact (ih he).trans (ihr he)
  | atomic _ ih => exact ih he
  | backref => cases he
  | present _ _ ih =>
    rw [Expr.avoids, Bool.and_eq_true] at he
    exact ih he.1
  | absent _ _ ih =>
    rw [Expr.avoids, Bool.and_eq_true] at he
    exact ih he.2
  | _ => exact fun p hp hlt => absurd hlt (Nat.not_lt.mpr hp)

/-- 最初に読む文字は、始まりの位置にある。 -/
theorem Reaches.opens {input : Array Char} {c : Char} {e : Expr} {s t : Spot}
    (h : Reaches input e s t) (he : e.opensWith c = true) :
    input[s.position]? = some c ∧ s.position < t.position := by
  induction h with
  | @test t s d hd ht =>
    rw [Expr.opensWith, beq_iff_eq] at he
    rw [he, CharTest.matches?_one_exact, beq_iff_eq] at ht
    rw [← Char.ofNat_toNat c, ← ht, Char.ofNat_toNat]
    exact ⟨hd, by simp⟩
  | seq _ hb iha _ =>
    obtain ⟨hc, hlt⟩ := iha he
    exact ⟨hc, Nat.lt_of_lt_of_le hlt hb.position_le⟩
  | _ => cases he

/-- 組は、その本体が読んだところである。 -/
theorem Reaches.body {input : Array Char} {number : Nat} {e : Expr} {s t : Spot}
    (h : Reaches input e s t) (hs : e.surrounds number = true)
    (hmark : number - 1 < s.marks.length) :
    ∃ s' t', Reaches input (e.body number) s' t' ∧
      t.span? number = some (s'.position, t'.position) := by
  induction h with
  | @group n e s t h ih =>
    rw [Expr.surrounds, Bool.and_eq_true, beq_iff_eq] at hs
    obtain ⟨rfl, hfree⟩ := hs
    exact ⟨s.openGroup n, t, h, h.span?_group hfree hmark⟩
  | @seq x y s m t hx hy ihx ihy =>
    rw [Expr.surrounds] at hs
    rw [Expr.body]
    split at hs
    · next hfirst =>
      rw [Bool.and_eq_true] at hs
      obtain ⟨s', t', hbody, hspan⟩ := ihx hfirst hmark
      rw [if_pos hfirst]
      refine ⟨s', t', hbody, ?_⟩
      rw [← hspan]
      unfold Spot.span? Spot.mark
      rw [hy.marks_eq hs.1]
    · next hfirst =>
      simp only [Bool.and_eq_true] at hs
      rw [← hx.marks_eq hs.1.1] at hmark
      rw [if_neg hfirst]
      exact ihy hs.2 hmark
  | _ => cases hs

/-- **囲いの文字は、合ったところの頭にあり、組にはない。** だから、組は合ったところより短い。 -/
theorem Pattern.matchAt_fences {p : Pattern} {text : Text} {position number : Nat} {c : Char}
    {advancing : Bool} {m : Match} (hf : p.expr.fences number c = true) (hpos : 0 < number)
    (hcount : number ≤ p.groupCount) (h : p.matchAt text.toArray position advancing = some m) :
    ∃ a b, m.span? number = some (a, b) ∧ text[m.start]? = some c ∧ c ∉ Text.slice text a b ∧
      (Text.slice text a b).length < m.stop - m.start := by
  simp only [Expr.fences, Bool.and_eq_true] at hf
  obtain ⟨⟨hsurrounds, hopens⟩, havoids⟩ := hf
  obtain ⟨a, b, hspan, hstart, hle, hstop, -, -⟩ := matchAt_around hsurrounds hpos hcount h
  obtain ⟨t, ht, rfl⟩ := matchAt_reaches h
  have hmark : number - 1 < (p.startAt (min position text.toArray.size)).marks.length := by
    rw [startAt, List.length_replicate]
    omega
  obtain ⟨s', t', hbody, hspan'⟩ := ht.body hsurrounds hmark
  rw [Match.span?_of_marks _ _ _ hpos] at hspan
  cases hspan.symm.trans hspan'
  have hopen : text.toArray[min position text.toArray.size]? = some c ∧
      min position text.toArray.size < t.position := ht.opens hopens
  have hlacks := hbody.lacks havoids
  refine ⟨_, _, by rw [Match.span?_of_marks _ _ _ hpos]; exact hspan', ?_, fun hmem => ?_, ?_⟩
  · rw [← List.getElem?_toArray]
    exact hopen.1
  · obtain ⟨q, hq, hq', hget⟩ := Text.mem_slice_iff.mp hmem
    exact hlacks q hq hq' (List.getElem?_toArray ▸ hget)
  · -- 始まりの位置には囲いの文字があるので、組はその先から始まるか、空である
    have hlength := Text.slice_length text s'.position t'.position
    have hafter : s'.position ≤ min position text.toArray.size →
        t'.position ≤ min position text.toArray.size := fun hbefore =>
      Nat.not_lt.mp fun hcovers => hlacks _ hbefore hcovers hopen.1
    dsimp only at hstart hstop ⊢
    omega

end Tategaki.Regex
