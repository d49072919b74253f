import Tategaki.Proofs.Regex.Reach
import Tategaki.Text.Basic

/-!
# 式の読む文字

有限個の文字にだけ合う一文字の条件なら、その文字を挙げられる（`CharTest.alphabet`）。先読みと後読みの外に
ある条件がどれもそうなら、式の読む文字は、挙げたもののどれかである（`Reaches.mem_alphabet`）。

組を一つだけ、繰り返しや選択の外に持つ式では、組の外で読む文字について同じことが言え、組の中では何を読んでも
よい（`Reaches.around`）。
-/

namespace Tategaki.Regex

/-! ## 一文字の条件 -/

namespace SetItem

/-- 入る文字を挙げられるか。 -/
def listable : SetItem → Bool
  | category _ => false
  | _ => true

/-- 入る文字。 -/
def alphabet : SetItem → List Char
  | one code => [Char.ofNat code]
  | span first last => (List.range' first (last + 1 - first)).map Char.ofNat
  | category _ => []

theorem mem_alphabet {item : SetItem} {c : Char} (hl : item.listable = true)
    (h : item.has c.toNat = true) : c ∈ item.alphabet := by
  cases item with
  | one code =>
    rw [has, beq_iff_eq] at h
    rw [alphabet, List.mem_singleton, ← h, Char.ofNat_toNat]
  | span first last =>
    simp only [has, Bool.and_eq_true, decide_eq_true_eq] at h
    rw [alphabet, List.mem_map]
    exact ⟨c.toNat, List.mem_range'_1.mpr (by omega), Char.ofNat_toNat c⟩
  | category => cases hl

end SetItem

namespace CharTest

/-- 合う文字を挙げられるか。 -/
def listable : CharTest → Bool
  | one false _ .exact => true
  | set false items .exact => items.all SetItem.listable
  | _ => false

/-- 合う文字。 -/
def alphabet : CharTest → List Char
  | any _ => []
  | one _ code _ => [Char.ofNat code]
  | set _ items _ => items.flatMap SetItem.alphabet

/-- **挙げられる条件に合う文字は、挙げたもののどれかである。** -/
theorem mem_alphabet {t : CharTest} {c : Char} (hl : t.listable = true)
    (h : t.matches? c = true) : c ∈ t.alphabet := by
  unfold listable at hl
  split at hl
  · next code =>
    rw [matches?_one_exact, beq_iff_eq] at h
    rw [alphabet, List.mem_singleton, ← h, Char.ofNat_toNat]
  · next items =>
    rw [matches?_set_exact, Bool.bne_false] at h
    obtain ⟨item, hitem, hhas⟩ := List.any_eq_true.mp h
    rw [alphabet, List.mem_flatMap]
    exact ⟨item, hitem, SetItem.mem_alphabet (List.all_eq_true.mp hl item hitem) hhas⟩
  · cases hl

end CharTest

/-! ## 式 -/

namespace Expr

/-- 読む文字を挙げられるか。先読みと後読みは文字を読まない。 -/
def listable : Expr → Bool
  | test t => t.listable
  | seq a b => a.listable && b.listable
  | alt a b => a.listable && b.listable
  | group _ e => e.listable
  | loop _ _ _ e => e.listable
  | atomic e => e.listable
  | backref _ _ => false
  | ifGroup _ a b => a.listable && b.listable
  | _ => true

/-- 読む文字。 -/
def alphabet : Expr → List Char
  | test t => t.alphabet
  | seq a b => a.alphabet ++ b.alphabet
  | alt a b => a.alphabet ++ b.alphabet
  | group _ e => e.alphabet
  | loop _ _ _ e => e.alphabet
  | atomic e => e.alphabet
  | ifGroup _ a b => a.alphabet ++ b.alphabet
  | _ => []

/-- 組 `number` を、繰り返しや選択の外に一つだけ持ち、その外で読む文字を挙げられるか。 -/
def surrounds (number : Nat) : Expr → Bool
  | group n e => n == number && e.groupFree
  | seq a b =>
    if a.surrounds number then b.groupFree && b.listable
    else a.groupFree && a.listable && b.surrounds number
  | _ => false

/-- 組 `number` の外で読む文字。 -/
def rim (number : Nat) : Expr → List Char
  | seq a b =>
    if a.surrounds number then a.rim number ++ b.alphabet else a.alphabet ++ b.rim number
  | _ => []

end Expr

/-- `[start, stop)` の文字は、どれも `letters` にある。 -/
def ReadsIn (input : Array Char) (letters : List Char) (start stop : Nat) : Prop :=
  ∀ p, start ≤ p → p < stop → ∃ c ∈ letters, input[p]? = some c

namespace ReadsIn

variable {input : Array Char} {letters letters' : List Char} {a b c : Nat}

theorem mono (h : ReadsIn input letters a b) (hl : letters ⊆ letters') :
    ReadsIn input letters' a b := by
  intro p ha hb
  obtain ⟨x, hx, hp⟩ := h p ha hb
  exact ⟨x, hl hx, hp⟩

theorem trans (h : ReadsIn input letters a b) (h' : ReadsIn input letters b c) :
    ReadsIn input letters a c := by
  intro p ha hc
  rcases Nat.lt_or_ge p b with hb | hb
  · exact h p ha hb
  · exact h' p hb hc

theorem append (h : ReadsIn input letters a b) (h' : ReadsIn input letters' b c) :
    ReadsIn input (letters ++ letters') a c :=
  (h.mono (List.subset_append_left _ _)).trans (h'.mono (List.subset_append_right _ _))

/-- 文字列の部分の文字は、どれも `letters` にある。 -/
theorem mem_slice {text : Text} {x : Char} (h : ReadsIn text.toArray letters a b)
    (hx : x ∈ Text.slice text a b) : x ∈ letters := by
  obtain ⟨p, ha, hb, hp⟩ := Text.mem_slice_iff.mp hx
  obtain ⟨y, hy, hp'⟩ := h p ha hb
  rw [List.getElem?_toArray, hp] at hp'
  cases hp'
  exact hy

end ReadsIn

/-- **式の読む文字は、挙げたもののどれかである。** -/
theorem Reaches.mem_alphabet {input : Array Char} {e : Expr} {s t : Spot}
    (h : Reaches input e s t) (hl : e.listable = true) :
    ReadsIn input e.alphabet s.position t.position := by
  induction h with
  | @test t s c hc ht =>
    intro p hp hlt
    rw [Spot.advance_position] at hlt
    obtain rfl : p = s.position := by omega
    exact ⟨c, CharTest.mem_alphabet hl ht, hc⟩
  | seq _ _ iha ihb =>
    rw [Expr.listable, Bool.and_eq_true] at hl
    exact (iha hl.1).append (ihb hl.2)
  | altLeft _ ih =>
    rw [Expr.listable, Bool.and_eq_true] at hl
    exact (ih hl.1).mono (List.subset_append_left _ _)
  | altRight _ ih =>
    rw [Expr.listable, Bool.and_eq_true] at hl
    exact (ih hl.2).mono (List.subset_append_right _ _)
  | group _ ih => exact ih hl
  | loopMore _ _ _ ih ihr => exact (ih hl).trans (ihr hl)
  | atomic _ ih => exact ih hl
  | backref => cases hl
  | present _ _ ih =>
    rw [Expr.listable, Bool.and_eq_true] at hl
    exact (ih hl.1).mono (List.subset_append_left _ _)
  | absent _ _ ih =>
    rw [Expr.listable, Bool.and_eq_true] at hl
    exact (ih hl.2).mono (List.subset_append_right _ _)
  | _ => exact fun p hp hlt => absurd hlt (Nat.not_lt.mpr hp)

/-! ## 組の外 -/

/-- 組 `number` は `[a, b)` を読み、その外で読む文字は、挙げたもののどれかである。 -/
structure Around (input : Array Char) (number : Nat) (e : Expr) (s t : Spot) (a b : Nat) :
    Prop where
  span : t.span? number = some (a, b)
  start_le : s.position ≤ a
  le_stop : b ≤ t.position
  before : ReadsIn input (e.rim number) s.position a
  after : ReadsIn input (e.rim number) b t.position

/-- 組のない本体を読んだ組の区間は、始まりから届いた先までである。 -/
theorem Reaches.span?_group {input : Array Char} {number : Nat} {e : Expr} {s t : Spot}
    (h : Reaches input e (s.openGroup number) t) (hf : e.groupFree = true)
    (hmark : number - 1 < s.marks.length) :
    (t.closeGroup number).span? number = some (s.position, t.position) := by
  have hle : s.position ≤ t.position := h.position_le
  unfold Spot.span? Spot.closeGroup Spot.mark
  rw [h.marks_eq hf]
  unfold Spot.openGroup
  simp [hmark, Mark.span?, hle]

/-- **組の外で読む文字は、挙げたもののどれかである。** -/
theorem Reaches.around {input : Array Char} {number : Nat} {e : Expr} {s t : Spot}
    (h : Reaches input e s t) (hs : e.surrounds number = true)
    (hmark : number - 1 < s.marks.length) : ∃ a b, Around input number e s t a b := by
  induction h with
  | @group n e s t h ih =>
    rw [Expr.surrounds, Bool.and_eq_true, beq_iff_eq] at hs
    obtain ⟨rfl, hfree⟩ := hs
    have hnone : ∀ p, ReadsIn input ((Expr.group n e).rim n) p p :=
      fun p q hp hlt => absurd hlt (Nat.not_lt.mpr hp)
    exact ⟨s.position, t.position, h.span?_group hfree hmark, Nat.le_refl _, Nat.le_refl _,
      hnone _, hnone _⟩
  | @seq x y s m t hx hy ihx ihy =>
    rw [Expr.surrounds] at hs
    split at hs
    · next hfirst =>
      rw [Bool.and_eq_true] at hs
      obtain ⟨a, b, hspan, hstart, hstop, hbefore, hafter⟩ := ihx hfirst hmark
      have hrim : (Expr.seq x y).rim number = x.rim number ++ y.alphabet := by
        rw [Expr.rim, if_pos hfirst]
      refine ⟨a, b, ?_, hstart, Nat.le_trans hstop hy.position_le, ?_, ?_⟩
      · rw [← hspan]
        unfold Spot.span? Spot.mark
        rw [hy.marks_eq hs.1]
      · rw [hrim]
        exact hbefore.mono (List.subset_append_left _ _)
      · rw [hrim]
        exact hafter.append (hy.mem_alphabet hs.2)
    · next hfirst =>
      simp only [Bool.and_eq_true] at hs
      obtain ⟨⟨hfree, hlist⟩, hsecond⟩ := hs
      rw [← hx.marks_eq hfree] at hmark
      obtain ⟨a, b, hspan, hstart, hstop, hbefore, hafter⟩ := ihy hsecond hmark
      have hrim : (Expr.seq x y).rim number = x.alphabet ++ y.rim number := by
        rw [Expr.rim, if_neg hfirst]
      refine ⟨a, b, hspan, Nat.le_trans hx.position_le hstart, hstop, ?_, ?_⟩
      · rw [hrim]
        exact (hx.mem_alphabet hlist).append hbefore
      · rw [hrim]
        exact hafter.mono (List.subset_append_right _ _)
  | _ => cases hs

/-! ## 照合 -/

/-- **合ったところの文字は、式の読む文字のどれかである。** -/
theorem Pattern.mem_alphabet_of_matchAt {p : Pattern} {text : Text} {position : Nat}
    {advancing : Bool} {m : Match} (hl : p.expr.listable = true)
    (h : p.matchAt text.toArray position advancing = some m) :
    ∀ c ∈ Text.slice text m.start m.stop, c ∈ p.expr.alphabet := by
  obtain ⟨t, ht, rfl⟩ := matchAt_reaches h
  exact fun c hc => (ht.mem_alphabet hl).mem_slice hc

/-- 照合の結果の組の区間は、組の印の区間である。 -/
theorem Match.span?_of_marks (start stop : Nat) (marks : List Mark) {number : Nat}
    (hpos : 0 < number) : (Match.mk start stop (marks.map Mark.span?)).span? number
      = (Spot.mk stop marks).span? number := by
  unfold Match.span? Spot.span? Spot.mark
  rw [if_neg (by simpa using Nat.pos_iff_ne_zero.mp hpos), List.getElem?_map,
    List.getD_eq_getElem?_getD]
  cases marks[number - 1]? <;> rfl

/-- **組の外にある文字は、組の外で読む文字のどれかである。** -/
theorem Pattern.matchAt_around {p : Pattern} {text : Text} {position number : Nat}
    {advancing : Bool} {m : Match} (hs : p.expr.surrounds number = true) (hpos : 0 < number)
    (hcount : number ≤ p.groupCount) (h : p.matchAt text.toArray position advancing = some m) :
    ∃ a b, m.span? number = some (a, b) ∧ m.start ≤ a ∧ a ≤ b ∧ b ≤ m.stop ∧
      (∀ c ∈ Text.slice text m.start a, c ∈ p.expr.rim number) ∧
      ∀ c ∈ Text.slice text b m.stop, c ∈ p.expr.rim number := by
  obtain ⟨t, ht, hm⟩ := matchAt_reaches h
  have hmark : number - 1 < (p.startAt (min position text.toArray.size)).marks.length := by
    rw [startAt, List.length_replicate]
    omega
  obtain ⟨a, b, hspan, hstart, hstop, hbefore, hafter⟩ := ht.around hs hmark
  have hgroup : m.span? number = some (a, b) := by
    rw [hm, Match.span?_of_marks _ _ _ hpos]
    exact hspan
  have hle := Match.span?_le_of_matchAt h hgroup
  subst hm
  exact ⟨a, b, hgroup, hstart, hle, hstop, fun c hc => hbefore.mem_slice hc,
    fun c hc => hafter.mem_slice hc⟩

end Tategaki.Regex
