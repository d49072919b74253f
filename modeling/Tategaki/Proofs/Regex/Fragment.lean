import Tategaki.Proofs.Regex.Tandem

/-!
# 式の断片

式の文字列をつないだとき、つないだ式の木が断片の木を並べたものになるための条件を示す。

断片だけを読み終えた読み手と、つないだ文字列を読む読み手は、断片の終わりまで揃って進む
（`readSequence_continues`）。断片の終わりに続く字が断片の最後の字句の意味を変えないことは、続く字の条件（`Shuts`）か、
断片が位置の条件だけからなること（`Expr.isAssertion`）から言える。位置の条件の終わりは、続く字を見ずに決まるからである。
-/

namespace Tategaki.Regex

open Read

/-! ## 位置の条件だけからなる木 -/

/-- 文字を読まず、位置の条件だけからなる木か。 -/
def Expr.isAssertion : Expr → Bool
  | empty => true
  | anchor _ => true
  | lookAhead _ _ => true
  | lookBehind _ _ _ _ => true
  | seq a b => a.isAssertion && b.isAssertion
  | alt a b => a.isAssertion && b.isAssertion
  | group _ e => e.isAssertion
  | loop _ _ _ e => e.isAssertion
  | atomic e => e.isAssertion
  | ifGroup _ a b => a.isAssertion && b.isAssertion
  | test _ => false
  | backref _ _ => false

theorem Piece.isAssertion_exprOf (pieces : List Piece) :
    (exprOf pieces).isAssertion = pieces.all (·.expr.isAssertion) := by
  induction pieces with
  | nil => rfl
  | cons p rest ih =>
    cases rest with
    | nil => simp [exprOf]
    | cons q rest =>
      show (p.expr.isAssertion && (exprOf (q :: rest)).isAssertion) = _
      rw [ih]
      rfl

/-- 列が終わったとき、位置の条件だけになる部品か。 -/
def Piece.Assertive (p : Piece) : Prop := ∀ q ∈ flatten [p], q.expr.isAssertion = true

theorem Piece.mem_flatten {pieces : List Piece} {q : Piece} :
    q ∈ flatten pieces ↔ ∃ p ∈ pieces, q ∈ flatten [p] := by
  simp [flatten]

theorem Piece.flatten_append (xs ys : List Piece) : flatten (xs ++ ys) = flatten xs ++ flatten ys :=
  List.flatMap_append

/-- 溶け込まない部品は、それ自身が位置の条件でなければならない。 -/
theorem Piece.assertive_mk {e : Expr} {w : Width} {k : PieceKind}
    (hk : ∀ content, k ≠ .plainGroup content) :
    (Piece.mk e w k).Assertive ↔ e.isAssertion = true := by
  have hself : flatten [Piece.mk e w k] = [Piece.mk e w k] := by
    cases k with
    | plainGroup content => exact absurd rfl (hk content)
    | _ => rfl
  unfold Assertive
  rw [hself]
  exact List.forall_mem_singleton

/-- 繰り返せる部品の中身が位置の条件なら、部品もそうである。 -/
theorem Piece.assertive_of_repeatable {p : Piece} {body : Expr} {w : Width}
    (h : p.repeatable = .ok (body, w)) (hbody : body.isAssertion = true) : p.Assertive := by
  obtain ⟨e, pw, k⟩ := p
  cases k with
  | anchor => cases h
  | repetition => cases h
  | plainGroup content =>
    cases h
    rw [isAssertion_exprOf, List.all_eq_true] at hbody
    intro q hq
    exact hbody q (by simpa [flatten, Piece.kind] using hq)
  | _ =>
    cases h
    refine (assertive_mk ?_).mpr hbody
    exact nofun

/-! ## 列を一歩ずつ読む -/

/-- 列を終える字句か。 -/
def Token.stops (t : Token) : Bool := t == .plain '|' || t == .plain ')'

section Sequence

variable {n : Nat} {flags : Flags} {first : Bool} {taken pieces : List Piece} {s s' : ReadState}

/-- 列の一歩。字句 `this` を取り、`item` と読み、部品に加えて `placed` とする。 -/
structure SequenceStep (n : Nat) (flags : Flags) (first : Bool) (taken : List Piece)
    (s : ReadState) (this : Token) (s₁ : ReadState) (item : Item) (s₂ : ReadState)
    (placed : Flags × List Piece) (s₃ : ReadState) : Prop where
  next : s.source.next = some this
  goesOn : this.stops = false
  taking : take s = .ok (some this, s₁)
  reading : readItem (readGroup n) flags s.source.position this s₁ = .ok (item, s₂)
  placing : place s.source.position flags first taken item s₂ = .ok (placed, s₃)

/-- 列は、終わりの字句に達しているか、字句を一つ取って続きを読む。 -/
theorem readSequence_ok
    (h : readSequence (n + 1) flags first taken s = .ok (pieces, s')) :
    ((∀ t, s.source.next = some t → t.stops = true) ∧ pieces = Piece.flatten taken.reverse ∧
        s' = s) ∨
      ∃ this s₁ item s₂ placed s₃, SequenceStep n flags first taken s this s₁ item s₂ placed s₃ ∧
        readSequence n placed.1 first placed.2 s₃ = .ok (pieces, s') := by
  unfold readSequence at h
  rw [views_peek.bind] at h
  cases hnext : s.source.next with
  | none =>
    rw [hnext] at h
    cases h
    exact .inl ⟨nofun, rfl, rfl⟩
  | some this =>
    rw [hnext] at h
    dsimp only at h
    split at h
    · next hstop =>
      cases h
      refine .inl ⟨fun t ht => ?_, rfl, rfl⟩
      cases ht
      exact hstop
    · next hstop =>
      rw [views_position.bind] at h
      obtain ⟨t, s₁, htake, h⟩ := ok_of_bind h
      obtain ⟨item, s₂, hitem, h⟩ := ok_of_bind h
      obtain ⟨placed, s₃, hplace, h⟩ := ok_of_bind h
      have ht : t = some this := by
        obtain ⟨source, -, rfl, -⟩ := take_ok htake
        exact hnext
      rw [ht] at htake
      exact .inr ⟨this, s₁, item, s₂, placed, s₃,
        ⟨hnext, Bool.eq_false_iff.mpr hstop, htake, hitem, hplace⟩, h⟩

/-- 一つを読むのも、状態を保つ。 -/
theorem keeps_readItem (n : Nat) (flags : Flags) (start : Nat) (this : Token) :
    Keeps (readItem (readGroup n) flags start this) :=
  have h : Along [] .joint .trapped (readItem (readGroup n) flags start this)
      (readItem (readGroup n) flags start this) :=
    along_readItem (fun flags => (nestedAlong [] n).group .joint _ flags n)
      (nestedAlong [] n).closes (.inl rfl) start start
  h.keeps

theorem keeps_place (start : Nat) (flags : Flags) (first : Bool) (taken : List Piece)
    (item : Item) : Keeps (place start flags first taken item) :=
  have h : Along [] .joint .trapped (place start flags first taken item)
      (place start flags first taken item) :=
    along_place (absurd · trapped_ne_nothing) start start flags first taken item
  h.keeps

section Step

variable {this : Token} {s₁ s₂ s₃ : ReadState} {item : Item} {placed : Flags × List Piece}
  (h : SequenceStep n flags first taken s this s₁ item s₂ placed s₃)

include h

theorem SequenceStep.kept : Kept s s₂ :=
  (keeps_take _ _ _ h.taking).trans (keeps_readItem _ _ _ _ _ _ _ h.reading)

theorem SequenceStep.kept_placed : Kept s₂ s₃ := keeps_place _ _ _ _ _ _ _ _ h.placing

end Step

theorem keeps_readSequence (n : Nat) : ∀ (flags : Flags) (first : Bool) (taken : List Piece),
    Keeps (readSequence n flags first taken) := by
  induction n with
  | zero => exact fun _ _ _ => (neverOk_fail _ _).keeps
  | succ n ih =>
    intro flags first taken s pieces s' h
    rcases readSequence_ok h with ⟨-, -, rfl⟩ | ⟨this, s₁, item, s₂, placed, s₃, hstep, hrest⟩
    · exact .refl _
    · exact (hstep.kept.trans hstep.kept_placed).trans (ih _ _ _ _ _ _ hrest)

/-! ## 位置の条件からなる列 -/

/-- 直前の部品の繰り返しは、繰り返せる部品を繰り返しに替える。 -/
theorem repeatLast_ok {mark least : Nat} {most : Option Nat} {result : List Piece}
    (h : repeatLast mark least most taken s = .ok (result, s')) :
    ∃ last earlier body w e, taken = last :: earlier ∧ last.repeatable = .ok (body, w) ∧
      readLoop least most body s = .ok (e, s') ∧
      result = .mk e (w.repeated least most) .repetition :: earlier := by
  unfold repeatLast at h
  rw [views_position.bind] at h
  cases taken with
  | nil => cases h
  | cons last earlier =>
    dsimp only at h
    cases hlast : last.repeatable with
    | error kind =>
      rw [hlast] at h
      cases h
    | ok body =>
      rw [hlast] at h
      obtain ⟨e, s₁, hread, h⟩ := ok_of_bind h
      cases h
      exact ⟨last, earlier, body.1, body.2, e, rfl, hlast, hread, rfl⟩

/-- 繰り返しが位置の条件なら、本体もそうである。 -/
theorem isAssertion_of_readLoop {least : Nat} {most : Option Nat} {body e : Expr}
    (h : readLoop least most body s = .ok (e, s')) (he : e.isAssertion = true) :
    body.isAssertion = true := by
  obtain ⟨lazy, s₁, -, h⟩ := ok_of_bind h
  cases lazy with
  | true =>
    cases h
    exact he
  | false =>
    obtain ⟨possessive, s₂, -, h⟩ := ok_of_bind h
    cases possessive <;> cases h <;> exact he

/-- 式全体に掛かる指定は、式の頭にしか書けない。 -/
theorem place_wholeFlags_ok {start : Nat} {placed : Flags × List Piece}
    (h : place start flags first taken .wholeFlags s = .ok (placed, s')) :
    first = true ∧ taken = [] ∧ placed = (s.flags, []) ∧ s' = s := by
  unfold place at h
  dsimp only at h
  rw [views_wholeFlags.bind] at h
  split at h
  · exact absurd h (neverOk_unterminated _ _ _ _)
  · next hhead =>
    cases h
    simp only [Bool.or_eq_true, not_or, Bool.not_eq_true', Bool.not_eq_false,
      List.isEmpty_iff] at hhead
    obtain ⟨hfirst, rfl⟩ := hhead
    exact ⟨hfirst, rfl, rfl, rfl⟩

/-- 加えた後の指定は、いまの指定である。式全体に掛かる指定だけは、読み手の持つ指定になる。 -/
theorem flags_of_place {start : Nat} {item : Item} {placed : Flags × List Piece}
    (h : place start flags first taken item s = .ok (placed, s')) :
    placed.1 = flags ∨ placed.1 = s.flags := by
  cases item with
  | nothing =>
    cases h
    exact .inl rfl
  | piece p =>
    cases h
    exact .inl rfl
  | again least most =>
    obtain ⟨result, s₁, -, h⟩ := ok_of_bind h
    cases h
    exact .inl rfl
  | wholeFlags =>
    obtain ⟨-, -, rfl, -⟩ := place_wholeFlags_ok h
    exact .inr rfl

/-- 指定は増えるだけなので、終わりの指定が始めと同じなら、一歩の後の指定も同じである。 -/
theorem SequenceStep.flags_eq {this : Token} {s₁ s₂ s₃ : ReadState} {item : Item}
    {placed : Flags × List Piece}
    (h : SequenceStep n flags first taken s this s₁ item s₂ placed s₃) (hafter : Kept s₃ s')
    (hflags : s.flags = flags) (hflags' : s'.flags = flags) :
    placed.1 = flags ∧ s₃.flags = flags := by
  have hsame : s'.flags = s.flags := hflags'.trans hflags.symm
  have hflags₂ : s₂.flags = s.flags := h.kept.flags_between (h.kept_placed.trans hafter) hsame
  have hflags₃ : s₃.flags = s.flags := (h.kept.trans h.kept_placed).flags_between hafter hsame
  refine ⟨?_, hflags₃.trans hflags⟩
  rcases flags_of_place h.placing with heq | heq
  · exact heq
  · exact heq.trans (hflags₂.trans hflags)

/-- 加えた後の部品がすべて位置の条件になるなら、加える前も、加えたものもそうである。 -/
theorem assertive_of_place {start : Nat} {item : Item} {placed : Flags × List Piece}
    (h : place start flags first taken item s = .ok (placed, s'))
    (hplaced : ∀ p ∈ placed.2, p.Assertive) :
    (∀ p ∈ taken, p.Assertive) ∧ ∀ p, item = .piece p → p.Assertive := by
  cases item with
  | nothing =>
    cases h
    exact ⟨hplaced, nofun⟩
  | piece p =>
    cases h
    refine ⟨fun q hq => hplaced q (List.mem_cons_of_mem p hq), fun q hq => ?_⟩
    cases hq
    exact hplaced p List.mem_cons_self
  | again least most =>
    obtain ⟨result, s₁, hrepeat, h⟩ := ok_of_bind h
    cases h
    obtain ⟨last, earlier, body, w, e, rfl, hlast, hread, rfl⟩ := repeatLast_ok hrepeat
    refine ⟨fun q hq => ?_, nofun⟩
    rcases List.mem_cons.mp hq with rfl | hq
    · have hrepeated := hplaced _ List.mem_cons_self
      rw [Piece.assertive_mk (by exact nofun)] at hrepeated
      exact Piece.assertive_of_repeatable hlast (isAssertion_of_readLoop hread hrepeated)
    · exact hplaced q (List.mem_cons_of_mem _ hq)
  | wholeFlags =>
    obtain ⟨-, rfl, -, -⟩ := place_wholeFlags_ok h
    exact ⟨nofun, nofun⟩

/-- 読み終えた列が位置の条件だけからなるなら、途中の部品もそうである。 -/
theorem assertive_of_readSequence (n : Nat) : ∀ {flags : Flags} {first : Bool}
    {taken pieces : List Piece} {s s' : ReadState},
    readSequence n flags first taken s = .ok (pieces, s') →
      (∀ q ∈ pieces, q.expr.isAssertion = true) → ∀ p ∈ taken, p.Assertive := by
  induction n with
  | zero => exact fun h => absurd h (neverOk_fail _ _ _ _)
  | succ n ih =>
    intro flags first taken pieces s s' h hpieces
    rcases readSequence_ok h with ⟨-, rfl, -⟩ | ⟨this, s₁, item, s₂, placed, s₃, hstep, hrest⟩
    · intro p hp q hq
      exact hpieces q (Piece.mem_flatten.mpr ⟨p, List.mem_reverse.mpr hp, hq⟩)
    · exact (assertive_of_place hstep.placing (ih hrest hpieces)).1

/-! ## 続く字を見る字句 -/

/-- 一つの文字の部品は、位置の条件ではない。 -/
theorem not_assertive_ofTest (t : CharTest) : ¬ (Piece.ofTest t).Assertive := by
  intro h
  rw [Piece.ofTest, Piece.assertive_mk (by exact nofun)] at h
  cases h

/-- 組への参照は、位置の条件ではない。 -/
theorem not_assertive_of_backreference {number back : Nat} {p : Piece}
    (h : backreference flags number back s = .ok (p, s')) : ¬ p.Assertive := by
  unfold backreference at h
  rw [(views_groupWidth number).bind] at h
  cases hwidth : s.groups[number]?.join with
  | none =>
    rw [hwidth] at h
    exact absurd h (neverOk_fail _ _ _ _)
  | some w =>
    rw [hwidth] at h
    obtain ⟨_, s₁, -, h⟩ := ok_of_bind h
    cases h
    rw [Piece.assertive_mk (by exact nofun)]
    exact nofun

theorem not_assertive_of_readReference {c : Char} {p : Piece}
    (h : readReference flags c s = .ok (p, s')) : ¬ p.Assertive := by
  obtain ⟨second, s₁, -, h⟩ := ok_of_bind h
  obtain ⟨third, s₂, -, h⟩ := ok_of_bind h
  dsimp only at h
  split at h
  · split at h
    · exact absurd h (neverOk_fail _ _ _ _)
    · cases h
      exact not_assertive_ofTest _
  · rw [views_groupCount.bind] at h
    split at h
    · exact not_assertive_of_backreference h
    · exact absurd h (neverOk_fail _ _ _ _)

/-- 逆斜線で書かれたもののうち、位置の条件になるのは略記だけである。 -/
theorem not_assertive_of_readEscape {c : Char} {p : Piece} (hc : anchorEscape flags c = none)
    (h : readEscape flags c s = .ok (p, s')) : ¬ p.Assertive := by
  unfold readEscape at h
  rw [hc] at h
  cases hcategory : categoryEscape flags.ascii c with
  | some category =>
    rw [hcategory] at h
    cases h
    exact not_assertive_ofTest _
  | none =>
    cases hcontrol : controlEscape c with
    | some n =>
      rw [hcategory, hcontrol] at h
      cases h
      exact not_assertive_ofTest _
    | none =>
      rw [hcategory, hcontrol] at h
      obtain ⟨number, s₁, -, h⟩ := ok_of_bind h
      cases number with
      | some n =>
        cases h
        exact not_assertive_ofTest _
      | none =>
        dsimp only at h
        split at h
        · obtain ⟨digits, s₂, -, h⟩ := ok_of_bind h
          cases h
          exact not_assertive_ofTest _
        · split at h
          · exact not_assertive_of_readReference h
          · obtain ⟨code, s₂, -, h⟩ := ok_of_bind h
            cases h
            exact not_assertive_ofTest _

/-- 開きの波括弧は、回数の形なら繰り返し、そうでなければただの字である。 -/
theorem readItem_brace_ok {start : Nat} {item : Item} (hverbose : flags.verbose = false)
    (h : readItem (readGroup n) flags start (.plain '{') s = .ok (item, s')) :
    ∃ bounds, readBounds s = .ok (bounds, s') ∧ item = match bounds with
      | none => .piece (literalPiece flags '{'.toNat)
      | some (least, most) => .again least most := by
  unfold readItem at h
  rw [hverbose] at h
  obtain ⟨bounds, s₁, hread, h⟩ := ok_of_bind h
  cases bounds <;> cases h <;> exact ⟨_, hread, rfl⟩

variable {y : Text} {share : Sharing} {t t' : ReadState}

/-- 位置の条件になったものは、続く字を見ずに読み終えている。 -/
theorem readItem_sync {m : Nat} {start start' : Nat} {this : Token} {item item' : Item}
    (hverbose : flags.verbose = false)
    (hsafe : Shuts y IsBound ∨ ∀ p, item = .piece p → p.Assertive) (hs : Follows y share s t)
    (h : readItem (readGroup n) flags start this s = .ok (item, s'))
    (h' : readItem (readGroup m) flags start' this t = .ok (item', t')) :
    (share ≠ .joint ∧ Drifted s') ∨ (Follows y share s' t' ∧ item = item') := by
  have hnested := nestedAlong y n
  have hgroup : ∀ flags start start' head, Along y share .nothing
      (readGroup n flags start head) (readGroup m flags start' head) :=
    fun flags => hnested.group share _ flags m
  by_cases hguard : this.ReachesOut flags → Shuts y IsBound
  · have hitem := along_readItem hgroup hnested.closes (.inr ⟨rfl, hverbose, hguard⟩) start start'
    exact (hitem.sync hs h h').resolve_left id
  · -- 続く字で意味の変わりうる字句が、位置の条件を作ることはない
    obtain ⟨hreach, hopen⟩ := Classical.not_imp.mp hguard
    have hassert := hsafe.resolve_left hopen
    cases this with
    | escaped c =>
      obtain ⟨p, s₁, hread, h⟩ := ok_of_bind h
      cases h
      exact absurd (hassert p rfl) (not_assertive_of_readEscape hreach hread)
    | plain c =>
      obtain rfl : c = '{' := hreach
      obtain ⟨bounds, hread, rfl⟩ := readItem_brace_ok hverbose h
      obtain ⟨bounds', hread', rfl⟩ := readItem_brace_ok hverbose h'
      rcases readBounds_sync (.inl rfl) hs hread hread' with ⟨rfl, -⟩ | hdrift | ⟨hs', rfl⟩
      · exact absurd (hassert _ rfl) (not_assertive_ofTest _)
      · exact .inl hdrift
      · exact .inr ⟨hs', rfl⟩

/-- 読んだものを、前者は自分の部品に、後者は断片の前からある部品にも続けて加える。 -/
theorem place_sync {start start' : Nat} {item : Item} {below : List Piece}
    {placed placed' : Flags × List Piece} (hmode : Shuts y IsMode) (hs : Follows y share s t)
    (h : place start flags true taken item s = .ok (placed, s'))
    (h' : place start' flags true (taken ++ below) item t = .ok (placed', t')) :
    (share ≠ .joint ∧ Drifted s') ∨
      (Follows y share s' t' ∧ placed' = (placed.1, placed.2 ++ below)) := by
  cases item with
  | nothing =>
    cases h
    cases h'
    exact .inr ⟨hs, rfl⟩
  | piece p =>
    cases h
    cases h'
    exact .inr ⟨hs, rfl⟩
  | again least most =>
    obtain ⟨result, s₁, hrepeat, h⟩ := ok_of_bind h
    obtain ⟨result', t₁, hrepeat', h'⟩ := ok_of_bind h'
    cases h
    cases h'
    obtain ⟨last, earlier, body, w, e, rfl, hlast, hread, rfl⟩ := repeatLast_ok hrepeat
    obtain ⟨last', earlier', body', w', e', hcons, hlast', hread', rfl⟩ := repeatLast_ok hrepeat'
    obtain ⟨rfl, rfl⟩ := List.cons.inj hcons
    cases hlast.symm.trans hlast'
    rcases (along_readLoop (l := .nothing) (fun _ => hmode) _ _ _).sync hs hread hread' with
      hlost | hdrift | ⟨hs', rfl⟩
    · exact hlost.elim
    · exact .inl hdrift
    · exact .inr ⟨hs', rfl⟩
  | wholeFlags =>
    obtain ⟨-, rfl, rfl, rfl⟩ := place_wholeFlags_ok h
    obtain ⟨-, hnil, rfl, rfl⟩ := place_wholeFlags_ok h'
    refine .inr ⟨hs, ?_⟩
    rw [hs.flags, show below = [] from hnil]
    rfl

/-- 揃っている二つの読み手は、続く字がその字句の意味を変えない限り、一歩の後も揃っている。 -/
theorem SequenceStep.sync {m : Nat} {this : Token} {s₁ s₂ s₃ t₁ t₂ t₃ : ReadState}
    {item item' : Item} {below : List Piece} {placed placed' : Flags × List Piece}
    (h : SequenceStep n flags true taken s this s₁ item s₂ placed s₃)
    (h' : SequenceStep m flags true (taken ++ below) t this t₁ item' t₂ placed' t₃)
    (hverbose : flags.verbose = false) (hmode : Shuts y IsMode)
    (hsafe : Shuts y IsBound ∨ ∀ p ∈ placed.2, p.Assertive) (hs : Follows y share s t) :
    (share ≠ .joint ∧ Drifted s₃) ∨
      (Follows y share s₃ t₃ ∧ placed' = (placed.1, placed.2 ++ below)) := by
  have hs₁ : Follows y share s₁ t₁ := (hs.take (by rw [h.next]; nofun) h.taking h'.taking).1
  have hitem : Shuts y IsBound ∨ ∀ p, item = .piece p → p.Assertive :=
    hsafe.imp_right fun hassert => (assertive_of_place h.placing hassert).2
  rcases readItem_sync hverbose hitem hs₁ h.reading h'.reading with ⟨hapart, hdrift⟩ | ⟨hs₂, rfl⟩
  · exact .inl ⟨hapart, h.kept_placed.drifted hdrift⟩
  · exact place_sync hmode hs₂ h.placing h'.placing

/-- 断片の字が残っている間は、つないだ文字列を読む読み手も同じ字句から一歩を読む。 -/
theorem SequenceStep.exists_next {m : Nat} {this : Token} {s₁ s₂ s₃ : ReadState} {item : Item}
    {placed : Flags × List Piece} {below all : List Piece}
    (h : SequenceStep n flags true taken s this s₁ item s₂ placed s₃) (hs : Follows y share s t)
    (h' : readSequence m flags true below t = .ok (all, t')) :
    ∃ k t₁ item' t₂ placed' t₃, SequenceStep k flags true below t this t₁ item' t₂ placed' t₃ ∧
      readSequence k placed'.1 true placed'.2 t₃ = .ok (all, t') := by
  have htext : s.source.text ≠ [] := by
    intro hnil
    have hnext := h.next
    rw [(Source.next_of_text_nil hnil).1] at hnext
    cases hnext
  have hnext : t.source.next = some this := (hs.source.next_eq htext).1.trans h.next
  cases m with
  | zero => exact absurd h' (neverOk_fail _ _ _ _)
  | succ k =>
    rcases readSequence_ok h' with ⟨hstops, -⟩ | ⟨this', t₁, item', t₂, placed', t₃, hstep, hrest⟩
    · exact absurd (hstops this hnext) (Bool.eq_false_iff.mp h.goesOn)
    · cases hnext.symm.trans hstep.next
      exact ⟨k, t₁, item', t₂, placed', t₃, hstep, hrest⟩

/-- **断片を読み終えるところまで、つないだ文字列を読む読み手は、断片を読む読み手と揃って進む。** 断片の前からある部品は
`below` に残る。 -/
theorem readSequence_continues (hverbose : flags.verbose = false) (hmode : Shuts y IsMode)
    (below : List Piece) (n : Nat) : ∀ {m : Nat} {taken pieces all : List Piece}
      {s t s' t' : ReadState},
    readSequence n flags true taken s = .ok (pieces, s') → s'.source.text = [] →
    readSequence m flags true (taken ++ below) t = .ok (all, t') →
    Follows y share s t → s.flags = flags → s'.flags = flags →
    (Shuts y IsBound ∨ ∀ q ∈ pieces, q.expr.isAssertion = true) →
    (share ≠ .joint → ¬ Drifted s') →
    ∃ m' taken' t₁, Follows y share s' t₁ ∧ pieces = Piece.flatten taken'.reverse ∧
      readSequence m' flags true (taken' ++ below) t₁ = .ok (all, t') := by
  induction n with
  | zero => exact fun h => absurd h (neverOk_fail _ _ _ _)
  | succ n ih =>
    intro m taken pieces all s t s' t' h hended h' hs hflags hflags' hsafe hkeep
    rcases readSequence_ok h with ⟨-, rfl, rfl⟩ | ⟨this, s₁, item, s₂, placed, s₃, hstep, hrest⟩
    · exact ⟨m, taken, t, hs, rfl, h'⟩
    · obtain ⟨k, t₁, item', t₂, placed', t₃, hstep', hrest'⟩ := hstep.exists_next hs h'
      have hafter : Kept s₃ s' := keeps_readSequence n placed.1 true placed.2 s₃ pieces s' hrest
      have hassert : Shuts y IsBound ∨ ∀ p ∈ placed.2, p.Assertive :=
        hsafe.imp_right (assertive_of_readSequence n hrest)
      rcases hstep.sync hstep' hverbose hmode hassert hs with ⟨hapart, hdrift⟩ | ⟨hs₃, rfl⟩
      · exact absurd (hafter.drifted hdrift) (hkeep hapart)
      · obtain ⟨hplaced, hflags₃⟩ := hstep.flags_eq hafter hflags hflags'
        rw [hplaced] at hrest hrest'
        exact ih hrest hended hrest' hs₃ hflags₃ hflags' hsafe hkeep

end Sequence

end Tategaki.Regex
