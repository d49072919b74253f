import Tategaki.Proofs.Regex.Fragment
import Tategaki.Proofs.Regex.Related

/-!
# つないだ式

三つの断片をつないだ式の木は、それぞれの断片の木を並べたものである（`compile_joined`）。断片は、式の一番外側に選択がなく、
式全体に掛かる指定を変えないもの（`isFragment`）とし、前後の断片は組を持たず、位置の条件だけからなるものとする。
-/

namespace Tategaki.Regex

open Read

/-! ## 断片 -/

/-- 読み始めの状態。 -/
def ReadState.initial (start : Source) (flags : Flags) : ReadState :=
  ⟨start, flags, [none], [], none, []⟩

/-- 式の一番外側の、最初の選択肢を読む。 -/
def firstBranch (source : Text) (flags : Flags) : Except Fault (List Piece × ReadState) :=
  match Source.advance ⟨source, 0, none⟩ with
  | .error f => .error f
  | .ok start => readSequence (4 * source.length + 7) flags true [] (.initial start flags)

/-- 式の一番外側に選択がなく、式全体に掛かる指定を変えないか。 -/
def isFragment (source : Text) (flags : Flags) : Bool :=
  match firstBranch source flags with
  | .ok (_, s) => s.source.text.isEmpty && s.flags == flags
  | .error _ => false

/-- 断片を読み終えた跡。 -/
structure Branch (source : Text) (flags : Flags) (start : Source) (pieces : List Piece)
    (s : ReadState) : Prop where
  starts : Source.advance ⟨source, 0, none⟩ = .ok start
  read : readSequence (4 * source.length + 7) flags true [] (.initial start flags) = .ok (pieces, s)
  whole : s.source.text = []
  settled : s.flags = flags

theorem branch_of_isFragment {source : Text} {flags : Flags} (h : isFragment source flags = true) :
    ∃ start pieces s, Branch source flags start pieces s := by
  unfold isFragment firstBranch at h
  cases hstart : Source.advance ⟨source, 0, none⟩ with
  | error f =>
    rw [hstart] at h
    cases h
  | ok start =>
    rw [hstart] at h
    dsimp only at h
    cases hread : readSequence (4 * source.length + 7) flags true [] (.initial start flags) with
    | error f =>
      rw [hread] at h
      cases h
    | ok x =>
      rw [hread] at h
      simp only [Bool.and_eq_true, List.isEmpty_iff, beq_iff_eq] at h
      exact ⟨start, x.1, x.2, hstart, hread, h.1, h.2⟩

/-! ## 式の全体 -/

theorem finish_ok {body : List Piece} {p : Pattern} {s s' : ReadState}
    (h : finish body s = .ok (p, s')) : p.expr = Piece.exprOf body ∧
      p.groupCount = s.groups.length - 1 ∧ ∀ r ∈ s.references, r.1 < s.groups.length := by
  unfold finish at h
  obtain ⟨u, s₁, hget, h⟩ := ok_of_bind h
  cases hget
  split at h
  · exact absurd h (neverOk_fault _ _ _)
  · rw [views_peek.bind] at h
    split at h
    · exact absurd h (neverOk_fail _ _ _ _)
    · cases hfind : s.references.find? fun r => s.groups.length ≤ r.1 with
      | some r =>
        rw [hfind] at h
        exact absurd h (neverOk_fault _ _ _)
      | none =>
        rw [hfind] at h
        dsimp only at h
        generalize Option.or _ _ = fault at h
        cases fault with
        | some kind => exact absurd h (neverOk_fault _ _ _)
        | none =>
          cases h
          refine ⟨rfl, rfl, fun r hr => ?_⟩
          have := List.find?_eq_none.mp hfind r hr
          simpa using this

/-- 式を読み終えたなら、最初の選択肢も読み終えている。 -/
theorem compile_ok {source : Text} {flags : Flags} {p : Pattern}
    (h : compile source flags = .ok p) :
    ∃ start pieces s, Source.advance ⟨source, 0, none⟩ = .ok start ∧
      readSequence (4 * source.length + 7) flags true [] (.initial start flags) = .ok (pieces, s) ∧
      (s.source.text = [] → p.expr = Piece.exprOf pieces ∧ p.groupCount = s.groups.length - 1 ∧
        ∀ r ∈ s.references, r.1 < s.groups.length) := by
  unfold compile at h
  cases hstart : Source.advance ⟨source, 0, none⟩ with
  | error f =>
    rw [hstart] at h
    cases h
  | ok start =>
    rw [hstart] at h
    change ((readChoice (4 * source.length + 8) flags true [] >>= finish)
      (ReadState.initial start flags)).map (·.1) = .ok p at h
    cases hread : (readChoice (4 * source.length + 8) flags true [] >>= finish)
        (ReadState.initial start flags) with
    | error f =>
      rw [hread] at h
      cases h
    | ok x =>
      rw [hread] at h
      cases h
      obtain ⟨body, s₁, hchoice, hfinish⟩ := ok_of_bind hread
      obtain ⟨pieces, s, hbranch, hchoice⟩ := ok_of_bind hchoice
      refine ⟨start, pieces, s, rfl, hbranch, fun hwhole => ?_⟩
      -- 使い切っているので、選択肢は一つである
      obtain ⟨more, s₂, haccept, hrest⟩ := ok_of_bind hchoice
      clear hchoice
      rcases accept_ok haccept with ⟨-, hnext, -⟩ | ⟨rfl, -, rfl⟩
      · rw [(Source.next_of_text_nil hwhole).1] at hnext
        cases hnext
      · cases hrest
        exact finish_ok hfinish

/-- 断片の木は、読んだ部品を並べたものである。 -/
theorem Branch.compiled {source : Text} {flags : Flags} {start : Source} {pieces : List Piece}
    {s : ReadState} {p : Pattern} (h : Branch source flags start pieces s)
    (hp : compile source flags = .ok p) : p.expr = Piece.exprOf pieces ∧
      p.groupCount = s.groups.length - 1 ∧ ∀ r ∈ s.references, r.1 < s.groups.length := by
  obtain ⟨start', pieces', s', hstart, hread, hwhole⟩ := compile_ok hp
  cases hstart.symm.trans h.starts
  cases hread.symm.trans h.read
  exact hwhole h.whole

/-! ## 断片の始まりの字 -/

theorem Shuts.append {x y : Text} {p : Char → Prop} (hx : Shuts x p) (hy : Shuts y p) :
    Shuts (x ++ y) p := by
  cases x with
  | nil => exact hy
  | cons c x =>
    intro d rest heq
    obtain ⟨rfl, -⟩ := List.cons.inj heq
    exact hx _ x rfl

theorem shuts_nil {p : Char → Prop} : Shuts [] p := nofun

section Start

variable {source : Text} {flags : Flags} {start : Source} {pieces : List Piece} {s : ReadState}
  {c : Char} {rest : Text}

/-- 断片の始まりの字を読み、その続きを読む。 -/
theorem Branch.first_item (h : Branch source flags start pieces s) (hsource : source = c :: rest)
    (hescape : c ≠ '\\') (hstop : (Token.plain c).stops = false) :
    ∃ n s₁ item s₂ placed s₃,
      readItem (readGroup n) flags start.position (.plain c) s₁ = .ok (item, s₂) ∧
      place start.position flags true [] item s₂ = .ok (placed, s₃) ∧
      readSequence n placed.1 true placed.2 s₃ = .ok (pieces, s) := by
  have hsplit := Source.splits_of_advance h.starts
  have hnext : start.next = some (.plain c) := by
    change Splits source start.next start.rest at hsplit
    rw [hsource] at hsplit
    exact (hsplit.unique (.plain hescape)).1
  rcases readSequence_ok h.read with ⟨hstops, -⟩ | ⟨this, s₁, item, s₂, placed, s₃, hstep, hrest⟩
  · rw [hstops _ hnext] at hstop
    cases hstop
  · cases hnext.symm.trans hstep.next
    exact ⟨_, s₁, item, s₂, placed, s₃, hstep.reading, hstep.placing, hrest⟩

/-- 繰り返しの向きの印は、直前の部品がなければ書けない。 -/
theorem Branch.shuts_mode (h : Branch source flags start pieces s)
    (hverbose : flags.verbose = false) : Shuts source IsMode := by
  have hnothing : ∀ {mark least most} {s₂ : ReadState} {placed},
      place mark flags true [] (.again least most) s₂ ≠ .ok placed := by
    intro mark least most s₂ placed hplace
    obtain ⟨result, s₃, hrepeat, -⟩ := ok_of_bind hplace
    obtain ⟨last, earlier, body, w, e, hnil, -⟩ := repeatLast_ok hrepeat
    cases hnil
  rintro c rest hsource (rfl | rfl)
  · obtain ⟨n, s₁, item, s₂, placed, s₃, hitem, hplace, -⟩ :=
      h.first_item hsource (by decide) (by decide)
    unfold readItem at hitem
    rw [hverbose] at hitem
    cases hitem
    exact hnothing hplace
  · obtain ⟨n, s₁, item, s₂, placed, s₃, hitem, hplace, -⟩ :=
      h.first_item hsource (by decide) (by decide)
    unfold readItem at hitem
    rw [hverbose] at hitem
    cases hitem
    exact hnothing hplace

/-- 位置の条件だけからなる断片は、数字や読点では始まらない。 -/
theorem Branch.shuts_bound (h : Branch source flags start pieces s)
    (hverbose : flags.verbose = false) (hassert : ∀ q ∈ pieces, q.expr.isAssertion = true) :
    Shuts source IsBound := by
  intro c rest hsource hc
  have hescape : c ≠ '\\' := by
    rintro rfl
    rcases hc with hc | hc | hc <;> cases hc
  have hstop : (Token.plain c).stops = false := by
    rw [Token.stops, Bool.or_eq_false_iff]
    refine ⟨beq_eq_false_iff_ne.mpr ?_, beq_eq_false_iff_ne.mpr ?_⟩ <;>
      · intro heq
        cases heq
        rcases hc with hc | hc | hc <;> cases hc
  obtain ⟨n, s₁, item, s₂, placed, s₃, hitem, hplace, hrest⟩ := h.first_item hsource hescape hstop
  have hpiece : ∀ p, item = .piece p → p.Assertive :=
    (assertive_of_place hplace (assertive_of_readSequence n hrest hassert)).2
  unfold readItem at hitem
  simp only [hverbose, Bool.false_and, Bool.false_eq_true, if_false] at hitem
  -- 特別な意味を持つ字は、どれも数字や読点ではない
  split at hitem <;> try (rcases hc with hc | hc | hc <;> cases hc)
  all_goals
    cases hitem
    exact not_assertive_ofTest _ (hpiece _ rfl)

end Start

/-- 字句がなければ、列はそこで終わる。 -/
theorem readSequence_stops {m : Nat} {flags : Flags} {first : Bool} {taken pieces : List Piece}
    {s s' : ReadState} (hs : s.source.next = none)
    (h : readSequence m flags first taken s = .ok (pieces, s')) :
    pieces = Piece.flatten taken.reverse ∧ s' = s := by
  cases m with
  | zero => exact absurd h (neverOk_fail _ _ _ _)
  | succ m =>
    rcases readSequence_ok h with ⟨-, hpieces, hs'⟩ | ⟨this, _, _, _, _, _, hstep, -⟩
    · exact ⟨hpieces, hs'⟩
    · cases hs.symm.trans hstep.next

/-! ## つないだ式の部品 -/

/-- 同じところから読み始めた、短い文字列と、それに `y` を続けた文字列。 -/
theorem Source.Before.of_splits {x y : Text} {s t : Source} (hs : Splits x s.next s.rest)
    (ht : Splits (x ++ y) t.next t.rest) : s.Before y t := by
  obtain ⟨rest, i, next⟩ := s
  obtain ⟨rest', j, next'⟩ := t
  cases next with
  | none =>
    cases hs
    exact .ended ht
  | some u =>
    obtain ⟨rfl, rfl⟩ := (Splits.append hs y).unique ht
    exact .within

/-- 前者が使い切ったとき、後者は続く文字列の始まりにいる。 -/
theorem Source.Before.splits {y : Text} {s t : Source} (h : s.Before y t) (hs : s.text = []) :
    Splits y t.next t.rest := by
  cases h with
  | within => cases (Source.next_of_text_nil hs).1
  | ended hsplit => exact hsplit

section Join

variable {flags : Flags} {x y : Text} {start : Source} {pieces all below : List Piece}
  {s t u : ReadState} {m : Nat}

/-- 断片を読む読み手を、つないだ文字列を読む途中の読み手と並べる。 -/
theorem Branch.joins (h : Branch x flags start pieces s) (share : Sharing)
    (hverbose : flags.verbose = false)
    (ht : Splits (x ++ y) t.source.next t.source.rest) (hflags : t.flags = flags)
    (hjoint : share = .joint → t.groups = [none] ∧ t.names = [] ∧ t.lookbehindGroups = none)
    (hapart : ∀ groups, share = .apart groups → t.groups = groups ∧ ¬ Drifted s)
    (hmode : Shuts y IsMode)
    (hsafe : Shuts y IsBound ∨ ∀ q ∈ pieces, q.expr.isAssertion = true)
    (hall : readSequence m flags true below t = .ok (all, u)) :
    ∃ m' taken t₁, Follows y share s t₁ ∧ pieces = Piece.flatten taken.reverse ∧
      readSequence m' flags true (taken ++ below) t₁ = .ok (all, u) := by
  have hfollows : Follows y share (.initial start flags) t := by
    refine ⟨.of_splits (Source.splits_of_advance h.starts) ht, hflags, hjoint, fun groups hg => ?_⟩
    exact ⟨⟨rfl, rfl⟩, (hapart groups hg).1⟩
  have hkeep : share ≠ .joint → ¬ Drifted s := by
    intro hne
    cases share with
    | joint => exact absurd rfl hne
    | apart groups => exact (hapart groups rfl).2
  exact readSequence_continues hverbose hmode below _ h.read h.whole hall hfollows rfl h.settled
    hsafe hkeep

/-- 組を持たない断片を読んでも、組と名前は変わらない。 -/
theorem Branch.ungrouped (h : Branch x flags start pieces s) (hs : s.groups.length - 1 = 0) :
    s.groups = [none] ∧ s.names = [] := by
  have hk := keeps_readSequence _ _ _ _ _ _ _ h.read
  have : [none].length ≤ s.groups.length := hk.groups
  rw [List.length_singleton] at this
  exact hk.still (by show s.groups.length = 1; omega)

/-- 組を持たない断片には、組を使った跡がない。 -/
theorem not_drifted (hs : s.groups.length - 1 = 0)
    (href : ∀ r ∈ s.references, r.1 < s.groups.length) : ¬ Drifted s := by
  rintro (hlength | ⟨r, hr, hpos⟩)
  · omega
  · have := href r hr
    omega

theorem Branch.lookbehind (h : Branch x flags start pieces s) : s.lookbehindGroups = none :=
  (keeps_readSequence _ _ _ _ _ _ _ h.read).lookbehind

end Join

/-- 前後に置ける断片。位置の条件だけからなり、組を持たず、組を指さない。 -/
structure Pattern.IsGuard (p : Pattern) : Prop where
  groupless : p.groupCount = 0
  assertion : p.expr.isAssertion = true
  groupFree : p.expr.groupFree = true
  refFree : p.expr.refFree = true

/-- **つないだ式の部品は、三つの断片の部品を並べたものである。** -/
theorem compile_joined {x y z : Text} {flags : Flags} {before body after joined : Pattern}
    (hverbose : flags.verbose = false)
    (hx : isFragment x flags = true) (hbefore : compile x flags = .ok before)
    (hy : isFragment y flags = true) (hbody : compile y flags = .ok body)
    (hz : isFragment z flags = true) (hafter : compile z flags = .ok after)
    (hjoined : compile (x ++ y ++ z) flags = .ok joined)
    (hg : before.IsGuard) (hg' : after.IsGuard) :
    ∃ ps qs rs, before.expr = Piece.exprOf ps ∧ body.expr = Piece.exprOf qs ∧
      after.expr = Piece.exprOf rs ∧ joined.expr = Piece.exprOf (ps ++ (qs ++ rs)) ∧
      joined.groupCount = body.groupCount := by
  obtain ⟨startx, ps, sx, hpx⟩ := branch_of_isFragment hx
  obtain ⟨starty, qs, sy, hpy⟩ := branch_of_isFragment hy
  obtain ⟨startz, rs, sz, hpz⟩ := branch_of_isFragment hz
  obtain ⟨hexprx, hcountx, -⟩ := hpx.compiled hbefore
  obtain ⟨hexpry, hcounty, -⟩ := hpy.compiled hbody
  obtain ⟨hexprz, hcountz, hrefz⟩ := hpz.compiled hafter
  obtain ⟨start, all, u, hstart, hread, hwhole⟩ := compile_ok hjoined
  have hps : ∀ q ∈ ps, q.expr.isAssertion = true := by
    have := hg.assertion
    rwa [hexprx, Piece.isAssertion_exprOf, List.all_eq_true] at this
  have hrs : ∀ q ∈ rs, q.expr.isAssertion = true := by
    have := hg'.assertion
    rwa [hexprz, Piece.isAssertion_exprOf, List.all_eq_true] at this
  rw [List.append_assoc] at hstart
  obtain ⟨hgroupsx, hnamesx⟩ := hpx.ungrouped (hcountx.symm.trans hg.groupless)
  obtain ⟨m₁, takenx, t₁, h₁, rfl, hread₁⟩ := hpx.joins .joint hverbose
    (Source.splits_of_advance hstart) rfl (fun _ => ⟨rfl, rfl, rfl⟩) nofun
    ((hpy.shuts_mode hverbose).append (hpz.shuts_mode hverbose)) (.inr hps) hread
  -- 前の断片は組を持たないので、本体は単独で読むときと同じ状態から読み始める
  obtain ⟨hgroups₁, hnames₁, hlook₁⟩ := h₁.joint rfl
  obtain ⟨m₂, takeny, t₂, h₂, rfl, hread₂⟩ := hpy.joins .joint hverbose
    (h₁.source.splits hpx.whole) (h₁.flags.trans hpx.settled)
    (fun _ => ⟨hgroups₁.trans hgroupsx, hnames₁.trans hnamesx, hlook₁.trans hpx.lookbehind⟩) nofun
    (hpz.shuts_mode hverbose) (.inl (hpz.shuts_bound hverbose hrs)) hread₁
  have hz₂ : Splits (z ++ []) t₂.source.next t₂.source.rest := by
    rw [List.append_nil]
    exact h₂.source.splits hpy.whole
  -- 後ろの断片が組を使わなければ、本体の組と番号は食い違わない
  obtain ⟨m₃, takenz, t₃, h₃, rfl, hread₃⟩ := hpz.joins (.apart t₂.groups) hverbose hz₂
    (h₂.flags.trans hpy.settled) nofun
    (fun groups hgroups => ⟨by cases hgroups; rfl,
      not_drifted (hcountz.symm.trans hg'.groupless) hrefz⟩)
    shuts_nil (.inl shuts_nil) hread₂
  obtain ⟨hnext, hrest⟩ := (h₃.source.splits hpz.whole).unique .nil
  obtain ⟨rfl, rfl⟩ := readSequence_stops hnext hread₃
  have htext : u.source.text = [] := by
    unfold Source.text
    rw [hnext, hrest]
    rfl
  obtain ⟨hexpr, hcount, -⟩ := hwhole htext
  refine ⟨_, _, _, hexprx, hexpry, hexprz, ?_, ?_⟩
  · rw [hexpr, List.append_nil, List.reverse_append, List.reverse_append, Piece.flatten_append,
      Piece.flatten_append, List.append_assoc]
  · rw [hcount, hcounty, (h₃.apart _ rfl).2, (h₂.joint rfl).1]

/-! ## つないだ式の照合 -/

/-- 並べた木は、続けて照合する。 -/
theorem Piece.run_exprOf_append (input : Array Char) (xs ys : List Piece) : ∀ (s : Spot)
    (k : Spot → Option Spot), (exprOf (xs ++ ys)).run input s k
      = (exprOf xs).run input s fun t => (exprOf ys).run input t k := by
  induction xs with
  | nil => exact fun s k => rfl
  | cons p rest ih =>
    intro s k
    cases rest with
    | nil =>
      cases ys with
      | nil => rfl
      | cons q ys => rfl
    | cons q rest =>
      show p.expr.run input s (fun t => (exprOf (q :: rest ++ ys)).run input t k)
        = p.expr.run input s fun t => (exprOf (q :: rest)).run input t fun t =>
          (exprOf ys).run input t k
      simp only [ih]

/-- 位置の条件だけからなる木は、位置を変えない。 -/
theorem Reaches.position_eq {input : Array Char} {e : Expr} {s t : Spot}
    (h : Reaches input e s t) (he : e.isAssertion = true) : t.position = s.position := by
  induction h with
  | test => cases he
  | backref => cases he
  | seq _ _ iha ihb =>
    simp only [Expr.isAssertion, Bool.and_eq_true] at he
    rw [ihb he.2, iha he.1]
  | altLeft _ ih => simp only [Expr.isAssertion, Bool.and_eq_true] at he; exact ih he.1
  | altRight _ ih => simp only [Expr.isAssertion, Bool.and_eq_true] at he; exact ih he.2
  | group _ ih => exact ih he
  | loopMore _ _ _ ih ihr => rw [ihr he, ih he]
  | atomic _ ih => exact ih he
  | present _ _ ih => simp only [Expr.isAssertion, Bool.and_eq_true] at he; exact ih he.1
  | absent _ _ ih => simp only [Expr.isAssertion, Bool.and_eq_true] at he; exact ih he.2
  | _ => rfl

namespace Pattern

/-- 位置 `position` で成り立つか。 -/
def holdsAt (p : Pattern) (input : Array Char) (position : Nat) : Bool :=
  (p.matchAt input position false).isSome

/-- ちょうど `start` から `stop` までに合いうるか。 -/
def fills (p : Pattern) (input : Array Char) (start stop : Nat) : Bool :=
  (p.expr.run input (p.startAt start) fun t => if t.position = stop then some t else none).isSome

theorem matchAt_some {p : Pattern} {input : Array Char} {position : Nat} {m : Match}
    (h : p.matchAt input position false = some m) : ∃ r,
      p.expr.run input (p.startAt (min position input.size)) some = some r ∧
        m.start = min position input.size ∧ m.stop = r.position := by
  simp only [matchAt, Bool.false_and, Bool.false_eq_true, if_false, Option.map_eq_some_iff] at h
  obtain ⟨r, hr, rfl⟩ := h
  exact ⟨r, hr, rfl, rfl⟩

/-- 組を指さない式は、組の印によらず、位置だけで成り立つかどうかが決まる。 -/
theorem holdsAt_of_run {p : Pattern} {input : Array Char} {s : Spot} {k : Spot → Option Spot}
    (hp : p.expr.refFree = true) (hs : s.position ≤ input.size)
    (h : (p.expr.run input s k).isSome = true) : p.holdsAt input s.position = true := by
  have hrun : (p.expr.run input (p.startAt s.position) some).isSome = true :=
    run_related alike_position p.expr (.inl hp) answers_isSome (by rfl) (fun _ _ => rfl) h
  unfold holdsAt matchAt
  rw [Nat.min_eq_left hs, Option.isSome_map]
  exact hrun

/-- 前後に置ける断片は、状態を変えない。 -/
theorem IsGuard.spot_eq {p : Pattern} (hp : p.IsGuard) {input : Array Char} {s t : Spot}
    (h : Reaches input p.expr s t) : t = s := by
  obtain ⟨position, marks⟩ := t
  obtain rfl := h.position_eq hp.assertion
  obtain rfl := h.marks_eq hp.groupFree
  rfl

end Pattern

/-- **つないだ式が合えば、前の断片は始まりで、後ろの断片は終わりで成り立ち、本体はちょうどその間に合う。** -/
theorem matchAt_joined {x y z : Text} {flags : Flags} {before body after joined : Pattern}
    (hverbose : flags.verbose = false)
    (hx : isFragment x flags = true) (hbefore : compile x flags = .ok before)
    (hy : isFragment y flags = true) (hbody : compile y flags = .ok body)
    (hz : isFragment z flags = true) (hafter : compile z flags = .ok after)
    (hjoined : compile (x ++ y ++ z) flags = .ok joined)
    (hg : before.IsGuard) (hg' : after.IsGuard) {input : Array Char} {position : Nat} {m : Match}
    (hm : joined.matchAt input position false = some m) :
    before.holdsAt input m.start = true ∧ after.holdsAt input m.stop = true ∧
      body.fills input m.start m.stop = true := by
  obtain ⟨ps, qs, rs, hps, hqs, hrs, hexpr, hcount⟩ :=
    compile_joined hverbose hx hbefore hy hbody hz hafter hjoined hg hg'
  obtain ⟨r, hrun, hstart, hstop⟩ := Pattern.matchAt_some hm
  have hspot : joined.startAt (min position input.size) = body.startAt m.start := by
    unfold Pattern.startAt
    rw [hcount, hstart]
  have hsize : (body.startAt m.start).position ≤ input.size := by
    show m.start ≤ input.size
    rw [hstart]
    exact Nat.min_le_right _ _
  rw [hexpr, Piece.run_exprOf_append, ← hps, hspot] at hrun
  -- 前の断片は状態を変えないので、本体は始まりの状態から照合する
  obtain ⟨t, ht, hbodyrun⟩ := run_reaches _ _ _ _ hrun
  rw [hg.spot_eq ht, Piece.run_exprOf_append, ← hqs, ← hrs] at hbodyrun
  have hend : ∀ {u : Spot}, after.expr.run input u some = some r → u = r := by
    intro u hu
    obtain ⟨v, hv, hvr⟩ := run_reaches _ _ _ _ hu
    cases hvr
    exact (hg'.spot_eq hv).symm
  obtain ⟨u, hu, hafterrun⟩ := run_reaches _ _ _ _ hbodyrun
  have hlast : u.position = m.stop := by rw [hend hafterrun, hstop]
  refine ⟨?_, ?_, ?_⟩
  · exact Pattern.holdsAt_of_run hg.refFree hsize (by rw [hrun]; rfl)
  · rw [← hlast]
    exact Pattern.holdsAt_of_run hg'.refFree (hu.position_le_size hsize) (by rw [hafterrun]; rfl)
  · refine run_related alike_eq body.expr (.inr sameSpans_eq) (answers_reach r) rfl ?_ hbodyrun
    rintro u _ rfl hur
    rw [if_pos (by rw [hend hur, hstop])]
    rfl

end Tategaki.Regex
