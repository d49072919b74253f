import Tategaki.Proofs.Regex.Reading

/-!
# 揃って進む読み手

式の読み手はどれも、文字列の終わりを覗かない限り揃って進む（`Along`）。ここでは読み手ごとにそれを示す。終わりを
覗きうる読み手には、続く文字列の始まりの字についての条件（`Shuts`）が要る。

集まりや組のように閉じの字を待つ読み手は、終わりに達すれば失敗する。だから、その中で別れても構わない。
-/

namespace Tategaki.Regex

open Read

section Tandem

variable {y : Text} {share : Sharing} {l : Loss}

/-! ## 逆斜線 -/

theorem isDigit_of_isOctalDigit {c : Char} (h : isOctalDigit c = true) : c.isDigit = true := by
  simp only [isOctalDigit, Bool.and_eq_true, decide_eq_true_eq, Char.le_def,
    UInt32.le_iff_toNat_le] at h
  simp only [Char.isDigit, Bool.and_eq_true, decide_eq_true_eq, UInt32.le_iff_toNat_le, ge_iff_le]
  have : '7'.val.toNat = 55 := rfl
  have : '9'.val.toNat = 57 := rfl
  exact ⟨h.1, by omega⟩

/-- 数字で始まらなければ、八進の数字で始まらない。 -/
theorem Shuts.octal (h : Shuts y (·.isDigit = true)) : Shuts y (isOctalDigit · = true) :=
  fun c rest hy hc => h c rest hy (isDigit_of_isOctalDigit hc)

theorem along_fixedHex (c : Char) (count : Nat) :
    Along y share l (fixedHex c count) (fixedHex c count) := by
  refine along_takeUpTo_bind (fun digits => ?_) fun digits hshort => ?_
  · exact along_ite (fun _ => along_fail) fun _ => along_pure _
  · rw [if_pos (bne_iff_ne.mpr hshort)]
    exact neverOk_fail _ _

theorem along_numericEscape (c : Char) :
    Along y share l (numericEscape c) (numericEscape c) := by
  unfold numericEscape
  split
  · exact (along_fixedHex _ _).bind fun _ => along_pure _
  · exact (along_fixedHex _ _).bind fun _ => along_pure _
  · refine along_takeUpTo_bind (fun digits => ?_) fun digits hshort => ?_
    · exact along_ite (fun _ => along_fail) fun _ => along_ite (fun _ => along_fail) fun _ =>
        along_pure _
    · dsimp only
      rw [if_pos (bne_iff_ne.mpr hshort)]
      exact neverOk_fail _ _
  · -- 文字の名前は、どれも知らない
    refine NeverOk.along (.of_bind fun braced => ?_)
    split
    · exact neverOk_fail _ _
    · exact .of_bind fun _ => neverOk_fail _ _
  · exact along_pure _

theorem along_literalEscape (c : Char) :
    Along y share l (literalEscape c) (literalEscape c) :=
  along_ite (fun _ => along_fail) fun _ => along_pure _

theorem along_readSetEscape (hl : l ≠ .nothing) (flags : Flags) (c : Char) :
    Along y share l (readSetEscape flags c) (readSetEscape flags c) := by
  unfold readSetEscape
  split
  · exact along_pure _
  · split
    · exact along_pure _
    · refine (along_numericEscape c).bind fun number => ?_
      cases number with
      | some n => exact along_pure _
      | none =>
        refine along_ite (fun _ => ?_) fun _ => (along_literalEscape c).bind fun _ => along_pure _
        refine (along_takeUpTo (fun h => absurd h hl) 2).bind fun digits => ?_
        exact along_ite (fun _ => along_fail) fun _ => along_pure _

/-! ## 組への参照 -/

theorem along_checkLookbehind_joint (number : Nat) :
    Along y .joint l (checkLookbehind number) (checkLookbehind number) := by
  refine views_lookbehindStart.along_bind_eq (fun hs => (hs.joint rfl).2.2) fun before => ?_
  cases before with
  | none => exact along_pure _
  | some before =>
    refine (views_groupWidth number).along_bind_eq ?_ fun w => ?_
    · intro s t hs
      rw [(hs.joint rfl).1]
    · exact along_ite (fun _ => along_fail) fun _ => along_ite (fun _ => along_fail) fun _ =>
        along_pure _

/-- 組のない状態には、閉じた組がない。 -/
theorem Bare.groupWidth {s : ReadState} (h : Bare s) (number : Nat) :
    s.groups[number]?.join = none := by
  rw [h.1]
  cases number <;> rfl

/-- 組を共有しない前者は、参照できる組を持たない。 -/
theorem along_backreference (flags : Flags) (number back : Nat) :
    Along y share l (backreference flags number back) (backreference flags number back) := by
  refine Along.of_joint ?_ fun {s} _ _ hbare h => ?_
  · refine (views_groupWidth number).along_bind_eq ?_ fun w => ?_
    · intro s t hs
      rw [(hs.joint rfl).1]
    · cases w with
      | none => exact along_fail
      | some w => exact (along_checkLookbehind_joint number).bind fun _ => along_pure _
  · unfold backreference at h
    rw [(views_groupWidth number).bind, hbare.groupWidth] at h
    exact absurd h (neverOk_fail _ _ _ _)

/-- 続く文字列が数字で始まらなければ、番号の終わりは変わらない。 -/
theorem along_readReference (hl : l = .nothing → Shuts y (·.isDigit = true)) (flags : Flags)
    (c : Char) : Along y share l (readReference flags c) (readReference flags c) := by
  have hoctal : l = .nothing → Shuts y (isOctalDigit · = true) := fun h => (hl h).octal
  have hthird : ∀ second, Along y share l (thirdDigit c second) (thirdDigit c second) := by
    intro second
    unfold thirdDigit
    split
    · exact along_ite (fun _ => along_takeUpTo hoctal 1) fun _ => along_pure _
    · exact along_pure _
  refine (along_takeUpTo hl 1).bind fun second => (hthird second).bind fun third => ?_
  refine along_ite (fun _ => along_ite (fun _ => along_fail) fun _ => along_pure _) fun _ => ?_
  refine Along.of_joint ?_ fun {s} _ _ hbare h => ?_
  · refine views_groupCount.along_bind_eq ?_ fun count => ?_
    · intro s t hs
      rw [(hs.joint rfl).1]
    · exact along_ite (fun _ => along_backreference _ _ _) fun _ => along_fail
  · rw [views_groupCount.bind] at h
    split at h
    · unfold backreference at h
      rw [(views_groupWidth _).bind, hbare.groupWidth] at h
      exact absurd h (neverOk_fail _ _ _ _)
    · exact absurd h (neverOk_fail _ _ _ _)

/-- 位置の条件の略記は、続きを見ない。ほかは、続く文字列が数字で始まらなければよい。 -/
theorem along_readEscape (flags : Flags) (c : Char)
    (hl : l = .nothing → anchorEscape flags c = none → Shuts y (·.isDigit = true)) :
    Along y share l (readEscape flags c) (readEscape flags c) := by
  unfold readEscape
  split
  · exact along_pure _
  · exact along_pure _
  · exact along_pure _
  · next hanchor _ _ =>
    have hdigit : l = .nothing → Shuts y (·.isDigit = true) := fun h => hl h hanchor
    refine (along_numericEscape c).bind fun number => ?_
    cases number with
    | some n => exact along_pure _
    | none =>
      refine along_ite (fun _ => ?_) fun _ => along_ite (fun _ => ?_) fun _ => ?_
      · exact (along_takeUpTo (fun h => (hdigit h).octal) 2).bind fun _ => along_pure _
      · exact along_readReference hdigit flags c
      · exact (along_literalEscape c).bind fun _ => along_pure _

/-! ## 文字の集まり -/

theorem along_readSetAtom (hl : l ≠ .nothing) (flags : Flags) (t : Token) :
    Along y share l (readSetAtom flags t) (readSetAtom flags t) := by
  cases t with
  | plain c => exact along_pure _
  | escaped c => exact along_readSetEscape hl flags c

/-- 閉じていないものを指す失敗。 -/
theorem neverOk_unterminated {α : Type} (kind : ErrorKind) (start : Nat) :
    NeverOk (do fail kind ((← position) - start) : Read α) := .of_bind fun _ => neverOk_fail _ _

/-- 集まりは、終わりに達すれば失敗する。 -/
theorem failsAt_setLoop (flags : Flags) (start n : Nat) (items : List SetItem) :
    FailsAt .ended (setLoop flags start n items) := by
  cases n with
  | zero => exact (neverOk_unterminated _ _).failsAt
  | succ n => exact failsAt_take_bind (neverOk_unterminated _ _).failsAt

theorem along_setLoop (flags : Flags) (n : Nat) : ∀ (n' start start' : Nat) (items : List SetItem),
    Along y share l (setLoop flags start n items) (setLoop flags start' n' items) := by
  induction n with
  | zero => exact fun _ _ _ _ => (neverOk_unterminated _ _).along
  | succ n ih =>
    intro n' start start' items
    refine along_fuel (f := fun n' => setLoop flags start' n' items)
      (neverOk_unterminated _ _) (fun n' => ?_) n'
    refine along_take_bind (fun this => ?_) (neverOk_unterminated _ _).failsAt
    cases this with
    | none => exact (neverOk_unterminated _ _).along
    | some this =>
      refine along_ite (fun _ => along_pure _) fun _ => ?_
      -- 要素の読み手は終わりを覗きうるが、その後は閉じの括弧を待って失敗する
      refine (along_readSetAtom (nofun : Loss.ended ≠ .nothing) flags this).bind_closing
        (fun first => (along_accept (l := .ended) nofun).bind_closing (fun ranged => ?_)
          fun ranged => ?_)
        fun first => (keeps_accept _).failsAt_bind fun ranged => ?_
      · refine along_ite (fun _ => ?_) fun _ => ih n' start start' _
        refine along_take_bind (fun that => ?_) (neverOk_unterminated _ _).failsAt
        cases that with
        | none => exact (neverOk_unterminated _ _).along
        | some that =>
          refine along_ite (fun _ => along_pure _) fun _ => ?_
          refine (along_readSetAtom (nofun : Loss.ended ≠ .nothing) flags that).bind_closing
            (fun last => ?_) fun last => ?_
          · dsimp only
            split
            · exact along_ite (fun _ => along_fail) fun _ => ih n' start start' _
            · exact along_fail
          · dsimp only
            split
            · exact failsAt_ite (fun _ => (neverOk_fail _ _).failsAt) fun _ =>
                failsAt_setLoop _ _ _ _
            · exact (neverOk_fail _ _).failsAt
      · exact failsAt_ite (fun _ => failsAt_take_bind (neverOk_unterminated _ _).failsAt)
          fun _ => failsAt_setLoop _ _ _ _
      · exact failsAt_ite (fun _ => failsAt_take_bind (neverOk_unterminated _ _).failsAt)
          fun _ => failsAt_setLoop _ _ _ _

theorem along_readSet (flags : Flags) : Along y share l (readSet flags) (readSet flags) := by
  refine views_position.along_bind fun start start' => ?_
  refine (along_accept (l := .ended) nofun).bind_closing (fun negated => ?_)
    fun negated => ?_
  · refine views_remaining.along_bind fun n n' => ?_
    refine (along_setLoop flags n n' _ _ _).bind fun items => ?_
    dsimp only
    split <;> exact along_pure _
  · exact views_remaining.failsAt_bind fun n => (failsAt_setLoop _ _ _ _).bind

/-! ## 繰り返しの回数 -/

/-- 回数の書き方に現れる字。 -/
def IsBound (c : Char) : Prop := c.isDigit = true ∨ c = ',' ∨ c = '}'

theorem along_readCount (digits : Text) : Along y share l (readCount digits) (readCount digits) :=
  along_ite (fun _ => (neverOk_fault _).along) fun _ =>
    along_ite (fun _ => (neverOk_fault _).along) fun _ => along_pure _

theorem along_readCounts (here here' : Nat) (low high : Text) :
    Along y share l (readCounts here low high) (readCounts here' low high) := by
  refine Along.bind (along_ite (fun _ => along_pure _) fun _ => along_readCount low) fun least => ?_
  refine along_ite (fun _ => along_pure _) fun _ => (along_readCount high).bind fun most => ?_
  exact along_ite (fun _ => (neverOk_unterminated _ _).along) fun _ => along_pure _

theorem keeps_readCounts (here : Nat) (low high : Text) : Keeps (readCounts here low high) :=
  have h : Along [] .joint .ended (readCounts here low high) (readCounts here low high) :=
    along_readCounts here here low high
  h.keeps

theorem along_readMost (hl : l = .nothing → Shuts y IsBound) (low : Text) :
    Along y share l (readMost low) (readMost low) := by
  refine (along_accept fun h c rest hy hc => hl h c rest hy (.inr (.inl hc))).bind fun more => ?_
  refine along_ite (fun _ => along_takeAll fun h c rest hy hc => ?_) fun _ => along_pure _
  exact hl h c rest hy (.inl hc)

theorem keeps_readMost (low : Text) : Keeps (readMost low) := by
  refine (keeps_accept ',').bind fun more => ?_
  cases more with
  | true => exact keeps_takeAll _
  | false => exact keeps_pure low

/-- 読み取れなければ、読み手は元の位置に戻る。 -/
theorem attempt_ok {α : Type} {r : Read (Option α)} {s s' : ReadState} {a : Option α}
    (h : attempt r s = .ok (a, s')) :
    (∃ x, a = some x ∧ r s = .ok (some x, s')) ∨
      (a = none ∧ ∃ s₁, r s = .ok (none, s₁) ∧ s' = { s₁ with source := s.source }) := by
  unfold attempt at h
  obtain ⟨saved, s₀, hget, h⟩ := ok_of_bind h
  cases hget
  obtain ⟨result, s₁, hr, h⟩ := ok_of_bind h
  cases result with
  | some x =>
    cases h
    exact .inl ⟨x, rfl, hr⟩
  | none =>
    cases h
    exact .inr ⟨rfl, s₁, hr, rfl⟩

theorem readRange_ok {s s' : ReadState} {a : Option (Text × Text)}
    (h : readRange s = .ok (a, s')) :
    ∃ low s₁ high s₂, takeAll Char.isDigit s = .ok (low, s₁) ∧ readMost low s₁ = .ok (high, s₂) ∧
      ∃ closes, accept '}' s₂ = .ok (closes, s') ∧
        a = if closes then some (low, high) else none := by
  obtain ⟨low, s₁, hlow, h⟩ := ok_of_bind h
  obtain ⟨high, s₂, hhigh, h⟩ := ok_of_bind h
  obtain ⟨closes, s₃, hclose, h⟩ := ok_of_bind h
  refine ⟨low, s₁, high, s₂, hlow, hhigh, closes, ?_⟩
  cases closes with
  | true => cases h; exact ⟨hclose, rfl⟩
  | false => cases h; exact ⟨hclose, rfl⟩

/-- 回数の途中で残りが数字と読点だけになれば、始めからそうである。 -/
theorem trapped_of_readMost {s s₁ s₂ : ReadState} {low high : Text}
    (hlow : takeAll Char.isDigit s = .ok (low, s₁)) (hhigh : readMost low s₁ = .ok (high, s₂))
    (h : Loss.trapped.At s₂) : Loss.trapped.At s := by
  have hdigits : ∀ {s s' : ReadState} {taken : Text}, takeAll Char.isDigit s = .ok (taken, s') →
      Loss.trapped.At s' → Loss.trapped.At s := by
    intro s s' taken htake hs' c hc
    exact (mem_text_of_takeUpTo htake c hc).elim .inl (hs' c)
  refine hdigits hlow ?_
  obtain ⟨more, s₃, haccept, hrest⟩ := ok_of_bind hhigh
  have hs₃ : Loss.trapped.At s₃ := by
    cases more with
    | true => exact hdigits hrest h
    | false => cases hrest; exact h
  exact fun c hc => (mem_text_of_accept haccept hc).elim .inr (hs₃ c)

theorem closing_brace_ne : ¬ ('}'.isDigit = true ∨ '}' = ',') := by decide

/-- **回数の形でなければ前者は数字と読点だけになっている。そうでなければ、回数は揃って読める。** -/
theorem readRange_sync {s t s' t' : ReadState} {a b : Option (Text × Text)}
    (hl : l = .trapped ∨ l = .nothing ∧ Shuts y IsBound) (hs : Follows y share s t)
    (h : readRange s = .ok (a, s')) (h' : readRange t = .ok (b, t')) :
    (a = none ∧ l.At s) ∨ (share ≠ .joint ∧ Drifted s') ∨ (Follows y share s' t' ∧ a = b) := by
  have hshuts : l = .nothing → Shuts y IsBound := by
    rintro rfl
    exact hl.elim nofun And.right
  obtain ⟨low, s₁, high, s₂, hlow, hhigh, closes, hclose, rfl⟩ := readRange_ok h
  obtain ⟨low', t₁, high', t₂, hlow', hhigh', closes', hclose', rfl⟩ := readRange_ok h'
  have hlost : l.At s₂ → closes = false ∧ l.At s := by
    intro hat
    rcases hl with rfl | ⟨rfl, -⟩
    · rcases accept_ok hclose with ⟨-, hnext, -⟩ | ⟨rfl, -, -⟩
      · exact absurd hnext (hat.next_ne closing_brace_ne)
      · exact ⟨rfl, trapped_of_readMost hlow hhigh hat⟩
    · exact hat.elim
  have hkeeps : Kept s₂ s' := keeps_accept _ _ _ _ hclose
  -- 二つの数字の列を読むところまでは、失わない限り揃って進む
  have hdigits : Along y share l
      (takeAll Char.isDigit >>= fun low => readMost low >>= fun high => pure (low, high))
      (takeAll Char.isDigit >>= fun low => readMost low >>= fun high => pure (low, high)) :=
    (along_takeAll fun hn c rest hy hc => hshuts hn c rest hy (.inl hc)).bind fun low =>
      (along_readMost hshuts low).bind fun high => along_pure _
  have hread : ∀ {s s₁ s₂ : ReadState} {low high : Text}, takeAll Char.isDigit s = .ok (low, s₁) →
      readMost low s₁ = .ok (high, s₂) →
      (takeAll Char.isDigit >>= fun low => readMost low >>= fun high => pure (low, high)) s
        = .ok ((low, high), s₂) := by
    intro s s₁ s₂ low high hlow hhigh
    rw [bind_of_ok hlow, bind_of_ok hhigh]
    rfl
  rcases hdigits.sync hs (hread hlow hhigh) (hread hlow' hhigh') with hat | ⟨hapart, hdrift⟩ |
      ⟨hs₂, heq⟩
  · obtain ⟨rfl, hat⟩ := hlost hat
    exact .inl ⟨rfl, hat⟩
  · exact .inr (.inl ⟨hapart, hkeeps.drifted hdrift⟩)
  · obtain ⟨rfl, rfl⟩ := Prod.mk.inj heq
    by_cases htext : s₂.source.text = []
    · rcases hl with rfl | ⟨rfl, hguard⟩
      · obtain ⟨rfl, hat⟩ := hlost (Loss.at_of_text_nil nofun htext)
        exact .inl ⟨rfl, hat⟩
      · have hbrace : Shuts y (· = '}') := fun c rest hy hc => hguard c rest hy (.inr (.inr hc))
        rcases (along_accept (l := .nothing) fun _ => hbrace).sync hs₂ hclose hclose' with hat |
            hdrift | ⟨hs', rfl⟩
        · exact hat.elim
        · exact .inr (.inl hdrift)
        · exact .inr (.inr ⟨hs', rfl⟩)
    · obtain ⟨hs', rfl⟩ := hs₂.accept (hs₂.source.next_eq htext).1 hclose hclose'
      exact .inr (.inr ⟨hs', rfl⟩)

theorem keeps_readRange : Keeps readRange := by
  refine (keeps_takeAll _).bind fun low => (keeps_readMost low).bind fun high => ?_
  refine (keeps_accept '}').bind fun closes => ?_
  cases closes <;> exact keeps_pure _

theorem Keeps.attempt {α : Type} {r : Read (Option α)} (h : Keeps r) : Keeps (attempt r) := by
  intro s a s' hr
  rcases attempt_ok hr with ⟨x, rfl, hx⟩ | ⟨rfl, s₁, hs₁, rfl⟩
  · exact h s _ s' hx
  · have hk := h s _ s₁ hs₁
    exact ⟨List.suffix_rfl, hk.flags, hk.groups, hk.still, hk.references, hk.lookbehind⟩

/-- 回数の形でなければ、字句は元の位置に戻る。 -/
theorem attempt_readRange_sync {s t s' t' : ReadState} {a b : Option (Text × Text)}
    (hl : l = .trapped ∨ l = .nothing ∧ Shuts y IsBound) (hs : Follows y share s t)
    (h : attempt readRange s = .ok (a, s')) (h' : attempt readRange t = .ok (b, t')) :
    (a = none ∧ l.At s') ∨ (share ≠ .joint ∧ Drifted s') ∨ (Follows y share s' t' ∧ a = b) := by
  have hback : ∀ {u u' : ReadState}, Follows y share u u' →
      Follows y share { u with source := s.source } { u' with source := t.source } :=
    fun hu => ⟨hs.source, hu.flags, hu.joint, hu.apart⟩
  rcases attempt_ok h with ⟨x, rfl, hx⟩ | ⟨rfl, s₁, hs₁, rfl⟩ <;>
    rcases attempt_ok h' with ⟨x', rfl, hx'⟩ | ⟨rfl, t₁, ht₁, rfl⟩
  · rcases readRange_sync hl hs hx hx' with ⟨hnone, -⟩ | hrest
    · cases hnone
    · exact .inr hrest
  · rcases readRange_sync hl hs hx ht₁ with ⟨hnone, -⟩ | hdrift | ⟨-, heq⟩
    · cases hnone
    · exact .inr (.inl hdrift)
    · cases heq
  · rcases readRange_sync hl hs hs₁ hx' with ⟨-, hat⟩ | hdrift | ⟨-, heq⟩
    · exact .inl ⟨rfl, hat.congr rfl⟩
    · exact .inr (.inl hdrift)
    · cases heq
  · rcases readRange_sync hl hs hs₁ ht₁ with ⟨-, hat⟩ | hdrift | ⟨hrest, -⟩
    · exact .inl ⟨rfl, hat.congr rfl⟩
    · exact .inr (.inl hdrift)
    · exact .inr (.inr ⟨hback hrest, rfl⟩)

/-- 残りが数字と読点だけなら、回数の形ではない。 -/
theorem readRange_of_trapped {s s' : ReadState} {a : Option (Text × Text)}
    (hs : Loss.trapped.At s) (h : readRange s = .ok (a, s')) : a = none := by
  obtain ⟨low, s₁, high, s₂, hlow, hhigh, closes, hclose, rfl⟩ := readRange_ok h
  have hs₂ : Loss.trapped.At s₂ :=
    hs.kept ((keeps_takeAll _ s low s₁ hlow).trans (keeps_readMost low s₁ high s₂ hhigh))
  rcases accept_ok hclose with ⟨-, hnext, -⟩ | ⟨rfl, -, -⟩
  · exact absurd hnext (hs₂.next_ne closing_brace_ne)
  · rfl

/-- 読み取った数字から回数を読む。 -/
theorem readBounds_ok {s s' : ReadState} {a : Option (Nat × Option Nat)}
    (h : readBounds s = .ok (a, s')) :
    (s.source.next = some (.plain '}') ∧ a = none ∧ s' = s) ∨
      (s.source.next ≠ some (.plain '}') ∧ ∃ range s₁, attempt readRange s = .ok (range, s₁) ∧
        (range = none ∧ a = none ∧ s' = s₁ ∨ ∃ low high counts, range = some (low, high) ∧
          a = some counts ∧ readCounts s.source.position low high s₁ = .ok (counts, s'))) := by
  unfold readBounds at h
  rw [views_position.bind, views_peek.bind] at h
  split at h
  · next hbrace =>
    cases h
    exact .inl ⟨by simpa using hbrace, rfl, rfl⟩
  · next hbrace =>
    obtain ⟨range, s₁, hrange, h⟩ := ok_of_bind h
    refine .inr ⟨by simpa using hbrace, range, s₁, hrange, ?_⟩
    cases range with
    | none => cases h; exact .inl ⟨rfl, rfl, rfl⟩
    | some range =>
      obtain ⟨counts, s₂, hcounts, h⟩ := ok_of_bind h
      cases h
      exact .inr ⟨range.1, range.2, counts, rfl, rfl, hcounts⟩

/-- **回数の形でなければ前者は数字と読点だけになっている。そうでなければ、回数は揃って読める。** -/
theorem readBounds_sync {s t s' t' : ReadState} {a b : Option (Nat × Option Nat)}
    (hl : l = .trapped ∨ l = .nothing ∧ Shuts y IsBound) (hs : Follows y share s t)
    (h : readBounds s = .ok (a, s')) (h' : readBounds t = .ok (b, t')) :
    (a = none ∧ l.At s') ∨ (share ≠ .joint ∧ Drifted s') ∨ (Follows y share s' t' ∧ a = b) := by
  by_cases hat : l.At s ∧ s.source.text = []
  · -- 使い切っているので、回数の形ではない
    obtain ⟨hat, htext⟩ := hat
    have htrapped : Loss.trapped.At s := Loss.at_of_text_nil nofun htext
    rcases readBounds_ok h with ⟨-, rfl, rfl⟩ | ⟨-, range, s₁, hrange, hrest⟩
    · exact .inl ⟨rfl, hat⟩
    · rcases attempt_ok hrange with ⟨x, -, hx⟩ | ⟨rfl, s₂, -, rfl⟩
      · cases readRange_of_trapped htrapped hx
      · rcases hrest with ⟨-, rfl, rfl⟩ | ⟨low, high, counts, hnone, -⟩
        · exact .inl ⟨rfl, hat.congr rfl⟩
        · cases hnone
  · have hnext : t.source.next = some (.plain '}') ↔ s.source.next = some (.plain '}') := by
      by_cases htext : s.source.text = []
      · rcases hl with rfl | ⟨rfl, hguard⟩
        · exact absurd ⟨Loss.at_of_text_nil nofun htext, htext⟩ hat
        · refine ⟨fun ht => ?_, fun hs' => ?_⟩
          · obtain ⟨rest, hrest⟩ := hs.source.next_ended htext ht
            exact absurd (.inr (.inr rfl)) (hguard _ rest hrest)
          · rw [(Source.next_of_text_nil htext).1] at hs'
            cases hs'
      · rw [(hs.source.next_eq htext).1]
    rcases readBounds_ok h with ⟨hbrace, rfl, rfl⟩ | ⟨hbrace, range, s₁, hrange, hrest⟩ <;>
      rcases readBounds_ok h' with ⟨hbrace', rfl, rfl⟩ | ⟨hbrace', range', t₁, hrange', hrest'⟩
    · exact .inr (.inr ⟨hs, rfl⟩)
    · exact absurd (hnext.mpr hbrace) hbrace'
    · exact absurd (hnext.mp hbrace') hbrace
    · rcases attempt_readRange_sync hl hs hrange hrange' with ⟨rfl, hlost⟩ | ⟨hapart, hdrift⟩ |
          ⟨hs₁, rfl⟩
      · rcases hrest with ⟨-, rfl, rfl⟩ | ⟨low, high, counts, hnone, -⟩
        · exact .inl ⟨rfl, hlost⟩
        · cases hnone
      · refine .inr (.inl ⟨hapart, ?_⟩)
        rcases hrest with ⟨-, -, rfl⟩ | ⟨low, high, counts, -, -, hcounts⟩
        · exact hdrift
        · exact (keeps_readCounts _ _ _ _ _ _ hcounts).drifted hdrift
      · rcases hrest with ⟨rfl, rfl, rfl⟩ | ⟨low, high, counts, rfl, rfl, hcounts⟩ <;>
          rcases hrest' with ⟨hnone, rfl, rfl⟩ | ⟨low', high', counts', hsome, rfl, hcounts'⟩
        · exact .inr (.inr ⟨hs₁, rfl⟩)
        · cases hsome
        · cases hnone
        · cases hsome
          rcases (along_readCounts (l := .nothing) _ _ _ _).sync hs₁ hcounts hcounts' with hlost |
              hdrift | ⟨hs', rfl⟩
          · exact hlost.elim
          · exact .inr (.inl hdrift)
          · exact .inr (.inr ⟨hs', rfl⟩)

theorem keeps_readBounds : Keeps readBounds := by
  refine views_position.keeps.bind fun here => views_peek.keeps.bind fun next => ?_
  split
  · exact keeps_pure _
  · refine keeps_readRange.attempt.bind fun range => ?_
    cases range with
    | none => exact keeps_pure _
    | some range =>
      exact (keeps_readCounts here _ _).bind fun _ => keeps_pure _

theorem along_readBounds (hl : l = .trapped ∨ l = .nothing ∧ Shuts y IsBound) :
    Along y share l readBounds readBounds := by
  refine ⟨keeps_readBounds, fun hs h h' => ?_⟩
  rcases readBounds_sync hl hs h h' with ⟨-, hlost⟩ | hrest
  · exact .inl hlost
  · exact .inr hrest

/-! ## 繰り返し -/

/-- 繰り返しの向きの印か。 -/
def IsMode (c : Char) : Prop := c = '?' ∨ c = '+'

theorem along_readLoop (hl : l = .nothing → Shuts y IsMode) (least : Nat) (most : Option Nat)
    (body : Expr) : Along y share l (readLoop least most body) (readLoop least most body) := by
  refine (along_accept fun h c rest hy hc => hl h c rest hy (.inl hc)).bind fun lazy => ?_
  refine along_ite (fun _ => along_pure _) fun _ => ?_
  refine (along_accept fun h c rest hy hc => hl h c rest hy (.inr hc)).bind fun possessive => ?_
  exact along_ite (fun _ => along_pure _) fun _ => along_pure _

theorem along_repeatLast (hl : l = .nothing → Shuts y IsMode) (mark mark' least : Nat)
    (most : Option Nat) (taken : List Piece) :
    Along y share l (repeatLast mark least most taken) (repeatLast mark' least most taken) := by
  refine views_position.along_bind fun back back' => ?_
  cases taken with
  | nil => exact along_fail
  | cons last earlier =>
    dsimp only
    cases last.repeatable with
    | error kind => exact along_fail
    | ok body => exact (along_readLoop hl least most body.1).bind fun _ => along_pure _

/-! ## 指定 -/

theorem neverOk_flagFailure {α : Type} (t : Token) (otherwise : ErrorKind) :
    NeverOk (flagFailure t otherwise : Read α) := neverOk_fail _ _

theorem along_addedFlags (n : Nat) : ∀ (n' : Nat) (c : Char) (added : Flags),
    Along y share l (addedFlags n c added) (addedFlags n' c added) := by
  induction n with
  | zero => exact fun _ _ _ => along_fail
  | succ n ih =>
    intro n' c added
    refine along_fuel (f := fun n' => addedFlags n' c added) (neverOk_fail _ _) (fun n' => ?_) n'
    unfold addedFlags
    cases flagOf c with
    | none => exact along_fail
    | some flag =>
      refine along_ite (fun _ => along_fail) fun _ => ?_
      refine along_take_plain (fun d => ?_) (neverOk_fail _ _) fun _ => neverOk_flagFailure _ _
      exact along_ite (fun _ => along_pure _) fun _ => along_ite (fun _ => ih n' d _) fun _ =>
        (neverOk_flagFailure _ _).along

theorem along_removedFlags (n : Nat) : ∀ (n' : Nat) (c : Char) (removed : Flags),
    Along y share l (removedFlags n c removed) (removedFlags n' c removed) := by
  induction n with
  | zero => exact fun _ _ _ => along_fail
  | succ n ih =>
    intro n' c removed
    refine along_fuel (f := fun n' => removedFlags n' c removed) (neverOk_fail _ _)
      (fun n' => ?_) n'
    unfold removedFlags
    cases flagOf c with
    | none => exact along_fail
    | some flag =>
      refine along_ite (fun _ => along_fail) fun _ => ?_
      refine along_take_plain (fun d => ?_) (neverOk_fail _ _) fun _ => neverOk_flagFailure _ _
      exact along_ite (fun _ => along_pure _) fun _ => along_ite (fun _ => ih n' d _) fun _ =>
        (neverOk_flagFailure _ _).along

theorem along_trailingFlags (n n' : Nat) (mark : Char) :
    Along y share l (trailingFlags n mark) (trailingFlags n' mark) := by
  refine along_ite (fun _ => along_pure _) fun _ => ?_
  refine along_take_plain (fun d => ?_) (neverOk_fail _ _) fun _ => neverOk_flagFailure _ _
  exact along_ite (fun _ => along_removedFlags n n' d _) fun _ => (neverOk_flagFailure _ _).along

/-- 式全体に掛かる指定を加える。 -/
theorem along_addFlags (added : Flags) :
    Along y share l (modify fun s => { s with flags := s.flags.union added } : Read Unit)
      (modify fun s => { s with flags := s.flags.union added }) := by
  refine along_modify (fun s => ?_) fun {s t} hs => ?_
  · refine ⟨List.suffix_rfl, ?_, Nat.le_refl _, fun _ => ⟨rfl, rfl⟩, List.prefix_rfl, rfl⟩
    show s.flags.union (s.flags.union added) = s.flags.union added
    rw [← Flags.union_assoc, Flags.union_self]
  · refine ⟨hs.source, ?_, hs.joint, hs.apart⟩
    show t.flags.union added = s.flags.union added
    rw [hs.flags]

theorem along_readFlags (c : Char) : Along y share l (readFlags c) (readFlags c) := by
  refine views_remaining.along_bind fun n n' => ?_
  refine Along.bind (along_ite (fun _ => along_pure _) fun _ => along_addedFlags n n' c _) ?_
  rintro ⟨added, mark⟩
  refine along_ite (fun _ => (along_addFlags added).bind fun _ => along_pure _) fun _ => ?_
  refine along_ite (fun _ => along_fail) fun _ => ?_
  refine (along_trailingFlags n n' mark).bind fun removed => ?_
  exact along_ite (fun _ => along_fail) fun _ => along_ite (fun _ => along_fail) fun _ =>
    along_pure _

/-! ## 注釈 -/

theorem keeps_skipLine (n : Nat) : Keeps (skipLine n) := by
  induction n with
  | zero => exact keeps_pure _
  | succ n ih =>
    refine keeps_take.bind fun t => ?_
    cases t with
    | none => exact keeps_pure _
    | some t =>
      dsimp only
      split
      · exact keeps_pure _
      · exact ih

/-- 行末の注釈は、終わりまで続きうる。 -/
theorem skipLine_sync (hl : l ≠ .nothing) (n : Nat) : ∀ {n' : Nat} {s t s' t' : ReadState}
    {a b : Unit}, s.source.text.length ≤ n → t.source.text.length ≤ n' → Follows y share s t →
      skipLine n s = .ok (a, s') → skipLine n' t = .ok (b, t') →
      l.At s' ∨ Follows y share s' t' := by
  induction n with
  | zero =>
    intro n' s t s' t' a b hn _ _ h _
    cases h
    exact .inl (Loss.at_of_text_nil hl (List.eq_nil_of_length_eq_zero (Nat.le_zero.mp hn)))
  | succ n ih =>
    intro n' s t s' t' a b hn hn' hs h h'
    by_cases htext : s.source.text = []
    · exact .inl ((Loss.at_of_text_nil hl htext).kept (keeps_skipLine _ _ _ _ h))
    · have hlength := congrArg List.length hs.source.text_eq
      rw [List.length_append] at hlength
      have hpos := List.length_pos_iff.mpr htext
      obtain ⟨n', rfl⟩ := Nat.exists_eq_succ_of_ne_zero (by omega : n' ≠ 0)
      obtain ⟨c, s₁, hc, h⟩ := ok_of_bind h
      obtain ⟨d, t₁, hd, h'⟩ := ok_of_bind h'
      obtain ⟨hs₁, rfl⟩ := hs.take (hs.source.next_eq htext).2 hc hd
      cases c with
      | none =>
        cases h
        cases h'
        exact .inr hs₁
      | some c =>
        have hshort := length_text_of_take hc
        have hshort' := length_text_of_take hd
        dsimp only at h h'
        split at h
        · next hline =>
          rw [if_pos hline] at h'
          cases h
          cases h'
          exact .inr hs₁
        · next hline =>
          rw [if_neg hline] at h'
          exact ih (by omega) (by omega) hs₁ h h'

theorem along_skipLineComment (hl : l ≠ .nothing) :
    Along y share l skipLineComment skipLineComment := by
  refine ⟨views_remaining.keeps.bind keeps_skipLine, fun {s t _ _ _ _} hs h h' => ?_⟩
  unfold skipLineComment at h h'
  rw [views_remaining.bind] at h h'
  rcases skipLine_sync hl _ (length_text_le s.source) (length_text_le t.source) hs h h' with
    hlost | hs'
  · exact .inl hlost
  · exact .inr (.inr ⟨hs', rfl⟩)

theorem failsAt_skipComment (start n : Nat) : FailsAt .ended (skipComment start n) := by
  cases n with
  | zero => exact (neverOk_unterminated _ _).failsAt
  | succ n =>
    intro s x hs hx
    unfold skipComment at hx
    rw [views_peek.bind, (Source.next_of_text_nil hs).1] at hx
    exact neverOk_unterminated _ _ _ _ hx

theorem along_skipComment (n : Nat) : ∀ (n' start start' : Nat),
    Along y share l (skipComment start n) (skipComment start' n') := by
  induction n with
  | zero => exact fun _ _ _ => (neverOk_unterminated _ _).along
  | succ n ih =>
    intro n' start start'
    refine along_fuel (f := fun n' => skipComment start' n') (neverOk_unterminated _ _)
      (fun n' => ?_) n'
    refine along_peek_bind (fun t => ?_) (neverOk_unterminated _ _).failsAt
    refine along_ite (fun _ => (neverOk_unterminated _ _).along) fun _ => ?_
    refine along_take_bind (fun t => ?_) (failsAt_skipComment start n)
    exact along_ite (fun _ => along_pure _) fun _ => ih n' start start'

/-! ## 閉じの括弧 -/

theorem closing_paren_ne : ¬ (')'.isDigit = true ∨ ')' = ',') := by decide

/-- 失った後には、組を閉じられない。 -/
theorem failsAt_closeParen (start : Nat) : FailsAt l (closeParen start) :=
  failsAt_accept_bind closing_paren_ne (neverOk_unterminated _ _).failsAt

theorem along_closeParen (start start' : Nat) :
    Along y share l (closeParen start) (closeParen start') := by
  refine along_accept_bind (fun closes => ?_) (neverOk_unterminated _ _).failsAt
  exact along_ite (fun _ => along_pure _) fun _ => (neverOk_unterminated _ _).along

theorem failsAt_closed {α : Type} {start : Nat} {body : Read α} (h : Keeps body) :
    FailsAt l (closed start body) :=
  h.failsAt_bind fun _ => (failsAt_closeParen start).bind

/-- 中身の途中で別れても、前者は閉じの括弧を読めない。 -/
theorem along_closed {α : Type} {start start' : Nat} {body body' : Read α}
    (h : Along y share .trapped body body') :
    Along y share l (closed start body) (closed start' body') :=
  h.bind_closing (fun _ => (along_closeParen start start').bind fun _ => along_pure _)
    fun _ => (failsAt_closeParen start).bind

/-! ## 組の種類 -/

theorem along_readNamedReference (flags : Flags) :
    Along y share l (readNamedReference flags) (readNamedReference flags) := by
  refine (along_name _ _).bind fun label => (along_checkName label).bind fun _ => ?_
  refine Along.of_joint ?_ fun {s} _ _ hbare h => ?_
  · refine (views_findName label).along_bind_eq ?_ fun number => ?_
    · intro s t hs
      rw [(hs.joint rfl).2.1]
    · cases number with
      | none => exact along_fail
      | some number => exact along_backreference _ _ _
  · rw [(views_findName label).bind, hbare.2] at h
    exact absurd h (neverOk_fail _ _ _ _)

theorem along_noteReference (number place place' : Nat) :
    Along y share l (noteReference number place) (noteReference number place') := by
  refine along_modify (fun s => ?_) fun {s t} hs => ?_
  · split
    · exact .refl s
    · exact ⟨List.suffix_rfl, Flags.union_self _, Nat.le_refl _, fun _ => ⟨rfl, rfl⟩,
        List.prefix_append _ _, rfl⟩
  · split <;> split <;> exact ⟨hs.source, hs.flags, hs.joint, hs.apart⟩

/-- 記した番号は残る。 -/
theorem noteReference_ok {number place : Nat} {s s' : ReadState} {a : Unit}
    (h : noteReference number place s = .ok (a, s')) : ∃ r ∈ s'.references, r.1 = number := by
  cases h
  dsimp only
  split
  · next hany =>
    obtain ⟨r, hr, heq⟩ := List.any_eq_true.mp hany
    exact ⟨r, hr, by simpa using heq⟩
  · exact ⟨(number, place), List.mem_append_right _ List.mem_cons_self, rfl⟩

theorem keeps_checkLookbehind (number : Nat) : Keeps (checkLookbehind number) :=
  have h : Along [] .joint .ended (checkLookbehind number) (checkLookbehind number) :=
    along_checkLookbehind_joint number
  h.keeps

theorem along_readCondition : Along y share l readCondition readCondition := by
  refine (along_name _ _).bind fun label => along_ite (fun _ => ?_) fun _ => ?_
  · refine Along.of_joint ?_ fun {s} _ _ hbare h => ?_
    · refine (views_findName label).along_bind_eq ?_ fun number => ?_
      · intro s t hs
        rw [(hs.joint rfl).2.1]
      · cases number with
        | none => exact along_fail
        | some number => exact (along_checkLookbehind_joint number).bind fun _ => along_pure _
    · rw [(views_findName label).bind, hbare.2] at h
      exact absurd h (neverOk_fail _ _ _ _)
  · cases Numeral.readInteger label with
    | none => exact along_fail
    | some n =>
      refine along_ite (fun _ => along_fail) fun hneg => ?_
      refine along_ite (fun _ => along_fail) fun hzero => ?_
      refine along_ite (fun _ => along_fail) fun _ => ?_
      refine views_position.along_bind fun place place' => ?_
      refine Along.of_joint ?_ fun {s a s'} _ h => ?_
      · exact (along_noteReference _ _ _).bind fun _ =>
          (along_checkLookbehind_joint _).bind fun _ => along_pure _
      · -- 番号で書かれた条件は、組を共有しなくても読めるが、跡が残る
        obtain ⟨_, s₁, hnote, h⟩ := ok_of_bind h
        obtain ⟨r, hr, heq⟩ := noteReference_ok hnote
        have hpos : 1 ≤ r.1 := by
          rw [heq]
          have : n ≠ 0 := by simpa using hzero
          omega
        have hkept : Kept s₁ s' := ((keeps_checkLookbehind _).bind fun _ => keeps_pure _) _ _ _ h
        exact hkept.drifted (.inr ⟨r, hr, hpos⟩)

theorem along_readNamedHead (flags : Flags) :
    Along y share l (readNamedHead flags) (readNamedHead flags) := by
  refine along_accept_bind (fun named => along_ite (fun _ => ?_) fun _ => ?_) ?_
  · exact (along_name _ _).bind fun label => (along_checkName label).bind fun _ => along_pure _
  · refine along_accept_bind (fun refers => along_ite (fun _ => ?_) fun _ => ?_)
      (failsAt_take_bind (neverOk_fail _ _).failsAt)
    · exact (along_readNamedReference flags).bind fun _ => along_pure _
    · refine along_take_bind (fun t => ?_) (neverOk_fail _ _).failsAt
      cases t <;> exact along_fail
  · exact failsAt_accept_bind (by decide) (failsAt_take_bind (neverOk_fail _ _).failsAt)

theorem along_readExtension (flags : Flags) (start start' : Nat) :
    Along y share l (readExtension flags start) (readExtension flags start') := by
  refine along_take_plain (fun c => ?_) (neverOk_fail _ _) fun _ => neverOk_fail _ _
  dsimp only
  split
  · exact along_readNamedHead flags
  · exact along_pure _
  · exact views_remaining.along_bind fun n n' =>
      (along_skipComment n n' start start').bind fun _ => along_pure _
  · exact along_pure _
  · exact along_pure _
  · refine along_take_bind (fun t => ?_) (neverOk_fail _ _).failsAt
    cases t with
    | none => exact along_fail
    | some t => exact along_ite (fun _ => along_pure _) fun _ =>
        along_ite (fun _ => along_pure _) fun _ => along_fail
  · exact along_pure _
  · exact along_pure _
  · refine along_ite (fun _ => (along_readFlags c).bind fun group => ?_) fun _ => along_fail
    cases group <;> exact along_pure _

/-! ## 組 -/

theorem openGroup_ok {label : Option Text} {number : Nat} {s s' : ReadState}
    (h : openGroup label s = .ok (number, s')) : number = s.groups.length ∧
      s' = { s with
        groups := s.groups ++ [none]
        names := s.names ++ (label.map fun label => (label, s.groups.length)).toList } := by
  unfold openGroup at h
  obtain ⟨u, s₁, hget, h⟩ := ok_of_bind h
  cases hget
  cases label with
  | none =>
    cases h
    exact ⟨rfl, by simp⟩
  | some label =>
    dsimp only at h
    cases hfind : s.names.find? (fun entry => entry.1 == label) with
    | some earlier =>
      rw [hfind] at h
      cases h
    | none =>
      rw [hfind] at h
      cases h
      exact ⟨rfl, rfl⟩

theorem readCapture_ok {label : Option Text} {body : Read (List Piece)} {s s' : ReadState}
    {p : Piece} (h : readCapture label body s = .ok (p, s')) :
    ∃ number s₁ content s₂, openGroup label s = .ok (number, s₁) ∧ body s₁ = .ok (content, s₂) ∧
      s' = { s₂ with groups := s₂.groups.set number (some (Piece.widthOf content)) } ∧
      p = .mk (.group number (Piece.exprOf content)) (Piece.widthOf content) .other := by
  obtain ⟨number, s₁, hopen, h⟩ := ok_of_bind h
  obtain ⟨content, s₂, hbody, h⟩ := ok_of_bind h
  cases h
  exact ⟨number, s₁, content, s₂, hopen, hbody, rfl, rfl⟩

/-- 組を開くと、組は増える。 -/
theorem kept_openGroup {label : Option Text} {number : Nat} {s s' : ReadState}
    (h : openGroup label s = .ok (number, s')) :
    Kept s s' ∧ s'.groups.length = s.groups.length + 1 := by
  obtain ⟨-, rfl⟩ := openGroup_ok h
  have hlength : (s.groups ++ [none]).length = s.groups.length + 1 := by simp
  refine ⟨⟨List.suffix_rfl, Flags.union_self _, ?_, fun h => ?_, List.prefix_rfl, rfl⟩, hlength⟩
  · show s.groups.length ≤ (s.groups ++ [none]).length
    omega
  · have : (s.groups ++ [none]).length = s.groups.length := h
    omega

theorem keeps_readCapture {body : Read (List Piece)} (hbody : Keeps body) (label : Option Text) :
    Keeps (readCapture label body) := by
  intro s p s' h
  obtain ⟨number, s₁, content, s₂, hopen, hread, rfl, -⟩ := readCapture_ok h
  obtain ⟨hkept, hlength⟩ := kept_openGroup hopen
  have hinner := hbody _ _ _ hread
  have hk := hkept.trans hinner
  have hgrown : (s₂.groups.set number (some (Piece.widthOf content))).length ≠ s.groups.length := by
    have := hinner.groups
    rw [List.length_set]
    omega
  refine ⟨hk.text, hk.flags, ?_, fun h => absurd h hgrown, hk.references, hk.lookbehind⟩
  show s.groups.length ≤ (s₂.groups.set _ _).length
  rw [List.length_set]
  exact hk.groups

/-- 組を共有しない前者が組を開けば、跡が残る。 -/
theorem along_readCapture {body body' : Read (List Piece)} (h : Along y .joint l body body')
    (label : Option Text) :
    Along y share l (readCapture label body) (readCapture label body') := by
  refine Along.of_joint ⟨keeps_readCapture h.keeps label, ?_⟩ ?_
  · intro s t p s' p' t' hs hr hr'
    obtain ⟨number, s₁, content, s₂, hopen, hread, rfl, rfl⟩ := readCapture_ok hr
    obtain ⟨number', t₁, content', t₂, hopen', hread', rfl, rfl⟩ := readCapture_ok hr'
    obtain ⟨rfl, rfl⟩ := openGroup_ok hopen
    obtain ⟨rfl, rfl⟩ := openGroup_ok hopen'
    obtain ⟨hgroups, hnames, hlook⟩ := hs.joint rfl
    have hopened : Follows y .joint
        { s with
          groups := s.groups ++ [none]
          names := s.names ++ (label.map fun label => (label, s.groups.length)).toList }
        { t with
          groups := t.groups ++ [none]
          names := t.names ++ (label.map fun label => (label, t.groups.length)).toList } :=
      ⟨hs.source, hs.flags, fun _ => ⟨by rw [hgroups], by rw [hgroups, hnames], hlook⟩, nofun⟩
    rcases h.sync hopened hread hread' with hlost | ⟨hapart, -⟩ | ⟨hs₂, rfl⟩
    · exact .inl (hlost.congr rfl)
    · exact absurd rfl hapart
    · obtain ⟨hgroups₂, hnames₂, hlook₂⟩ := hs₂.joint rfl
      refine .inr (.inr ⟨⟨hs₂.source, hs₂.flags, fun _ => ⟨?_, hnames₂, hlook₂⟩, nofun⟩, ?_⟩)
      · show t₂.groups.set t.groups.length _ = s₂.groups.set s.groups.length _
        rw [hgroups₂, hgroups]
      · rw [hgroups]
  · intro s p s' hbare hr
    obtain ⟨number, s₁, content, s₂, hopen, hread, rfl, -⟩ := readCapture_ok hr
    have hlength := (kept_openGroup hopen).2
    have := (h.keeps _ _ _ hread).groups
    refine .inl ?_
    show 1 < (s₂.groups.set _ _).length
    rw [List.length_set]
    rw [hbare.1, List.length_singleton] at hlength
    omega

theorem withLookbehind_ok {behind : Bool} {body : Read (List Piece)} {s s' : ReadState}
    {content : List Piece} (h : withLookbehind behind body s = .ok (content, s')) :
    ∃ s₁, body { s with lookbehindGroups :=
        if behind && s.lookbehindGroups.isNone then some s.groups.length
        else s.lookbehindGroups } = .ok (content, s₁) ∧
      s' = { s₁ with lookbehindGroups :=
        if behind && s.lookbehindGroups.isNone then none else s₁.lookbehindGroups } := by
  unfold withLookbehind at h
  rw [views_lookbehindStart.bind] at h
  split at h
  · next hout =>
    rw [if_pos hout]
    obtain ⟨_, s₁, hset, h⟩ := ok_of_bind h
    cases hset
    obtain ⟨result, s₂, hread, h⟩ := ok_of_bind h
    cases h
    exact ⟨s₂, hread, by rw [if_pos hout]⟩
  · next hout =>
    rw [if_neg hout]
    exact ⟨s', h, by rw [if_neg hout]⟩

/-- 中身を読み終えると、後ろを見る条件の始まりは元に戻る。 -/
theorem keeps_withLookbehind {body : Read (List Piece)} (hbody : Keeps body) (behind : Bool) :
    Keeps (withLookbehind behind body) := by
  intro s content s' h
  obtain ⟨s₁, hread, rfl⟩ := withLookbehind_ok h
  have hk := hbody _ _ _ hread
  refine ⟨hk.text, hk.flags, hk.groups, hk.still, hk.references, ?_⟩
  dsimp only
  split
  · next hout =>
    rw [Bool.and_eq_true] at hout
    exact (Option.isNone_iff_eq_none.mp hout.2).symm
  · next hout =>
    rw [hk.lookbehind]
    exact if_neg hout

theorem along_withLookbehind {body body' : Read (List Piece)} (h : Along y share l body body')
    (behind : Bool) :
    Along y share l (withLookbehind behind body) (withLookbehind behind body') := by
  refine ⟨keeps_withLookbehind h.keeps behind, fun {s t _ _ _ _} hs hr hr' => ?_⟩
  obtain ⟨s₁, hread, rfl⟩ := withLookbehind_ok hr
  obtain ⟨t₁, hread', rfl⟩ := withLookbehind_ok hr'
  have hinner : Follows y share
      { s with lookbehindGroups :=
          if behind && s.lookbehindGroups.isNone then some s.groups.length
          else s.lookbehindGroups }
      { t with lookbehindGroups :=
          if behind && t.lookbehindGroups.isNone then some t.groups.length
          else t.lookbehindGroups } := by
    refine ⟨hs.source, hs.flags, fun hjoint => ?_, hs.apart⟩
    obtain ⟨hgroups, hnames, hlook⟩ := hs.joint hjoint
    exact ⟨hgroups, hnames, by rw [hlook, hgroups]⟩
  rcases h.sync hinner hread hread' with hlost | hdrift | ⟨hs₁, rfl⟩
  · exact .inl (hlost.congr rfl)
  · exact .inr (.inl hdrift)
  · refine .inr (.inr ⟨⟨hs₁.source, hs₁.flags, fun hjoint => ?_, hs₁.apart⟩, rfl⟩)
    obtain ⟨hgroups, hnames, hlook⟩ := hs₁.joint hjoint
    exact ⟨hgroups, hnames, by rw [(hs.joint hjoint).2.2, hlook]⟩

theorem along_readBranches (hl : l ≠ .nothing) {branch branch' : Read (List Piece)}
    (h : Along y share l branch branch') :
    Along y share l (readBranches branch) (readBranches branch') := by
  refine h.bind fun present => (along_accept fun hn => absurd hn hl).bind fun more => ?_
  refine along_ite (fun _ => h.bind fun absent => ?_) fun _ => along_pure _
  exact (along_peek hl).bind fun t => along_ite (fun _ => along_fail) fun _ => along_pure _

theorem along_readConditional {branch branch' : Read (List Piece)} {start start' : Nat}
    (h : Along y share .trapped branch branch') :
    Along y share l (readConditional start branch) (readConditional start' branch') :=
  have hbranches := along_readBranches (nofun : Loss.trapped ≠ .nothing) h
  along_readCondition.bind fun _ => (along_closed hbranches).bind fun _ => along_pure _

theorem failsAt_readConditional (start : Nat) (branch : Read (List Piece)) :
    FailsAt .ended (readConditional start branch) :=
  ((failsAt_name _ _).bind).bind

/-! ## 列の中の一つ -/

/-- 字句の意味が、後に続く字で変わりうるか。 -/
def Token.ReachesOut (flags : Flags) : Token → Prop
  | .escaped c => anchorEscape flags c = none
  | .plain c => c = '{'

theorem along_readItem {group group' : Flags → Nat → GroupHead → Read Piece}
    (hgroup : ∀ flags start start' head,
      Along y share l (group flags start head) (group' flags start' head))
    (hcloses : ∀ flags start head, FailsAt .ended (group flags start head))
    {flags : Flags} {this : Token} (hl : l = .trapped ∨ l = .nothing ∧ flags.verbose = false ∧
      (this.ReachesOut flags → Shuts y IsBound)) (start start' : Nat) :
    Along y share l (readItem group flags start this) (readItem group' flags start' this) := by
  have hpiece : ∀ {r r' : Read Piece}, Along y share l r r' →
      Along y share l (r >>= fun p => pure (Item.piece p)) (r' >>= fun p => pure (.piece p)) :=
    fun h => h.bind fun _ => along_pure _
  have hguard : l = .nothing → this.ReachesOut flags → Shuts y IsBound := by
    rintro rfl
    exact hl.elim nofun fun h => h.2.2
  unfold readItem
  cases this with
  | escaped c =>
    exact hpiece (along_readEscape flags c fun hn hanchor d rest hy hd =>
      hguard hn hanchor d rest hy (.inl hd))
  | plain c =>
    refine along_ite (fun _ => along_pure _) fun _ => along_ite (fun hcomment => ?_) fun _ => ?_
    · -- 行末の注釈は、入れ子の中にしか現れない
      have hlost : l ≠ .nothing := by
        rintro rfl
        obtain ⟨-, hplain, -⟩ := hl.resolve_left nofun
        rw [hplain] at hcomment
        cases hcomment
      exact (along_skipLineComment hlost).bind fun _ => along_pure _
    · split
      · exact hpiece (along_readSet flags)
      · exact along_pure _
      · exact along_pure _
      · exact along_pure _
      · exact along_pure _
      · exact along_pure _
      · exact along_pure _
      · refine (along_readBounds (hl.imp id fun h => ⟨h.1, h.2.2 rfl⟩)).bind fun bounds => ?_
        cases bounds <;> exact along_pure _
      · refine along_accept_bind (fun extended => along_ite (fun _ => ?_) fun _ => ?_) ?_
        · refine (along_readExtension flags start start').bind fun head => ?_
          split
          · exact along_pure _
          · exact along_pure _
          · exact along_pure _
          · exact hpiece (hgroup flags start start' _)
        · exact hpiece (hgroup flags start start' _)
        · exact (hcloses flags start _).bind
      · exact along_pure _

theorem along_place (hl : l = .nothing → Shuts y IsMode) (start start' : Nat) (flags : Flags)
    (first : Bool) (taken : List Piece) (item : Item) :
    Along y share l (place start flags first taken item) (place start' flags first taken item) := by
  cases item with
  | nothing => exact along_pure _
  | piece p => exact along_pure _
  | again least most => exact (along_repeatLast hl _ _ _ _ _).bind fun _ => along_pure _
  | wholeFlags =>
    refine views_wholeFlags.along_bind_eq (fun hs => hs.flags) fun whole => ?_
    exact along_ite (fun _ => (neverOk_unterminated _ _).along) fun _ => along_pure _

/-! ## 入れ子の選択と列と組 -/

theorem trapped_ne_nothing : Loss.trapped ≠ .nothing := nofun

/-- 燃料 `n` の読み手は、どれだけの燃料の読み手とも揃って進む。 -/
structure NestedAlong (y : Text) (n : Nat) : Prop where
  choice : ∀ share flags n' items,
    Along y share .trapped (readChoice n flags false items) (readChoice n' flags false items)
  sequence : ∀ share flags n' taken,
    Along y share .trapped (readSequence n flags false taken) (readSequence n' flags false taken)
  group : ∀ share l flags n' start start' head,
    Along y share l (readGroup n flags start head) (readGroup n' flags start' head)
  closes : ∀ flags start head, FailsAt .ended (readGroup n flags start head)

theorem nestedAlong_zero : NestedAlong y 0 where
  choice _ _ _ _ := along_fail
  sequence _ _ _ _ := along_fail
  group _ _ _ _ _ _ _ := along_fail
  closes _ _ _ := (neverOk_fail _ _).failsAt

theorem NestedAlong.choice_succ {n : Nat} (h : NestedAlong y n) (share : Sharing) (flags : Flags)
    (n' : Nat) (items : List (List Piece)) : Along y share .trapped
      (readChoice (n + 1) flags false items) (readChoice n' flags false items) := by
  refine along_fuel (f := fun n' => readChoice n' flags false items) (neverOk_fail _ _)
    (fun n' => ?_) n'
  refine (h.sequence share flags n' []).bind fun item => ?_
  refine (along_accept (absurd · trapped_ne_nothing)).bind fun more => ?_
  refine along_ite (fun _ => ?_) fun _ => along_pure _
  exact views_wholeFlags.along_bind fun _ _ => h.choice share flags n' _

theorem NestedAlong.sequence_succ {n : Nat} (h : NestedAlong y n) (share : Sharing) (flags : Flags)
    (n' : Nat) (taken : List Piece) : Along y share .trapped
      (readSequence (n + 1) flags false taken) (readSequence n' flags false taken) := by
  refine along_fuel (f := fun n' => readSequence n' flags false taken) (neverOk_fail _ _)
    (fun n' => ?_) n'
  refine (along_peek trapped_ne_nothing).bind fun t => ?_
  cases t with
  | none => exact along_pure _
  | some this =>
    refine along_ite (fun _ => along_pure _) fun _ => ?_
    refine views_position.along_bind fun start start' => ?_
    refine (along_take trapped_ne_nothing).bind fun _ => ?_
    refine Along.bind ?_ fun item => Along.bind ?_ ?_
    · exact along_readItem (fun flags start start' => h.group share _ flags n' start start')
        h.closes (.inl rfl) start start'
    · exact along_place (absurd · trapped_ne_nothing) start start' flags false taken item
    · exact fun placed => h.sequence share placed.1 n' placed.2

theorem NestedAlong.group_succ {n : Nat} (h : NestedAlong y n) (share : Sharing) (l : Loss)
    (flags : Flags) (n' start start' : Nat) (head : GroupHead) :
    Along y share l (readGroup (n + 1) flags start head) (readGroup n' flags start' head) := by
  have hclosed : ∀ (share : Sharing) (l : Loss) (flags : Flags) (n' : Nat), Along y share l
      (closed start (readChoice n flags false [])) (closed start' (readChoice n' flags false [])) :=
    fun share l flags n' => along_closed (h.choice share flags n' [])
  refine along_fuel (f := fun n' => readGroup n' flags start' head) (neverOk_fail _ _)
    (fun n' => ?_) n'
  unfold readGroup
  split
  · next behind negated =>
    exact (along_closed (along_withLookbehind (h.choice share flags n' []) behind)).bind fun _ =>
      along_pure _
  · exact along_readConditional (h.sequence share flags n' [])
  · exact along_readCapture (hclosed .joint l flags n') _
  · exact (hclosed share l flags n').bind fun _ => along_pure _
  · exact (hclosed share l _ n').bind fun _ => along_pure _
  · exact (hclosed share l flags n').bind fun _ => along_pure _

/-- 使い切れば、組は閉じられない。 -/
theorem NestedAlong.closes_succ {n : Nat} (h : NestedAlong y n) (flags : Flags) (start : Nat)
    (head : GroupHead) : FailsAt .ended (readGroup (n + 1) flags start head) := by
  have hkeeps : ∀ flags, Keeps (readChoice n flags false []) :=
    fun flags => (h.choice .joint flags 0 []).keeps
  unfold readGroup
  split
  · exact (failsAt_closed (keeps_withLookbehind (hkeeps flags) _)).bind
  · exact failsAt_readConditional _ _
  · intro s x hs hx
    obtain ⟨number, s₁, content, s₂, hopen, hread, -⟩ := readCapture_ok hx
    exact failsAt_closed (hkeeps flags) s₁ _ (hs.kept (kept_openGroup hopen).1) hread
  · exact (failsAt_closed (hkeeps flags)).bind
  · exact (failsAt_closed (hkeeps _)).bind
  · exact (failsAt_closed (hkeeps flags)).bind

/-- **入れ子の読み手は、どれも揃って進む。** -/
theorem nestedAlong (y : Text) (n : Nat) : NestedAlong y n := by
  induction n with
  | zero => exact nestedAlong_zero
  | succ n ih => exact ⟨ih.choice_succ, ih.sequence_succ, ih.group_succ, ih.closes_succ⟩

end Tandem

end Tategaki.Regex
