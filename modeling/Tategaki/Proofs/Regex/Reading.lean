import Tategaki.Regex.Reader

/-!
# 並べて読むこと

式の読み手を二つ並べて動かす。一方は文字列 `x` だけを、もう一方は `x ++ y` を読む。前者が `x` を使い切らない限り、
二つは同じ字句を見て、同じものを返す。使い切った後に先を覗くと、二つは別れうる。

二つの状態の関係（`Follows`）と、読み手が二つを揃えて進めること（`Along`）を定め、基本の読み手が揃えて進めることと、
揃えて進める読み手をつないだものが揃えて進めることを示す。別れてよい場合は三つに分けてある（`Loss`）。別れた前者が
後で必ず失敗するなら（`FailsAt`）、全体としては別れない。

組については、二つの読み手が同じ組と名前を持つか、後者だけがすでに組を持つかのどちらかとする（`Sharing`）。後の場合、
前者が組を使えば、番号が二つで食い違う。その跡は前者の状態に残る（`Drifted`）。
-/

namespace Tategaki.Regex

open Read

/-! ## 残りの文字列 -/

/-- 用意した字句から先の文字列。 -/
def Source.text (s : Source) : Text := (s.next.elim [] Token.chars) ++ s.rest

/-- 文字列の先頭の字句と、その後ろの文字列。 -/
inductive Splits : Text → Option Token → Text → Prop
  | nil : Splits [] none []
  | escaped {c : Char} {rest : Text} : Splits ('\\' :: c :: rest) (some (.escaped c)) rest
  | plain {c : Char} {rest : Text} (h : c ≠ '\\') : Splits (c :: rest) (some (.plain c)) rest

theorem Source.splits_of_advance {s t : Source} (h : s.advance = .ok t) :
    Splits s.rest t.next t.rest := by
  unfold advance at h
  split at h
  · next hrest =>
    cases h
    show Splits s.rest none s.rest
    rw [hrest]
    exact .nil
  · cases h
  · next hrest =>
    cases h
    rw [hrest]
    exact .escaped
  · next c rest hlast hpair hrest =>
    cases h
    rw [hrest]
    refine .plain ?_
    rintro rfl
    -- 逆斜線の後ろには、何もないか、一字ある
    cases rest with
    | nil => exact hlast rfl rfl
    | cons d rest => exact hpair d rest rfl rfl

theorem Splits.text_eq {text : Text} {t : Option Token} {rest : Text} (h : Splits text t rest) :
    (t.elim [] Token.chars) ++ rest = text := by
  cases h <;> rfl

theorem Splits.unique {text : Text} {t t' : Option Token} {rest rest' : Text}
    (h : Splits text t rest) (h' : Splits text t' rest') : t = t' ∧ rest = rest' := by
  cases h with
  | nil => cases h'; exact ⟨rfl, rfl⟩
  | escaped =>
    cases h' with
    | escaped => exact ⟨rfl, rfl⟩
    | plain hne => exact absurd rfl hne
  | plain hne =>
    cases h' with
    | escaped => exact absurd rfl hne
    | plain => exact ⟨rfl, rfl⟩

/-- 字句があれば、後ろに文字列を続けても先頭の字句は変わらない。 -/
theorem Splits.append {text : Text} {t : Token} {rest : Text} (h : Splits text (some t) rest)
    (y : Text) : Splits (text ++ y) (some t) (rest ++ y) := by
  cases h with
  | escaped => exact .escaped
  | plain hne => exact .plain hne

/-- 次の字句を用意すると、用意していた字句が残りから除かれる。 -/
theorem Source.text_of_advance {s t : Source} (h : s.advance = .ok t) : t.text = s.rest :=
  (Source.splits_of_advance h).text_eq

theorem Source.rest_suffix (s : Source) : s.rest <:+ s.text := List.suffix_append _ _

/-- 残りがなければ、用意した字句もない。 -/
theorem Source.next_of_text_nil {s : Source} (h : s.text = []) : s.next = none ∧ s.rest = [] := by
  obtain ⟨hnext, hrest⟩ := List.append_eq_nil_iff.mp h
  refine ⟨?_, hrest⟩
  cases hn : s.next with
  | none => rfl
  | some t =>
    rw [hn] at hnext
    cases t <;> cases hnext

/-! ## 読み手の守ること -/

namespace Flags

theorem union_self (f : Flags) : f.union f = f := by simp [union]

theorem union_comm (f g : Flags) : f.union g = g.union f := by simp [union, Bool.or_comm]

theorem union_assoc (f g h : Flags) : (f.union g).union h = f.union (g.union h) := by
  simp [union, Bool.or_assoc]

end Flags

/-- 読み手は、残りを後ろから縮め、指定と組と条件の組を増やすだけである。 -/
structure Kept (s s' : ReadState) : Prop where
  text : s'.source.text <:+ s.source.text
  flags : s.flags.union s'.flags = s'.flags
  groups : s.groups.length ≤ s'.groups.length
  /-- 組を開かなければ、組も名前も変わらない。 -/
  still : s'.groups.length = s.groups.length → s'.groups = s.groups ∧ s'.names = s.names
  references : s.references <+: s'.references
  lookbehind : s'.lookbehindGroups = s.lookbehindGroups

/-- 字句だけが進んだ状態。 -/
theorem Kept.of_source {s : ReadState} {source : Source} (h : source.text <:+ s.source.text) :
    Kept s { s with source } :=
  ⟨h, Flags.union_self _, Nat.le_refl _, fun _ => ⟨rfl, rfl⟩, List.prefix_rfl, rfl⟩

theorem Kept.refl (s : ReadState) : Kept s s := .of_source List.suffix_rfl

theorem Kept.trans {a b c : ReadState} (h : Kept a b) (h' : Kept b c) : Kept a c where
  text := h'.text.trans h.text
  flags := by rw [← h'.flags, ← Flags.union_assoc, h.flags]
  groups := Nat.le_trans h.groups h'.groups
  still hlength := by
    have := h.groups
    have := h'.groups
    obtain ⟨hgroups, hnames⟩ := h.still (by omega)
    obtain ⟨hgroups', hnames'⟩ := h'.still (by omega)
    exact ⟨hgroups'.trans hgroups, hnames'.trans hnames⟩
  references := h.references.trans h'.references
  lookbehind := h'.lookbehind.trans h.lookbehind

/-- 終わりの指定が始めと同じなら、途中の指定も同じである。 -/
theorem Kept.flags_between {a b c : ReadState} (h : Kept a b) (h' : Kept b c)
    (heq : c.flags = a.flags) : b.flags = a.flags := by
  rw [← h.flags, Flags.union_comm, ← heq, h'.flags]

/-- 読み終えた状態は、始めの状態から守るべきことを守っている。 -/
def Keeps {α : Type} (r : Read α) : Prop := ∀ s a s', r s = .ok (a, s') → Kept s s'

section Keeps

variable {α β : Type} {r : Read α} {f : α → Read β}

/-- つないだ読み手が読み終えたなら、どちらも読み終えている。 -/
theorem ok_of_bind {s : ReadState} {x : β × ReadState} (h : (r >>= f) s = .ok x) :
    ∃ a s₁, r s = .ok (a, s₁) ∧ f a s₁ = .ok x := by
  change (r s >>= fun y => f y.1 y.2) = .ok x at h
  cases hr : r s with
  | error e =>
    rw [hr] at h
    cases h
  | ok y =>
    rw [hr] at h
    exact ⟨y.1, y.2, rfl, h⟩

theorem bind_of_ok {s s₁ : ReadState} {a : α} (h : r s = .ok (a, s₁)) : (r >>= f) s = f a s₁ := by
  show (r s >>= fun x => f x.1 x.2) = f a s₁
  rw [h]
  rfl

/-- 必ず失敗する読み手である。 -/
def NeverOk (r : Read α) : Prop := ∀ s x, r s ≠ .ok x

theorem neverOk_fail (kind : ErrorKind) (back : Nat) : NeverOk (fail kind back : Read α) :=
  fun _ _ h => by cases h

theorem neverOk_fault (f : Fault) : NeverOk (fault f : Read α) := fun _ _ h => by cases h

theorem NeverOk.keeps (h : NeverOk r) : Keeps r := fun s a s' hr => absurd hr (h s (a, s'))

/-- 読んだものによらず続きが失敗するなら、つないだものは失敗する。 -/
theorem NeverOk.of_bind (h : ∀ a, NeverOk (f a)) : NeverOk (r >>= f) := by
  intro s x hx
  obtain ⟨a, s₁, -, hf⟩ := ok_of_bind hx
  exact h a s₁ _ hf

theorem keeps_pure (a : α) : Keeps (pure a : Read α) := by
  intro s b s' h
  cases h
  exact .refl s

theorem Keeps.bind (hr : Keeps r) (hf : ∀ a, Keeps (f a)) : Keeps (r >>= f) := by
  intro s b s' h
  obtain ⟨a, s₁, h₁, h₂⟩ := ok_of_bind h
  exact (hr s a s₁ h₁).trans (hf a s₁ b s' h₂)

theorem take_ok {s s' : ReadState} {t : Option Token} (h : take s = .ok (t, s')) :
    ∃ source, s.source.advance = .ok source ∧ t = s.source.next ∧ s' = { s with source } := by
  unfold take at h
  split at h
  · next source hsource =>
    cases h
    exact ⟨source, hsource, rfl, rfl⟩
  · cases h

theorem keeps_take : Keeps take := by
  intro s a s' h
  obtain ⟨source, hsource, -, rfl⟩ := take_ok h
  refine .of_source ?_
  rw [Source.text_of_advance hsource]
  exact s.source.rest_suffix

end Keeps

/-! ## 二つの読み手の状態 -/

/-- 後者の文字列は、前者の残りに `y` を続けたものである。 -/
inductive Source.Before (y : Text) : Source → Source → Prop
  /-- 前者の文字列が残っていて、用意した字句は同じである。 -/
  | within {t : Token} {rest : Text} {i j : Nat} :
    Source.Before y ⟨rest, i, some t⟩ ⟨rest ++ y, j, some t⟩
  /-- 前者は文字列を使い切り、後者は `y` に差し掛かっている。 -/
  | ended {i : Nat} {t : Source} (h : Splits y t.next t.rest) : Source.Before y ⟨[], i, none⟩ t

theorem Source.Before.text_eq {y : Text} {s t : Source} (h : s.Before y t) :
    t.text = s.text ++ y := by
  cases h with
  | within => exact (List.append_assoc _ _ _).symm
  | ended hsplit => exact hsplit.text_eq

/-- 二つの読み手の持つ組。 -/
inductive Sharing where
  /-- 同じ組を持つ。 -/
  | joint
  /-- 前者はまだ組を持たず、後者は `groups` を持つ。 -/
  | apart (groups : List (Option Width))

/-- 前者が組を開いたか、組を条件に使った跡がある。 -/
def Drifted (s : ReadState) : Prop := 1 < s.groups.length ∨ ∃ r ∈ s.references, 1 ≤ r.1

theorem Kept.drifted {s s' : ReadState} (h : Kept s s') (hs : Drifted s) : Drifted s' := by
  rcases hs with hs | ⟨r, hr, hpos⟩
  · exact .inl (Nat.lt_of_lt_of_le hs h.groups)
  · exact .inr ⟨r, h.references.subset hr, hpos⟩

/-- まだ組を持たない。 -/
def Bare (s : ReadState) : Prop := s.groups = [none] ∧ s.names = []

/-- 二つの読み手の状態の関係。 -/
structure Follows (y : Text) (share : Sharing) (s t : ReadState) : Prop where
  source : s.source.Before y t.source
  flags : t.flags = s.flags
  joint : share = .joint → t.groups = s.groups ∧ t.names = s.names ∧
    t.lookbehindGroups = s.lookbehindGroups
  apart : ∀ groups, share = .apart groups → Bare s ∧ t.groups = groups

/-- 前者が失うもの。 -/
inductive Loss where
  /-- 何も失わない。 -/
  | nothing
  /-- 文字列を使い切った。 -/
  | ended
  /-- 残りは数字と読点だけで、もう何も閉じられない。 -/
  | trapped

/-- 状態で失っている。 -/
def Loss.At : Loss → ReadState → Prop
  | nothing, _ => False
  | ended, s => s.source.text = []
  | trapped, s => ∀ c ∈ s.source.text, c.isDigit = true ∨ c = ','

/-- 失ったものは戻らない。 -/
theorem Loss.At.kept {l : Loss} {s s' : ReadState} (h : l.At s) (hk : Kept s s') : l.At s' := by
  cases l with
  | nothing => exact h
  | ended =>
    have hnil : s.source.text = [] := h
    have hsuffix := hk.text
    rw [hnil] at hsuffix
    exact List.suffix_nil.mp hsuffix
  | trapped => exact fun c hc => h c (hk.text.subset hc)

/-- 失ったものは、残りの文字列だけで決まる。 -/
theorem Loss.At.congr {l : Loss} {s s' : ReadState} (h : l.At s) (hs : s'.source = s.source) :
    l.At s' := by
  cases l with
  | nothing => exact h
  | ended => exact (congrArg Source.text hs).trans h
  | trapped =>
    intro c hc
    rw [hs] at hc
    exact h c hc

/-- 使い切れば、何も失わないことはない。 -/
theorem Loss.at_of_text_nil {l : Loss} {s : ReadState} (hl : l ≠ .nothing)
    (h : s.source.text = []) : l.At s := by
  cases l with
  | nothing => exact absurd rfl hl
  | ended => exact h
  | trapped =>
    intro c hc
    rw [h] at hc
    cases hc

/-- 失っていれば必ず失敗する読み手である。 -/
def FailsAt {α : Type} (l : Loss) (r : Read α) : Prop := ∀ s x, l.At s → r s ≠ .ok x

/-- 二つの読み手は、前者が何かを失わない限り、揃って進み、同じものを返す。 -/
structure Along (y : Text) (share : Sharing) (l : Loss) {α : Type} (r r' : Read α) : Prop where
  keeps : Keeps r
  sync : ∀ {s t a s' b t'}, Follows y share s t → r s = .ok (a, s') → r' t = .ok (b, t') →
    l.At s' ∨ (share ≠ .joint ∧ Drifted s') ∨ (Follows y share s' t' ∧ a = b)

section Along

variable {y : Text} {share : Sharing} {l l' : Loss} {α β : Type} {r r' : Read α}
  {f f' : α → Read β}

/-! ### 失敗 -/

theorem NeverOk.failsAt (h : NeverOk r) : FailsAt l r := fun s x _ => h s x

theorem FailsAt.bind (h : FailsAt l r) : FailsAt l (r >>= f) := by
  intro s x hs hx
  obtain ⟨a, s₁, hr, -⟩ := ok_of_bind hx
  exact h s _ hs hr

/-- 失ったものは戻らないので、続きが失敗すればよい。 -/
theorem Keeps.failsAt_bind (hr : Keeps r) (h : ∀ a, FailsAt l (f a)) : FailsAt l (r >>= f) := by
  intro s x hs hx
  obtain ⟨a, s₁, h₁, h₂⟩ := ok_of_bind hx
  exact h a s₁ x (hs.kept (hr _ _ _ h₁)) h₂

theorem failsAt_ite {c : Prop} [Decidable c] {r₁ r₂ : Read α} (h₁ : c → FailsAt l r₁)
    (h₂ : ¬ c → FailsAt l r₂) : FailsAt l (if c then r₁ else r₂) := by
  split
  · next h => exact h₁ h
  · next h => exact h₂ h

/-! ### 揃って進むこと -/

theorem NeverOk.along (h : NeverOk r) : Along y share l r r' :=
  ⟨h.keeps, fun _ hr _ => absurd hr (h _ _)⟩

theorem along_fail {kind : ErrorKind} {back : Nat} : Along y share l (fail kind back : Read α) r' :=
  (neverOk_fail kind back).along

theorem along_pure (a : α) : Along y share l (pure a : Read α) (pure a) := by
  refine ⟨keeps_pure a, fun hs hr hr' => ?_⟩
  cases hr
  cases hr'
  exact .inr (.inr ⟨hs, rfl⟩)

/-- **揃って進む読み手をつないだものは、揃って進む。** -/
theorem Along.bind (hr : Along y share l r r') (hf : ∀ a, Along y share l (f a) (f' a)) :
    Along y share l (r >>= f) (r' >>= f') := by
  refine ⟨hr.keeps.bind fun a => (hf a).keeps, fun hs h h' => ?_⟩
  obtain ⟨a, s₁, h₁, h₂⟩ := ok_of_bind h
  obtain ⟨b, t₁, h₁', h₂'⟩ := ok_of_bind h'
  have hkept := (hf a).keeps _ _ _ h₂
  rcases hr.sync hs h₁ h₁' with hlost | ⟨hapart, hdrift⟩ | ⟨hs₁, rfl⟩
  · exact .inl (hlost.kept hkept)
  · exact .inr (.inl ⟨hapart, hkept.drifted hdrift⟩)
  · exact (hf a).sync hs₁ h₂ h₂'

/-- 前者が失った後の続きが必ず失敗するなら、失わずに済む。 -/
theorem Along.bind_closing (hr : Along y share l r r')
    (hf : ∀ a, Along y share l' (f a) (f' a)) (hfails : ∀ a, FailsAt l (f a)) :
    Along y share l' (r >>= f) (r' >>= f') := by
  refine ⟨hr.keeps.bind fun a => (hf a).keeps, fun hs h h' => ?_⟩
  obtain ⟨a, s₁, h₁, h₂⟩ := ok_of_bind h
  obtain ⟨b, t₁, h₁', h₂'⟩ := ok_of_bind h'
  rcases hr.sync hs h₁ h₁' with hlost | ⟨hapart, hdrift⟩ | ⟨hs₁, rfl⟩
  · exact absurd h₂ (hfails a s₁ _ hlost)
  · exact .inr (.inl ⟨hapart, ((hf a).keeps _ _ _ h₂).drifted hdrift⟩)
  · exact (hf a).sync hs₁ h₂ h₂'

/-- 条件が同じなら、分かれた先も揃えばよい。 -/
theorem along_ite {c : Prop} [Decidable c] {r₁ r₂ r₁' r₂' : Read α}
    (h₁ : c → Along y share l r₁ r₁') (h₂ : ¬ c → Along y share l r₂ r₂') :
    Along y share l (if c then r₁ else r₂) (if c then r₁' else r₂') := by
  split
  · next h => exact h₁ h
  · next h => exact h₂ h

/-- 燃料の尽きた後者は失敗するので、燃料を持つ後者と揃って進めばよい。 -/
theorem along_fuel {f : Nat → Read α} (hzero : NeverOk (f 0))
    (h : ∀ n, Along y share l r (f (n + 1))) (n : Nat) : Along y share l r (f n) := by
  cases n with
  | zero => exact ⟨(h 0).keeps, fun _ _ hr' => absurd hr' (hzero _ _)⟩
  | succ n => exact h n

/-- 組を共有しないとき、読み終えた前者に跡が残るなら、組を共有するときだけを見ればよい。 -/
theorem Along.of_joint (h : Along y .joint l r r')
    (hbare : ∀ {s a s'}, Bare s → r s = .ok (a, s') → Drifted s') : Along y share l r r' := by
  cases share with
  | joint => exact h
  | apart groups =>
    exact ⟨h.keeps, fun hs hr _ => .inr (.inl ⟨nofun, hbare (hs.apart groups rfl).1 hr⟩)⟩

/-- 状態を書き換える。 -/
theorem along_modify {f f' : ReadState → ReadState} (hkept : ∀ s, Kept s (f s))
    (h : ∀ {s t}, Follows y share s t → Follows y share (f s) (f' t)) :
    Along y share l (modify f : Read Unit) (modify f') := by
  refine ⟨fun s a s' hr => ?_, fun hs hr hr' => ?_⟩
  · cases hr
    exact hkept s
  · cases hr
    cases hr'
    exact .inr (.inr ⟨h hs, rfl⟩)

/-! ### 状態から読む -/

/-- 状態から読むだけの読み手。 -/
def Views {γ : Type} (g : Read γ) (view : ReadState → γ) : Prop := ∀ s, g s = .ok (view s, s)

theorem views_peek : Views peek (·.source.next) := fun _ => rfl

theorem views_position : Views position (·.source.position) := fun _ => rfl

theorem views_remaining : Views remaining (·.source.rest.length + 2) := fun _ => rfl

theorem views_groupCount : Views groupCount (·.groups.length) := fun _ => rfl

theorem views_groupWidth (number : Nat) :
    Views (groupWidth number) fun s => s.groups[number]?.join := fun _ => rfl

theorem views_findName (label : Text) :
    Views (findName label) fun s => (s.names.find? (·.1 == label)).map (·.2) := fun _ => rfl

theorem views_wholeFlags : Views wholeFlags (·.flags) := fun _ => rfl

theorem views_lookbehindStart : Views lookbehindStart (·.lookbehindGroups) := fun _ => rfl

section Views

variable {γ : Type} {g : Read γ} {view : ReadState → γ}

theorem Views.keeps (hg : Views g view) : Keeps g := by
  intro s a s' h
  rw [hg s] at h
  cases h
  exact .refl s

/-- 状態から読んだ後の続きは、その状態から続く。 -/
theorem Views.bind (hg : Views g view) {f : γ → Read β} (s : ReadState) :
    (g >>= f) s = f (view s) s := bind_of_ok (hg s)

/-- 続きが読んだ値によらないなら、違う値を読んでもよい。 -/
theorem Views.along_bind (hg : Views g view) {f f' : γ → Read β}
    (hf : ∀ a b, Along y share l (f a) (f' b)) : Along y share l (g >>= f) (g >>= f') := by
  refine ⟨hg.keeps.bind fun a => (hf a a).keeps, fun {s t _ _ _ _} hs h h' => ?_⟩
  rw [hg.bind] at h h'
  exact (hf (view s) (view t)).sync hs h h'

/-- 二つの状態から同じ値を読む。 -/
theorem Views.along_bind_eq (hg : Views g view) {f f' : γ → Read β}
    (hview : ∀ {s t}, Follows y share s t → view t = view s)
    (hf : ∀ a, Along y share l (f a) (f' a)) : Along y share l (g >>= f) (g >>= f') := by
  refine ⟨hg.keeps.bind fun a => (hf a).keeps, fun {s t _ _ _ _} hs h h' => ?_⟩
  rw [hg.bind] at h h'
  rw [hview hs] at h'
  exact (hf (view s)).sync hs h h'

theorem Views.failsAt_bind (hg : Views g view) {f : γ → Read β} (hf : ∀ a, FailsAt l (f a)) :
    FailsAt l (g >>= f) := hg.keeps.failsAt_bind hf

end Views

/-! ## 字句 -/

/-- 前者に字句があれば、二つの用意した字句は同じである。 -/
theorem Source.Before.next_eq {s t : Source} (h : s.Before y t) (hs : s.text ≠ []) :
    t.next = s.next ∧ s.next ≠ none := by
  cases h with
  | within => exact ⟨rfl, nofun⟩
  | ended => exact absurd rfl hs

theorem Source.Before.text_nil {s t : Source} (h : s.Before y t) (hs : s.next = none) :
    s.text = [] := by
  cases h with
  | within => cases hs
  | ended => rfl

/-- 字句があるうちに次を用意すると、二つは揃って進む。 -/
theorem Source.Before.advance {s t s' t' : Source} (h : s.Before y t) (hs : s.next ≠ none)
    (hs' : s.advance = .ok s') (ht' : t.advance = .ok t') : s'.Before y t' := by
  cases h with
  | ended => exact absurd rfl hs
  | @within tok rest i j =>
    have hsplit : Splits rest s'.next s'.rest := Source.splits_of_advance hs'
    have hsplit' : Splits (rest ++ y) t'.next t'.rest := Source.splits_of_advance ht'
    obtain ⟨rest₁, i₁, next₁⟩ := s'
    obtain ⟨rest₂, j₁, next₂⟩ := t'
    cases next₁ with
    | none =>
      cases hsplit
      exact .ended hsplit'
    | some t =>
      obtain ⟨rfl, rfl⟩ := (hsplit.append y).unique hsplit'
      exact .within

/-- 字句があるうちに取れば、二つは同じ字句を取る。 -/
theorem Follows.take {s t s' t' : ReadState} {a b : Option Token} (hs : Follows y share s t)
    (hnext : s.source.next ≠ none) (h : take s = .ok (a, s')) (h' : take t = .ok (b, t')) :
    Follows y share s' t' ∧ a = b := by
  obtain ⟨source, hsource, rfl, rfl⟩ := take_ok h
  obtain ⟨source', hsource', rfl, rfl⟩ := take_ok h'
  have htext : s.source.text ≠ [] := fun hnil => hnext (Source.next_of_text_nil hnil).1
  refine ⟨⟨hs.source.advance hnext hsource hsource', hs.flags, hs.joint, hs.apart⟩, ?_⟩
  exact (hs.source.next_eq htext).1.symm

/-- 使い切った状態で字句を取っても、使い切ったままである。 -/
theorem text_of_take {s s' : ReadState} {a : Option Token} (hs : s.source.text = [])
    (h : take s = .ok (a, s')) : a = none ∧ s'.source.text = [] := by
  obtain ⟨source, hsource, rfl, rfl⟩ := take_ok h
  obtain ⟨hnext, hrest⟩ := Source.next_of_text_nil hs
  refine ⟨hnext, ?_⟩
  show source.text = []
  rw [Source.text_of_advance hsource, hrest]

theorem along_take (hl : l ≠ .nothing) : Along y share l take take := by
  refine ⟨keeps_take, fun {s} _ _ _ _ _ hs h h' => ?_⟩
  by_cases hnext : s.source.next = none
  · exact .inl (Loss.at_of_text_nil hl (text_of_take (hs.source.text_nil hnext) h).2)
  · exact .inr (.inr (hs.take hnext h h'))

/-- 字句がなければ失敗する続きは、字句を取るのと揃って進む。 -/
theorem along_take_bind {f f' : Option Token → Read β} (hf : ∀ t, Along y share l (f t) (f' t))
    (hnone : FailsAt .ended (f none)) : Along y share l (take >>= f) (take >>= f') := by
  refine ⟨keeps_take.bind fun t => (hf t).keeps, fun {s} _ _ _ _ _ hs h h' => ?_⟩
  obtain ⟨a, s₁, h₁, h₂⟩ := ok_of_bind h
  obtain ⟨b, t₁, h₁', h₂'⟩ := ok_of_bind h'
  by_cases hnext : s.source.next = none
  · obtain ⟨rfl, hnil⟩ := text_of_take (hs.source.text_nil hnext) h₁
    exact absurd h₂ (hnone _ _ hnil)
  · obtain ⟨hs₁, rfl⟩ := hs.take hnext h₁ h₁'
    exact (hf a).sync hs₁ h₂ h₂'

/-- 使い切れば、字句は取れない。 -/
theorem failsAt_take_bind {f : Option Token → Read β} (hnone : FailsAt .ended (f none)) :
    FailsAt .ended (take >>= f) := by
  intro s x hs hx
  obtain ⟨a, s₁, h₁, h₂⟩ := ok_of_bind hx
  obtain ⟨rfl, hnil⟩ := text_of_take hs h₁
  exact hnone s₁ x hnil h₂

/-- ただの字にしか続きがないなら、その続きが揃えばよい。 -/
theorem along_take_plain {f f' : Option Token → Read β}
    (hplain : ∀ c, Along y share l (f (some (.plain c))) (f' (some (.plain c))))
    (hnone : NeverOk (f none)) (hescaped : ∀ c, NeverOk (f (some (.escaped c)))) :
    Along y share l (take >>= f) (take >>= f') := by
  refine along_take_bind (fun t => ?_) hnone.failsAt
  cases t with
  | none => exact hnone.along
  | some t =>
    cases t with
    | escaped c => exact (hescaped c).along
    | plain c => exact hplain c

theorem along_peek (hl : l ≠ .nothing) : Along y share l peek peek := by
  refine ⟨views_peek.keeps, fun {s} _ _ _ _ _ hs h h' => ?_⟩
  cases h
  cases h'
  by_cases htext : s.source.text = []
  · exact .inl (Loss.at_of_text_nil hl htext)
  · exact .inr (.inr ⟨hs, (hs.source.next_eq htext).1.symm⟩)

/-- 字句がなければ失敗する続きは、字句を覗くのと揃って進む。 -/
theorem along_peek_bind {f f' : Option Token → Read β} (hf : ∀ t, Along y share l (f t) (f' t))
    (hnone : FailsAt .ended (f none)) : Along y share l (peek >>= f) (peek >>= f') := by
  refine ⟨views_peek.keeps.bind fun t => (hf t).keeps, fun {s} _ _ _ _ _ hs h h' => ?_⟩
  rw [views_peek.bind] at h h'
  by_cases htext : s.source.text = []
  · rw [(Source.next_of_text_nil htext).1] at h
    exact absurd h (hnone _ _ htext)
  · rw [(hs.source.next_eq htext).1] at h'
    exact (hf _).sync hs h h'

/-! ## 一字を受け入れる -/

/-- 字を受け入れるのは、用意した字句がその字のときだけである。 -/
theorem accept_ok {c : Char} {s s' : ReadState} {b : Bool} (h : accept c s = .ok (b, s')) :
    (b = true ∧ s.source.next = some (.plain c) ∧ take s = .ok (some (.plain c), s')) ∨
      (b = false ∧ s.source.next ≠ some (.plain c) ∧ s' = s) := by
  unfold accept at h
  obtain ⟨x, s₁, hpeek, h⟩ := ok_of_bind h
  cases hpeek
  split at h
  · next heq =>
    obtain ⟨t, s₂, htake, h⟩ := ok_of_bind h
    cases h
    have hnext : s.source.next = some (.plain c) := by simpa using heq
    obtain ⟨source, hsource, rfl, hs'⟩ := take_ok htake
    exact .inl ⟨rfl, hnext, by rw [← hnext]; exact htake⟩
  · next hne =>
    cases h
    exact .inr ⟨rfl, by simpa using hne, rfl⟩

/-- 取った字は、残りの先頭の字である。 -/
theorem text_of_take_plain {c : Char} {s s' : ReadState}
    (h : take s = .ok (some (.plain c), s')) : s.source.text = c :: s'.source.text := by
  obtain ⟨source, hsource, hnext, rfl⟩ := take_ok h
  show s.source.text = c :: source.text
  rw [Source.text_of_advance hsource]
  unfold Source.text
  rw [← hnext]
  rfl

/-- 残りから除かれるのは、受け入れた字だけである。 -/
theorem mem_text_of_accept {c d : Char} {s s' : ReadState} {b : Bool}
    (h : accept c s = .ok (b, s')) (hd : d ∈ s.source.text) : d = c ∨ d ∈ s'.source.text := by
  rcases accept_ok h with ⟨-, -, htake⟩ | ⟨-, -, rfl⟩
  · rw [text_of_take_plain htake] at hd
    exact List.mem_cons.mp hd
  · exact .inr hd

theorem keeps_accept (c : Char) : Keeps (accept c) := by
  intro s b s' h
  rcases accept_ok h with ⟨-, -, htake⟩ | ⟨-, -, rfl⟩
  · exact keeps_take s _ _ htake
  · exact .refl _

/-- 使い切っていなければ、受け入れるかどうかは同じである。 -/
theorem Follows.accept {c : Char} {s t s' t' : ReadState} {a b : Bool}
    (hs : Follows y share s t) (hnext : t.source.next = s.source.next)
    (h : accept c s = .ok (a, s')) (h' : accept c t = .ok (b, t')) :
    Follows y share s' t' ∧ a = b := by
  rcases accept_ok h with ⟨rfl, heq, htake⟩ | ⟨rfl, hne, rfl⟩
  · rcases accept_ok h' with ⟨rfl, -, htake'⟩ | ⟨rfl, hne', -⟩
    · exact ⟨(hs.take (by rw [heq]; nofun) htake htake').1, rfl⟩
    · exact absurd (hnext.trans heq) hne'
  · rcases accept_ok h' with ⟨rfl, heq', -⟩ | ⟨rfl, -, rfl⟩
    · exact absurd (hnext.symm.trans heq') hne
    · exact ⟨hs, rfl⟩

/-- 文字列の始まりの字は、条件 `p` を満たさない。 -/
def Shuts (y : Text) (p : Char → Prop) : Prop := ∀ c rest, y = c :: rest → ¬ p c

/-- 使い切ったとき、後者が用意した字は `y` の始まりの字である。 -/
theorem Source.Before.next_ended {s t : Source} (h : s.Before y t) (hs : s.text = []) {c : Char}
    (ht : t.next = some (.plain c)) : ∃ rest, y = c :: rest := by
  cases h with
  | within =>
    have := (Source.next_of_text_nil hs).1
    cases this
  | ended hsplit =>
    rw [ht] at hsplit
    cases hsplit
    exact ⟨_, rfl⟩

/-- 何も失わないときは、続く文字列が字 `c` で始まらなければよい。 -/
theorem along_accept {c : Char} (hl : l = .nothing → Shuts y (· = c)) :
    Along y share l (accept c) (accept c) := by
  refine ⟨keeps_accept c, fun {s} _ _ _ _ _ hs h h' => ?_⟩
  by_cases htext : s.source.text = []
  · by_cases hlost : l = .nothing
    · rcases accept_ok h with ⟨-, heq, -⟩ | ⟨rfl, hne, rfl⟩
      · rw [(Source.next_of_text_nil htext).1] at heq
        cases heq
      · rcases accept_ok h' with ⟨-, heq', -⟩ | ⟨rfl, -, rfl⟩
        · obtain ⟨rest, hrest⟩ := hs.source.next_ended htext heq'
          exact absurd rfl (hl hlost c rest hrest)
        · exact .inr (.inr ⟨hs, rfl⟩)
    · exact .inl ((Loss.at_of_text_nil hlost htext).kept (keeps_accept c _ _ _ h))
  · exact .inr (.inr (hs.accept (hs.source.next_eq htext).1 h h'))

/-- 使い切ったときに失敗する続きは、受け入れるのと揃って進む。 -/
theorem along_accept_bind {c : Char} {f f' : Bool → Read β} (hf : ∀ b, Along y share l (f b) (f' b))
    (hfalse : FailsAt .ended (f false)) : Along y share l (accept c >>= f) (accept c >>= f') := by
  refine ⟨(keeps_accept c).bind fun b => (hf b).keeps, fun {s} _ _ _ _ _ hs h h' => ?_⟩
  obtain ⟨a, s₁, h₁, h₂⟩ := ok_of_bind h
  obtain ⟨b, t₁, h₁', h₂'⟩ := ok_of_bind h'
  by_cases htext : s.source.text = []
  · rcases accept_ok h₁ with ⟨-, hnext, -⟩ | ⟨rfl, -, rfl⟩
    · rw [(Source.next_of_text_nil htext).1] at hnext
      cases hnext
    · exact absurd h₂ (hfalse _ _ htext)
  · obtain ⟨hs₁, rfl⟩ := hs.accept (hs.source.next_eq htext).1 h₁ h₁'
    exact (hf a).sync hs₁ h₂ h₂'

/-- 失った後に用意してある字は、数字か読点だけである。 -/
theorem Loss.At.next_ne {s : ReadState} {c : Char} (h : l.At s)
    (hc : ¬ (c.isDigit = true ∨ c = ',')) : s.source.next ≠ some (.plain c) := by
  intro hnext
  have hmem : c ∈ s.source.text := by
    unfold Source.text
    rw [hnext]
    exact List.mem_cons_self
  cases l with
  | nothing => exact h
  | ended =>
    have hnil : s.source.text = [] := h
    rw [hnil] at hmem
    cases hmem
  | trapped => exact hc (h c hmem)

/-- 失った後に数字でも読点でもない字を受け入れることはない。 -/
theorem failsAt_accept_bind {c : Char} {f : Bool → Read β} (hc : ¬ (c.isDigit = true ∨ c = ','))
    (hf : FailsAt l (f false)) : FailsAt l (accept c >>= f) := by
  intro s x hs hx
  obtain ⟨b, s₁, h₁, h₂⟩ := ok_of_bind hx
  rcases accept_ok h₁ with ⟨-, hnext, -⟩ | ⟨rfl, -, rfl⟩
  · exact hs.next_ne hc hnext
  · exact hf s₁ x hs h₂

/-! ## 続けて取る -/

/-- 条件を満たす字を取るのは、用意した字句がその字のときだけである。 -/
theorem takeUpTo_ok {p : Char → Bool} {count : Nat} {s s' : ReadState} {taken : Text}
    (h : takeUpTo p (count + 1) s = .ok (taken, s')) :
    (∃ c s₁ rest, s.source.next = some (.plain c) ∧ p c = true ∧
        take s = .ok (some (.plain c), s₁) ∧ takeUpTo p count s₁ = .ok (rest, s') ∧
        taken = c :: rest) ∨
      (taken = [] ∧ s' = s ∧ ∀ c, s.source.next = some (.plain c) → p c = false) := by
  unfold takeUpTo at h
  obtain ⟨x, s₁, hpeek, h⟩ := ok_of_bind h
  cases hpeek
  cases hnext : s.source.next with
  | none =>
    rw [hnext] at h
    cases h
    exact .inr ⟨rfl, rfl, nofun⟩
  | some t =>
    rw [hnext] at h
    cases t with
    | escaped d =>
      cases h
      exact .inr ⟨rfl, rfl, nofun⟩
    | plain c =>
      by_cases hp : p c = true
      · change (if p c = true then _ else _ : Read Text) s = _ at h
        rw [if_pos hp] at h
        obtain ⟨t, s₂, htake, h⟩ := ok_of_bind h
        obtain ⟨rest, s₃, hrest, h⟩ := ok_of_bind h
        cases h
        have ht := htake
        obtain ⟨source, -, rfl, rfl⟩ := take_ok htake
        exact .inl ⟨c, _, rest, rfl, hp, by rw [← hnext]; exact ht, hrest, rfl⟩
      · change (if p c = true then _ else _ : Read Text) s = _ at h
        rw [if_neg hp] at h
        cases h
        refine .inr ⟨rfl, rfl, fun d hd => ?_⟩
        cases hd
        exact Bool.eq_false_iff.mpr hp

theorem keeps_takeUpTo (p : Char → Bool) (count : Nat) : Keeps (takeUpTo p count) := by
  induction count with
  | zero => exact keeps_pure []
  | succ count ih =>
    intro s taken s' h
    rcases takeUpTo_ok h with ⟨c, s₁, rest, -, -, htake, hrest, -⟩ | ⟨-, rfl, -⟩
    · exact (keeps_take s _ s₁ htake).trans (ih s₁ rest s' hrest)
    · exact .refl _

/-- 残りから除かれるのは、条件を満たす字だけである。 -/
theorem mem_text_of_takeUpTo {p : Char → Bool} {count : Nat} : ∀ {s s' : ReadState} {taken : Text},
    takeUpTo p count s = .ok (taken, s') →
      ∀ d ∈ s.source.text, p d = true ∨ d ∈ s'.source.text := by
  induction count with
  | zero =>
    intro s s' taken h d hd
    cases h
    exact .inr hd
  | succ count ih =>
    intro s s' taken h d hd
    rcases takeUpTo_ok h with ⟨c, s₁, rest, -, hpc, htake, hrest, -⟩ | ⟨-, rfl, -⟩
    · rw [text_of_take_plain htake, List.mem_cons] at hd
      rcases hd with rfl | hd
      · exact .inl hpc
      · exact ih hrest d hd
    · exact .inr hd

/-- 使い切っていなければ、取り始めは同じである。 -/
theorem Follows.takeUpTo_nil {p : Char → Bool} {count : Nat} {s t : ReadState} {b : Text}
    {t' : ReadState} (hp : ∀ c, t.source.next = some (.plain c) → p c = false)
    (hs : Follows y share s t) (h' : takeUpTo p count t = .ok (b, t')) :
    Follows y share s t' ∧ ([] : Text) = b := by
  cases count with
  | zero =>
    cases h'
    exact ⟨hs, rfl⟩
  | succ count =>
    rcases takeUpTo_ok h' with ⟨c, t₁, rest, hnext, hpc, -⟩ | ⟨rfl, rfl, -⟩
    · rw [hp c hnext] at hpc
      cases hpc
    · exact ⟨hs, rfl⟩

/-- 何も失わないときは、続く文字列が条件を満たす字で始まらなければよい。 -/
theorem along_takeUpTo {p : Char → Bool} (hl : l = .nothing → Shuts y (p · = true)) (count : Nat) :
    Along y share l (takeUpTo p count) (takeUpTo p count) := by
  refine ⟨keeps_takeUpTo p count, ?_⟩
  induction count with
  | zero => exact fun hs h h' => (along_pure []).sync hs h h'
  | succ count ih =>
    intro s t a s' b t' hs h h'
    by_cases htext : s.source.text = []
    · by_cases hlost : l = .nothing
      · rcases takeUpTo_ok h with ⟨c, s₁, rest, heq, -⟩ | ⟨rfl, rfl, -⟩
        · rw [(Source.next_of_text_nil htext).1] at heq
          cases heq
        · refine .inr (.inr (hs.takeUpTo_nil (fun c hc => ?_) h'))
          obtain ⟨rest, hrest⟩ := hs.source.next_ended htext hc
          exact Bool.eq_false_iff.mpr (hl hlost c rest hrest)
      · exact .inl ((Loss.at_of_text_nil hlost htext).kept (keeps_takeUpTo p _ _ _ _ h))
    · have hnext := (hs.source.next_eq htext).1
      rcases takeUpTo_ok h with ⟨c, s₁, rest, heq, hpc, htake, hrest, rfl⟩ | ⟨rfl, rfl, hp⟩
      · rcases takeUpTo_ok h' with ⟨c', t₁, rest', heq', -, htake', hrest', rfl⟩ | ⟨-, -, hp'⟩
        · cases heq.symm.trans (hnext.symm.trans heq')
          have hs₁ := (hs.take (by rw [heq]; nofun) htake htake').1
          rcases ih hs₁ hrest hrest' with hlost | hdrift | ⟨hs', rfl⟩
          · exact .inl hlost
          · exact .inr (.inl hdrift)
          · exact .inr (.inr ⟨hs', rfl⟩)
        · rw [hp' c (hnext.trans heq)] at hpc
          cases hpc
      · refine .inr (.inr (hs.takeUpTo_nil (fun c hc => hp c ?_) h'))
        rw [← hnext]
        exact hc

/-- 求めた個数だけ取れたなら、先を覗いていない。 -/
theorem Follows.takeUpTo_full {p : Char → Bool} {count : Nat} : ∀ {s t s' t' : ReadState}
    {a b : Text}, Follows y share s t → takeUpTo p count s = .ok (a, s') → a.length = count →
      takeUpTo p count t = .ok (b, t') → Follows y share s' t' ∧ a = b := by
  induction count with
  | zero =>
    intro s t s' t' a b hs h _ h'
    cases h
    cases h'
    exact ⟨hs, rfl⟩
  | succ count ih =>
    intro s t s' t' a b hs h hlength h'
    rcases takeUpTo_ok h with ⟨c, s₁, rest, heq, hpc, htake, hrest, rfl⟩ | ⟨rfl, -, -⟩
    · have htext : s.source.text ≠ [] := by
        intro hnil
        rw [(Source.next_of_text_nil hnil).1] at heq
        cases heq
      have hnext := (hs.source.next_eq htext).1
      rcases takeUpTo_ok h' with ⟨c', t₁, rest', heq', -, htake', hrest', rfl⟩ | ⟨-, -, hp'⟩
      · cases heq.symm.trans (hnext.symm.trans heq')
        have hs₁ := (hs.take (by rw [heq]; nofun) htake htake').1
        obtain ⟨hs', rfl⟩ := ih hs₁ hrest (Nat.succ.inj hlength) hrest'
        exact ⟨hs', rfl⟩
      · rw [hp' c (hnext.trans heq)] at hpc
        cases hpc
    · cases hlength

/-- 求めた個数だけ取れなければ失敗する続きは、取るのと揃って進む。 -/
theorem along_takeUpTo_bind {p : Char → Bool} {count : Nat} {f f' : Text → Read β}
    (hf : ∀ taken, Along y share l (f taken) (f' taken))
    (hshort : ∀ taken, taken.length ≠ count → NeverOk (f taken)) :
    Along y share l (takeUpTo p count >>= f) (takeUpTo p count >>= f') := by
  refine ⟨(keeps_takeUpTo p count).bind fun a => (hf a).keeps, fun hs h h' => ?_⟩
  obtain ⟨a, s₁, h₁, h₂⟩ := ok_of_bind h
  obtain ⟨b, t₁, h₁', h₂'⟩ := ok_of_bind h'
  by_cases hlength : a.length = count
  · obtain ⟨hs₁, rfl⟩ := hs.takeUpTo_full h₁ hlength h₁'
    exact (hf a).sync hs₁ h₂ h₂'
  · exact absurd h₂ (hshort a hlength _ _)

theorem takeUpTo_of_text_nil {p : Char → Bool} {count : Nat} {s : ReadState}
    (hs : s.source.text = []) : takeUpTo p count s = .ok ([], s) := by
  cases count with
  | zero => rfl
  | succ count =>
    unfold takeUpTo
    rw [views_peek.bind, (Source.next_of_text_nil hs).1]
    rfl

/-- 残りの文字数だけ取れるなら、取れる個数によらない。 -/
theorem takeUpTo_enough {p : Char → Bool} {n : Nat} : ∀ {m : Nat} {s : ReadState},
    s.source.text.length ≤ n → s.source.text.length ≤ m → takeUpTo p n s = takeUpTo p m s := by
  induction n with
  | zero =>
    intro m s hn _
    have hnil : s.source.text = [] := List.eq_nil_of_length_eq_zero (Nat.le_zero.mp hn)
    rw [takeUpTo_of_text_nil hnil, takeUpTo_of_text_nil hnil]
  | succ n ih =>
    intro m s hn hm
    cases m with
    | zero =>
      have hnil : s.source.text = [] := List.eq_nil_of_length_eq_zero (Nat.le_zero.mp hm)
      rw [takeUpTo_of_text_nil hnil, takeUpTo_of_text_nil hnil]
    | succ m =>
      unfold takeUpTo
      rw [views_peek.bind, views_peek.bind]
      cases hnext : s.source.next with
      | none => rfl
      | some t =>
        cases t with
        | escaped c => rfl
        | plain c =>
          dsimp only
          split
          · show (take s >>= fun x => _) = (take s >>= fun x => _)
            cases htake : take s with
            | error e => rfl
            | ok x =>
              obtain ⟨source, hsource, -, hs'⟩ := take_ok htake
              have hlength : s.source.text.length = source.text.length + 1 := by
                rw [Source.text_of_advance hsource]
                unfold Source.text
                rw [hnext]
                exact List.length_cons
              have hrest : takeUpTo p n x.2 = takeUpTo p m x.2 := by
                rw [hs']
                refine ih ?_ ?_
                · show source.text.length ≤ n
                  omega
                · show source.text.length ≤ m
                  omega
              show (takeUpTo p n x.2 >>= fun x => _) = (takeUpTo p m x.2 >>= fun x => _)
              rw [hrest]
          · rfl

/-- 字句を取れば、残りは短くなる。 -/
theorem length_text_of_take {t : Token} {s s' : ReadState} (h : take s = .ok (some t, s')) :
    s'.source.text.length < s.source.text.length := by
  obtain ⟨source, hsource, hnext, rfl⟩ := take_ok h
  show source.text.length < s.source.text.length
  rw [Source.text_of_advance hsource]
  unfold Source.text
  rw [← hnext, List.length_append]
  cases t <;> simp [Token.chars]

/-- 残りの文字数の目安は、残りの文字数より小さくない。 -/
theorem length_text_le (s : Source) : s.text.length ≤ s.rest.length + 2 := by
  unfold Source.text
  rw [List.length_append]
  cases s.next with
  | none => exact Nat.add_comm 0 _ |>.symm ▸ Nat.le_add_right _ 2
  | some t => cases t <;> simp [Token.chars] <;> omega

theorem takeAll_eq {p : Char → Bool} {n : Nat} {s : ReadState}
    (h : s.source.text.length ≤ n) : takeAll p s = takeUpTo p n s :=
  takeUpTo_enough (length_text_le s.source) h

theorem keeps_takeAll (p : Char → Bool) : Keeps (takeAll p) := by
  intro s a s' h
  rw [takeAll_eq (Nat.le_refl _)] at h
  exact keeps_takeUpTo p _ s a s' h

theorem along_takeAll {p : Char → Bool} (hl : l = .nothing → Shuts y (p · = true)) :
    Along y share l (takeAll p) (takeAll p) := by
  refine ⟨keeps_takeAll p, fun {s t _ _ _ _} hs h h' => ?_⟩
  rw [takeAll_eq (Nat.le_max_left _ t.source.text.length)] at h
  rw [takeAll_eq (Nat.le_max_right s.source.text.length _)] at h'
  exact (along_takeUpTo hl _).sync hs h h'

/-! ## 名前 -/

/-- 名前は、終わりの印まで読む。 -/
theorem along_nameLoop (terminator : Char) (what : String) (n : Nat) : ∀ (n' : Nat) (taken : Text),
    Along y share l (nameLoop terminator what n taken) (nameLoop terminator what n' taken) := by
  induction n with
  | zero => exact fun _ _ => along_fail
  | succ n ih =>
    intro n' taken
    refine along_fuel (f := fun n' => nameLoop terminator what n' taken) (neverOk_fail _ _) ?_ n'
    intro n'
    have hnone : NeverOk (if taken.isEmpty then fail (.missingName what) 0
        else fail (.unterminatedName terminator) taken.length : Read Text) := by
      split <;> exact neverOk_fail _ _
    refine along_take_bind (fun t => ?_) hnone.failsAt
    cases t with
    | none => exact hnone.along
    | some t =>
      exact along_ite (fun _ => along_ite (fun _ => along_fail) fun _ => along_pure _)
        fun _ => ih n' _

theorem failsAt_nameLoop (terminator : Char) (what : String) (n : Nat) (taken : Text) :
    FailsAt .ended (nameLoop terminator what n taken) := by
  cases n with
  | zero => exact (neverOk_fail _ _).failsAt
  | succ n =>
    refine failsAt_take_bind ?_
    exact failsAt_ite (fun _ => (neverOk_fail _ _).failsAt) fun _ => (neverOk_fail _ _).failsAt

theorem along_name (terminator : Char) (what : String) :
    Along y share l (name terminator what) (name terminator what) :=
  views_remaining.along_bind fun n n' => along_nameLoop terminator what n n' []

theorem failsAt_name (terminator : Char) (what : String) :
    FailsAt .ended (name terminator what) :=
  views_remaining.failsAt_bind fun n => failsAt_nameLoop terminator what n []

theorem along_checkName (s : Text) : Along y share l (checkName s) (checkName s) :=
  along_ite (fun _ => along_pure _) fun _ => along_fail

end Along

end Tategaki.Regex
