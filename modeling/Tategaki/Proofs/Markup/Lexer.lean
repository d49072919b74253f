import Mathlib.Data.List.Infix
import Tategaki.Markup.Lexer
import Tategaki.Proofs.Step.Outcome

/-!
# 字句の読み残し

印を一つ読んだ後に残るのは、元の文字列の末尾である（`markup_suffix`）。だから、残りが長くなることはなく、字句を
順に読む手続きは、文字数だけの燃料で足りる。
-/

namespace Tategaki.Markup

open Unicode

namespace Lexer

/-! ## 探す -/

/-- 受け入れた後に残るのは、末尾である。 -/
def Chops (ends : Text → Option Text) : Prop := ∀ s rest, ends s = some rest → rest <:+ s

theorem Chops.bind {ends ends' : Text → Option Text} (h : Chops ends) (h' : Chops ends') :
    Chops fun s => (ends s).bind ends' := by
  intro s rest heq
  obtain ⟨middle, hmiddle, hrest⟩ := Option.bind_eq_some_iff.mp heq
  exact (h' _ _ hrest).trans (h _ _ hmiddle)

theorem Chops.dropWhile {ends : Text → Option Text} (h : Chops ends) (p : Char → Bool) :
    Chops fun s => ends (s.dropWhile p) :=
  fun _ _ heq => (h _ _ heq).trans (List.dropWhile_suffix p)

theorem chops_mark (m : Char) : Chops (mark m) := by
  intro s rest h
  cases s with
  | nil => cases h
  | cons c s =>
    rw [mark] at h
    split at h
    · cases h
      exact List.suffix_cons _ _
    · cases h

theorem chops_spacedClose : Chops spacedClose := (chops_mark '>').dropWhile isBlank

theorem chops_commentEnd : Chops commentEnd :=
  ((chops_mark '-').bind (chops_mark '-')).bind chops_spacedClose

theorem chops_sectionEnd : Chops sectionEnd :=
  (chops_mark ']').bind (((chops_mark ']').dropWhile isBlank).bind chops_spacedClose)

theorem chops_conditionEnd : Chops conditionEnd := (chops_mark ']').bind chops_spacedClose

theorem chops_closesRaw (name : String) : Chops (closesRaw name) := by
  refine ((chops_mark '<').bind (chops_mark '/')).bind fun s rest h => ?_
  dsimp only at h
  split at h
  · exact ((chops_spacedClose _ _ h).trans (List.drop_suffix _ _)).trans (List.dropWhile_suffix _)
  · cases h

theorem upTo_suffix {ends : Text → Option Text} (hends : Chops ends) :
    ∀ {s found rest : Text}, upTo ends s = some (found, rest) → rest <:+ s := by
  intro s
  induction s with
  | nil =>
    intro found rest h
    rw [upTo] at h
    obtain ⟨rest', hrest, heq⟩ := Option.map_eq_some_iff.mp h
    cases heq
    exact hends _ _ hrest
  | cons c s ih =>
    intro found rest h
    rw [upTo] at h
    split at h
    · next hrest =>
      cases h
      exact hends _ _ hrest
    · obtain ⟨⟨found', rest'⟩, hfound, heq⟩ := Option.map_eq_some_iff.mp h
      cases heq
      exact (ih hfound).trans (List.suffix_cons c s)

/-- 探して作った出来事の後に残るのは、末尾である。 -/
theorem map_upTo_suffix {α : Type} {ends : Text → Option Text} (hends : Chops ends)
    {event : Text × Text → α × Text} {s rest : Text} {found : α}
    (h : (upTo ends s).map event = some (found, rest))
    (hevent : ∀ inside rest, (event (inside, rest)).2 = rest) : rest <:+ s := by
  obtain ⟨⟨inside, rest'⟩, hinside, heq⟩ := Option.map_eq_some_iff.mp h
  have hrest : rest = rest' := by rw [← hevent inside rest', heq]
  exact hrest ▸ upTo_suffix hends hinside

/-! ## 要素の始まり -/

theorem skipGaps_suffix (s : Text) : ∀ last : Char, (skipGaps last s).2 <:+ s := by
  induction s with
  | nil => exact fun _ => List.suffix_rfl
  | cons c s ih =>
    intro last
    rw [skipGaps]
    split
    · split
      · exact List.suffix_rfl
      · exact (ih c).trans (List.suffix_cons c s)
    · split
      · exact (ih c).trans (List.suffix_cons c s)
      · exact List.suffix_rfl

theorem bareValue_suffix (last : Char) (s : Text) : (bareValue last s).rest <:+ s :=
  List.drop_suffix _ _

/-- 等号から始まる引用符のない値は、少なくとも等号を読む。 -/
theorem bareValue_equals_suffix (last : Char) (s : Text) :
    (bareValue last ('=' :: s)).rest <:+ s := by
  unfold bareValue
  rw [List.takeWhile_cons_of_pos (by decide)]
  dsimp only
  rw [List.length_cons, List.drop_succ_cons]
  exact List.drop_suffix _ _

theorem attributeValue?_suffix {s : Text} {found : ValueFound}
    (h : attributeValue? s = some found) : found.rest <:+ s := by
  unfold attributeValue? at h
  dsimp only at h
  split at h
  · cases h
  · generalize hafter : ((s.dropWhile isBlank).drop
      ((s.dropWhile isBlank).takeWhile (· == '=')).length) = after at h
    have hsuffix : after <:+ s := by
      rw [← hafter]
      exact (List.drop_suffix _ _).trans (List.dropWhile_suffix _)
    generalize hvalue : after.drop (after.takeWhile isBlank).length = value at h
    have hvalue : value <:+ s := by
      rw [← hvalue]
      exact (List.drop_suffix _ _).trans hsuffix
    split at h
    · cases h
      exact List.nil_suffix
    · next q inside _ =>
      have hinside : inside <:+ s := (List.suffix_cons q inside).trans hvalue
      split at h
      · split at h
        · next hquoted =>
          cases h
          obtain ⟨⟨value', rest⟩, hupTo, rfl⟩ := Option.map_eq_some_iff.mp hquoted
          exact (upTo_suffix (chops_mark q) hupTo).trans hinside
        · split at h
          · cases h
            exact hvalue
          · split at h
            · cases h
              exact (bareValue_equals_suffix '=' _).trans hvalue
            · cases h
      · cases h
        exact (bareValue_suffix _ _).trans hvalue

theorem attributes_suffix (fuel : Nat) : ∀ (last : Char) (s : Text),
    (attributes fuel last s).2 <:+ s := by
  induction fuel with
  | zero => exact fun _ _ => List.suffix_rfl
  | succ fuel ih =>
    intro last s
    cases s with
    | nil => exact List.suffix_rfl
    | cons c s =>
      rw [attributes]
      split
      · exact List.suffix_rfl
      · dsimp only
        refine (ih _ _).trans ((skipGaps_suffix _ _).trans ?_)
        refine List.IsSuffix.trans ?_ (List.suffix_cons c s)
        cases hvalue : attributeValue?
            (s.drop (s.takeWhile fun c => !(isBlank c || c == '/' || c == '=' || c == '>')).length)
            with
        | none => exact List.drop_suffix _ _
        | some found => exact (attributeValue?_suffix hvalue).trans (List.drop_suffix _ _)

/-- 要素の始まりを読んだ後に残るもの。 -/
def TagOutcome.rest? : TagOutcome → Option Text
  | unfinished => none
  | junk _ rest => some rest
  | tag _ _ _ rest => some rest

theorem startTag_suffix {s rest : Text} {outcome : TagOutcome} (h : startTag s = .ok outcome)
    (hrest : outcome.rest? = some rest) : rest <:+ s := by
  unfold startTag at h
  dsimp only at h
  generalize hname : s.takeWhile (!endsName ·) = name at h
  have hsuffix : (attributes ((skipGaps (name.getLastD ' ') (s.drop name.length)).2.length + 1)
      (skipGaps (name.getLastD ' ') (s.drop name.length)).1
      (skipGaps (name.getLastD ' ') (s.drop name.length)).2).2 <:+ s :=
    (attributes_suffix _ _ _).trans ((skipGaps_suffix _ _).trans (List.drop_suffix _ _))
  generalize attributes _ _ _ = result at h hsuffix
  obtain ⟨found, after⟩ := result
  dsimp only at h hsuffix
  split at h
  · cases h
    cases hrest
  · obtain ⟨found', -, rfl⟩ := exists_of_map_ok h
    cases hrest
    exact (List.suffix_cons _ _).trans hsuffix
  · obtain ⟨found', -, rfl⟩ := exists_of_map_ok h
    cases hrest
    exact ((List.suffix_cons _ _).trans (List.suffix_cons _ _)).trans hsuffix
  · split at h
    · cases h
      cases hrest
    · obtain ⟨found', -, rfl⟩ := exists_of_map_ok h
      cases hrest
      exact hsuffix

/-! ## 宣言と要素の終わり -/

theorem markedSection_suffix {s rest : Text} {found : List Event}
    (h : markedSection s = .ok (some (found, rest))) : rest <:+ s := by
  unfold markedSection at h
  split at h
  · cases h
  · split at h
    · cases h
    · split at h
      · cases h
      · dsimp only at h
        split at h
        · exact map_upTo_suffix chops_sectionEnd (Except.ok.inj h) fun _ _ => rfl
        · split at h
          · exact map_upTo_suffix chops_conditionEnd (Except.ok.inj h) fun _ _ => rfl
          · cases h

theorem declaration_suffix {s rest : Text} {found : List Event}
    (h : declaration s = .ok (some (found, rest))) : rest <:+ s := by
  unfold declaration at h
  split at h
  · exact ((map_upTo_suffix chops_commentEnd (Except.ok.inj h) fun _ _ => rfl).trans
      (List.suffix_cons _ _)).trans (List.suffix_cons _ _)
  · exact (markedSection_suffix h).trans (List.suffix_cons _ _)
  · split at h
    · exact (map_upTo_suffix (chops_mark '>') (Except.ok.inj h) fun _ _ => rfl).trans
        (List.drop_suffix _ _)
    · exact map_upTo_suffix (chops_mark '>') (Except.ok.inj h) fun _ _ => rfl

theorem looseEnd_suffix {s rest : Text} {found : List Event}
    (h : endTag.looseEnd s = some (found, rest)) : rest <:+ s := by
  unfold endTag.looseEnd at h
  split at h
  · cases h
  · cases h
    exact List.suffix_cons _ _
  · split at h
    · exact (map_upTo_suffix (chops_mark '>') h fun _ _ => rfl).trans (List.drop_suffix _ _)
    · exact map_upTo_suffix (chops_mark '>') h fun _ _ => rfl

theorem endTag_suffix {s rest : Text} {found : List Event}
    (h : endTag s = some (found, rest)) : rest <:+ s := by
  unfold endTag at h
  dsimp only at h
  split at h
  · next hclose =>
    split at h
    · cases h
      exact ((chops_spacedClose _ _ hclose).trans (List.drop_suffix _ _)).trans
        (List.dropWhile_suffix _)
    · exact looseEnd_suffix h
  · exact looseEnd_suffix h

/-! ## 印 -/

theorem afterStart_suffix (name : String) (found : List Attribute) (closed : Bool) (s : Text) :
    (afterStart name found closed s).2 <:+ s := by
  unfold afterStart
  dsimp only
  split
  · exact List.suffix_rfl
  · split
    · next hinside => exact upTo_suffix (chops_closesRaw name) hinside
    · exact List.nil_suffix

/-- **印を読んだ後に残るのは、末尾である。** -/
theorem markup_suffix {s rest : Text} {found : List Event}
    (h : markup s = .ok (some (found, rest))) : rest <:+ s := by
  unfold markup at h
  split at h
  · cases h
  · exact (endTag_suffix (Except.ok.inj h)).trans (List.suffix_cons _ _)
  · exact (map_upTo_suffix (chops_mark '>') (Except.ok.inj h) fun _ _ => rfl).trans
      (List.suffix_cons _ _)
  · exact (declaration_suffix h).trans (List.suffix_cons _ _)
  · split at h
    · split at h
      · cases h
      · cases h
      · next htag =>
        cases h
        exact startTag_suffix htag rfl
      · next name attributes closed after htag =>
        have hsuffix := afterStart_suffix name attributes closed after
        rw [Option.some.inj (Except.ok.inj h)] at hsuffix
        exact hsuffix.trans (startTag_suffix htag rfl)
    · cases h
      exact List.suffix_rfl

end Lexer

end Tategaki.Markup
