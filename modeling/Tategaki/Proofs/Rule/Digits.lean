import Tategaki.Proofs.Regex.Border
import Tategaki.Proofs.Rule.Settled

/-!
# 数字の続きを読み切る規則

半角と全角の数字の続きは、途中で切られると、残りをどの規則も読めなくなることがある。半角の小数の直後に全角の
数字が続き、その先に半角の数字が来る文字列（`Glued`）がそうである。

そうでない文字列では、数字の続きの頭から読む規則は、続きを読み切るか、全角の数字だけを残す（`Rule.EndsRuns`）。
走査し直す組が新たにそのような文字列になることはなく（`Rule.Encloses`）、半角の数字をそのまま出すこともない
（`Rule.HidesDigits`）。備え付けの規則はどれもそうであり（`digits_bundled`）、数字の続きの頭には必ずどれかが合う
（`exists_firstAt_bundled`）。
-/

namespace Tategaki

/-! ## 半角の小数に続く全角の数字 -/

/-- 半角の小数に全角の数字が続き、その先に半角の数字が来る。 -/
inductive StartsGlued : Text → Prop
  | intro {whole fraction wide : Text} {c : Char} (rest : Text)
      (hwhole : whole ≠ []) (hwhole' : ∀ d ∈ whole, isHalfDigit d = true)
      (hfraction : fraction ≠ []) (hfraction' : ∀ d ∈ fraction, isHalfDigit d = true)
      (hwide : wide ≠ []) (hwide' : ∀ d ∈ wide, isFullDigit d = true)
      (hc : isHalfDigit c = true) :
      StartsGlued (whole ++ '.' :: (fraction ++ (wide ++ c :: rest)))

/-- `StartsGlued` の判定。 -/
def startsGlued (s : Text) : Bool :=
  s.head?.any isHalfDigit &&
    match s.dropWhile isHalfDigit with
    | '.' :: s =>
      s.head?.any isHalfDigit && (s.dropWhile isHalfDigit).head?.any isFullDigit &&
        ((s.dropWhile isHalfDigit).dropWhile isFullDigit).head?.any isHalfDigit
    | _ => false

/-- 頭の一文字が条件に合うなら、条件に合う文字の続きは空でない。 -/
theorem takeWhile_ne_nil {p : Char → Bool} {s : Text} (h : s.head?.any p = true) :
    s.takeWhile p ≠ [] := by
  cases s with
  | nil => cases h
  | cons c s =>
    rw [List.takeWhile_cons_of_pos (show p c = true from h)]
    exact List.cons_ne_nil _ _

theorem isHalfDigit_of_isFullDigit {c : Char} (h : isFullDigit c = true) :
    isHalfDigit c = false := by
  have hcodes : '9'.val.toNat = 0x39 ∧ '０'.val.toNat = 0xFF10 := by decide
  simp only [isFullDigit, isHalfDigit, between, Bool.and_eq_true, Bool.and_eq_false_iff,
    decide_eq_true_eq, decide_eq_false_iff_not, Char.le_def, UInt32.le_iff_toNat_le] at h ⊢
  omega

theorem startsGlued_iff {s : Text} : startsGlued s = true ↔ StartsGlued s := by
  constructor
  · intro h
    unfold startsGlued at h
    rw [Bool.and_eq_true] at h
    obtain ⟨hwhole, h⟩ := h
    split at h
    · next fraction hdot =>
      simp only [Bool.and_eq_true] at h
      obtain ⟨⟨hfraction, hwide⟩, hc⟩ := h
      have hall : ∀ (p : Char → Bool) (s : Text), ∀ d ∈ s.takeWhile p, p d = true :=
        fun p s => List.all_eq_true.mp List.all_takeWhile
      cases hlast : (fraction.dropWhile isHalfDigit).dropWhile isFullDigit with
      | nil =>
        rw [hlast] at hc
        cases hc
      | cons c rest =>
        rw [hlast] at hc
        have hglued := StartsGlued.intro rest (takeWhile_ne_nil hwhole) (hall _ s)
          (takeWhile_ne_nil hfraction) (hall _ fraction) (takeWhile_ne_nil hwide) (hall _ _) hc
        rwa [← hlast, List.takeWhile_append_dropWhile, List.takeWhile_append_dropWhile, ← hdot,
          List.takeWhile_append_dropWhile] at hglued
    · cases h
  · rintro ⟨rest, hwhole, hwhole', hfraction, hfraction', hwide, hwide', hc⟩
    next whole fraction wide c =>
    obtain ⟨w, whole, rfl⟩ := List.exists_cons_of_ne_nil hwhole
    obtain ⟨f, fraction, rfl⟩ := List.exists_cons_of_ne_nil hfraction
    obtain ⟨d, wide, rfl⟩ := List.exists_cons_of_ne_nil hwide
    have hd : isFullDigit d = true := hwide' d List.mem_cons_self
    have hfull : isFullDigit c = false := by
      cases hfull : isFullDigit c with
      | false => rfl
      | true => rw [isHalfDigit_of_isFullDigit hfull] at hc; cases hc
    have hdot : ('.' :: ((f :: fraction) ++ ((d :: wide) ++ c :: rest))).dropWhile isHalfDigit
        = '.' :: ((f :: fraction) ++ ((d :: wide) ++ c :: rest)) :=
      List.dropWhile_cons_of_neg (by decide)
    have hfirst : ((d :: wide) ++ c :: rest).dropWhile isHalfDigit = (d :: wide) ++ c :: rest :=
      List.dropWhile_cons_of_neg (by rw [isHalfDigit_of_isFullDigit hd]; exact Bool.false_ne_true)
    have hlast : (c :: rest).dropWhile isFullDigit = c :: rest :=
      List.dropWhile_cons_of_neg (by rw [hfull]; exact Bool.false_ne_true)
    unfold startsGlued
    rw [List.dropWhile_append_of_pos hwhole', hdot, Bool.and_eq_true]
    refine ⟨hwhole' w List.mem_cons_self, ?_⟩
    split
    · next heq =>
      cases heq
      rw [List.dropWhile_append_of_pos hfraction', hfirst, List.dropWhile_append_of_pos hwide',
        hlast]
      simp [hfraction' f List.mem_cons_self, hd, hc]
    · next hne => exact absurd rfl (hne _)

instance : DecidablePred StartsGlued := fun _ => decidable_of_iff _ startsGlued_iff

theorem StartsGlued.append {s : Text} (h : StartsGlued s) (t : Text) : StartsGlued (s ++ t) := by
  obtain ⟨rest, hwhole, hwhole', hfraction, hfraction', hwide, hwide', hc⟩ := h
  next whole fraction wide c =>
  have hglued := StartsGlued.intro (rest ++ t) hwhole hwhole' hfraction hfraction' hwide
    hwide' hc
  simpa only [List.append_assoc, List.cons_append] using hglued

theorem not_startsGlued_nil : ¬ StartsGlued [] := fun h => by cases startsGlued_iff.mpr h

/-- 数字か点か。 -/
def isDigitOrDot (c : Char) : Bool := isDigit c || c == '.'

/-- 数字にも点にも続かない半角の小数に全角の数字が続き、その先に半角の数字が来るところがある。 -/
def Glued (text : Text) : Prop :=
  ∃ position, StartsGlued (text.drop position) ∧ (text.prior? position).any isDigitOrDot = false

instance : DecidablePred Glued := fun text =>
  decidable_of_iff (∃ position ∈ List.range text.length,
      StartsGlued (text.drop position) ∧ (text.prior? position).any isDigitOrDot = false) (by
    constructor
    · rintro ⟨position, -, h⟩
      exact ⟨position, h⟩
    · rintro ⟨position, h⟩
      refine ⟨position, List.mem_range.mpr (Nat.not_le.mp fun hle => ?_), h⟩
      rw [List.drop_eq_nil_of_le hle] at h
      exact not_startsGlued_nil h.1)

/-- 数字でも点でもない文字の後ろを切り出しても、新たに続くところはできない。 -/
theorem Glued.of_slice {text : Text} {a b : Nat} (hab : a ≤ b) (hb : b ≤ text.length)
    (hprior : (text.prior? a).any isDigitOrDot = false) (h : Glued (Text.slice text a b)) :
    Glued text := by
  obtain ⟨position, hglued, hbefore⟩ := h
  have hlt : position < (Text.slice text a b).length := by
    refine Nat.not_le.mp fun hle => ?_
    rw [List.drop_eq_nil_of_le hle] at hglued
    exact not_startsGlued_nil hglued
  refine ⟨a + position, ?_, ?_⟩
  · have hdrop : text.drop (a + position)
        = (Text.slice text a b).drop position ++ text.drop b := by
      rw [← List.drop_append_of_le_length (Nat.le_of_lt hlt), ← List.drop_drop,
        ← Text.slice_length_right text b, Text.slice_append_slice text hab hb,
        Text.slice_length_right]
    rw [hdrop]
    exact hglued.append _
  · cases position with
    | zero => exact hprior
    | succ position =>
      rw [Text.slice_length] at hlt
      have hsame : (Text.slice text a b)[position]? = text[a + position]? := by
        unfold Text.slice
        rw [List.getElem?_drop, List.getElem?_take, if_pos (by omega)]
      rwa [Text.prior?, hsame] at hbefore

/-! ## 続きの頭と途中 -/

/-- `[start, stop]` の文字が、どれも数字である。 -/
def DigitsFrom (text : Text) (start stop : Nat) : Prop :=
  ∀ i, start ≤ i → i ≤ stop → (text[i]?).any isDigit = true

/-- 位置が数字の続きの途中なら、その先の続きに半角の数字はない。 -/
def TailIsWide (text : Text) (position : Nat) : Prop :=
  (text.prior? position).any isDigit = true → ∀ q, position ≤ q → DigitsFrom text position q →
    (text[q]?).any isHalfDigit = false

theorem tailIsWide_zero (text : Text) : TailIsWide text 0 := fun h => nomatch h

theorem any_isDigit_of_isHalfDigit {c? : Option Char} (h : c?.any isHalfDigit = true) :
    c?.any isDigit = true := by
  cases c? with
  | none => exact h
  | some c => exact Bool.or_eq_true_iff.mpr (.inl h)

/-- **途中から始まる続きに半角の数字がなければ、半角の数字の続きの頭は `position` より手前にない。** -/
theorem exists_run_start {text : Text} {position q : Nat} (htail : TailIsWide text position)
    (hle : position ≤ q) (hq : (text[q]?).any isHalfDigit = true) :
    ∃ start, position ≤ start ∧ start ≤ q ∧ DigitsFrom text start q ∧
      (text.prior? start).any isDigit = false := by
  -- `q` から左へ、数字の続く限り戻る
  have key : ∀ start, position ≤ start → start ≤ q → DigitsFrom text start q →
      ∃ start, position ≤ start ∧ start ≤ q ∧ DigitsFrom text start q ∧
        (text.prior? start).any isDigit = false := by
    intro start
    induction start with
    | zero => exact fun hstart hstop hdigits => ⟨0, hstart, hstop, hdigits, rfl⟩
    | succ start ih =>
      intro hstart hstop hdigits
      cases hprior : (text.prior? (start + 1)).any isDigit with
      | false => exact ⟨start + 1, hstart, hstop, hdigits, hprior⟩
      | true =>
        rcases Nat.eq_or_lt_of_le hstart with rfl | hlt
        · rw [htail hprior q hle hdigits] at hq
          cases hq
        · refine ih (Nat.le_of_lt_succ hlt) (Nat.le_of_succ_le hstop) fun i hi hi' => ?_
          rcases Nat.eq_or_lt_of_le hi with rfl | hlt
          · exact hprior
          · exact hdigits i hlt hi'
  refine key q hle (Nat.le_refl q) fun i hi hi' => ?_
  obtain rfl : i = q := Nat.le_antisymm hi' hi
  exact any_isDigit_of_isHalfDigit hq

/-! ## 式 -/

open Regex

theorem between_eq_has (lo hi c : Char) :
    between lo hi c = (SetItem.span lo.toNat hi.toNat).has c.toNat := by
  simp only [between, SetItem.has, Char.le_def, UInt32.le_iff_toNat_le]
  rfl

theorem matches?_halfDigit (c : Char) : Bundled.halfDigit.matches? c = isHalfDigit c := by
  rw [Bundled.halfDigit, CharTest.matches?_set_exact, Bool.bne_false, isHalfDigit, between_eq_has]
  exact Bool.or_false _

theorem matches?_digit (c : Char) : Bundled.digit.matches? c = isDigit c := by
  rw [Bundled.digit, CharTest.matches?_set_exact, Bool.bne_false, isDigit, isHalfDigit, isFullDigit,
    between_eq_has, between_eq_has]
  exact congrArg (_ || ·) (Bool.or_false _)

theorem matches?_digitOrDot (c : Char) :
    Bundled.digitOrDot.matches? c = (isHalfDigit c || c.toNat == '.'.toNat) := by
  rw [Bundled.digitOrDot, CharTest.matches?_set_exact, Bool.bne_false, isHalfDigit, between_eq_has]
  exact congrArg (_ || ·) (Bool.or_false _)

/-- 半角の小数の式。 -/
def decimalPattern : Pattern :=
  ⟨.seq (Bundled.after true Bundled.digitOrDot) (.seq (.loop true 1 none (.test Bundled.halfDigit))
    (.seq (Bundled.only '.') (.loop true 1 none (.test Bundled.halfDigit)))), 0⟩

/-- 一桁か二桁の数の式。 -/
def shortPattern : Pattern :=
  ⟨.seq (Bundled.after true Bundled.digit) (.seq (.loop true 1 (some 2) (.test Bundled.digit))
    (Bundled.before true Bundled.digit)), 0⟩

/-- 三桁以上の数の式。 -/
def longPattern : Pattern :=
  ⟨.seq (Bundled.after true Bundled.digit) (.loop true 3 none (.test Bundled.digit)), 0⟩

/-- 直前の文字が条件に合わなければ、否定の後読みの先を読む。 -/
theorem run_after_of_prior {text : Text} {t : CharTest} {s : Spot}
    (hprior : (text.prior? s.position).any t.matches? = false) (e : Expr)
    (k : Spot → Option Spot) :
    (Expr.seq (Bundled.after true t) e).run text.toArray s k = e.run text.toArray s k := by
  rw [Expr.run, Bundled.after, run_lookBehind_test, hprior, if_neg Bool.false_ne_true]

/-- `start` から、ちょうど `n` 桁の数字が続く。 -/
structure RunAt (text : Text) (start n : Nat) : Prop where
  digits : ∀ i < n, (text[start + i]?).any Bundled.digit.matches? = true
  after : (text[start + n]?).any Bundled.digit.matches? = false

/-- 数字からは、一桁以上の続きが始まる。 -/
theorem exists_runAt {text : Text} {start : Nat} (hdigit : (text[start]?).any isDigit = true) :
    ∃ n, 1 ≤ n ∧ RunAt text start n := by
  rw [← funext matches?_digit] at hdigit
  have hbound : start < text.length := by
    obtain ⟨c, hc, -⟩ := (Option.any_eq_true _ _).mp hdigit
    exact (List.getElem?_eq_some_iff.mp hc).1
  refine ⟨runLength text.toArray Bundled.digit (text.length - start) start, ?_, fun i hi => ?_,
    any_of_runLength _ (by omega)⟩
  · refine le_runLength _ (by omega) fun i hi => ?_
    obtain rfl : i = 0 := by omega
    exact hdigit
  · obtain ⟨c, hc, hmatch⟩ := matches?_of_lt_runLength hi
    rw [List.getElem?_toArray] at hc
    rwa [hc]

namespace RunAt

variable {text : Text} {start n : Nat}

/-- 三桁以上の続きには、三桁以上の数の式が合う。 -/
theorem exists_run_long (h : RunAt text start n) (hlong : 3 ≤ n)
    (hprior : (text.prior? start).any Bundled.digit.matches? = false) :
    ∃ r, longPattern.expr.run text.toArray ⟨start, []⟩ some = some r ∧ start < r.position := by
  obtain ⟨count, r, hcount, hr, hloop⟩ := exists_run_loop_test (s := ⟨start, []⟩) (k := some)
    none hlong (fun _ h => nomatch h) h.digits rfl
  cases hr
  refine ⟨_, (run_after_of_prior hprior _ _).trans hloop, ?_⟩
  rw [Spot.advance_position]
  dsimp only
  omega

/-- 一桁か二桁の続きには、一桁か二桁の数の式が合う。 -/
theorem exists_run_short (h : RunAt text start n) (hpos : 1 ≤ n) (hshort : n ≤ 2)
    (hprior : (text.prior? start).any Bundled.digit.matches? = false) :
    ∃ r, shortPattern.expr.run text.toArray ⟨start, []⟩ some = some r ∧ start < r.position := by
  let ahead (s : Spot) : Option Spot := (Bundled.before true Bundled.digit).run text.toArray s some
  have hahead : ∀ s, ahead s
      = if (text[s.position]?).any Bundled.digit.matches? = true then none else some s :=
    fun s => run_lookAhead_test true
  have hk : (ahead (Spot.advance ⟨start, []⟩ n)).isSome = true := by
    rw [hahead, Spot.advance_position, h.after]
    rfl
  obtain ⟨count, r, hcount, hr, hloop⟩ := exists_run_loop_test (s := ⟨start, []⟩) (k := ahead)
    (some 2) hpos (fun m h => by cases h; exact hshort) h.digits hk
  rw [hahead] at hr
  split at hr
  · cases hr
  · cases hr
    refine ⟨_, (run_after_of_prior hprior _ _).trans hloop, ?_⟩
    rw [Spot.advance_position]
    dsimp only
    omega

end RunAt

/-- **数字の続きの頭には、桁数に応じて、どちらかの式が合う。** -/
theorem exists_matchAt_of_run_start {text : Text} {start : Nat}
    (hdigit : (text[start]?).any isDigit = true)
    (hprior : (text.prior? start).any isDigit = false) :
    ∃ p ∈ [shortPattern, longPattern], ∃ m, p.matchAt text.toArray start false = some m ∧
      m.start < m.stop := by
  obtain ⟨n, hpos, hrun⟩ := exists_runAt hdigit
  rw [← funext matches?_digit] at hprior
  have hbound : start ≤ text.length := by
    obtain ⟨c, hc, -⟩ := (Option.any_eq_true _ _).mp hdigit
    exact Nat.le_of_lt (List.getElem?_eq_some_iff.mp hc).1
  have hreach : ∃ p ∈ [shortPattern, longPattern], ∃ r,
      p.expr.run text.toArray (p.startAt start) some = some r ∧ start < r.position := by
    rcases Nat.lt_or_ge 2 n with hlong | hshort
    · exact ⟨longPattern, by simp, hrun.exists_run_long hlong hprior⟩
    · exact ⟨shortPattern, by simp, hrun.exists_run_short hpos hshort hprior⟩
  obtain ⟨p, hp, r, hr, hlt⟩ := hreach
  obtain ⟨m, hm, hstart, hstop⟩ := Pattern.exists_matchAt_of_run hbound hr
  exact ⟨p, hp, m, hm, by rwa [hstart, hstop]⟩

/-- `[start, stop)` の文字が、どれも条件に合う。 -/
def AllFrom (p : Char → Bool) (text : Text) (start stop : Nat) : Prop :=
  ∀ i, start ≤ i → i < stop → (text[i]?).any p = true

/-- 小数の合ったところ。点の前後に半角の数字があり、半角の数字にも点にも続かず、後ろに半角の数字は続かない。 -/
structure DecimalAt (text : Text) (start dot stop : Nat) : Prop where
  whole : start < dot
  whole' : AllFrom isHalfDigit text start dot
  point : text[dot]? = some '.'
  fraction : dot + 1 < stop
  fraction' : AllFrom isHalfDigit text (dot + 1) stop
  before : (text.prior? start).any (fun c => isHalfDigit c || c == '.') = false
  after : (text[stop]?).any isHalfDigit = false

theorem decimalAt_of_matchAt {text : Text} {position : Nat} {m : Match}
    (h : decimalPattern.matchAt text.toArray position false = some m) :
    ∃ dot, DecimalAt text m.start dot m.stop := by
  have hread : ∀ {p n : Nat}, (∀ i < n, (text[p + i]?).any Bundled.halfDigit.matches? = true) →
      AllFrom isHalfDigit text p (p + n) := by
    intro p n hn i hp hi
    have := hn (i - p) (by omega)
    rwa [Nat.add_sub_cancel' hp, funext matches?_halfDigit] at this
  obtain ⟨s, r, hs, hr, hrun⟩ := Pattern.exists_run_of_matchAt h
  rw [← hs, ← hr]
  -- 後読み、整数部、点、小数部の順に読む
  rw [decimalPattern, Bundled.after, Expr.run, run_lookBehind_test] at hrun
  split at hrun
  · cases hrun
  · next hbefore =>
    rw [Expr.run] at hrun
    obtain ⟨w, hw, hwhole, hrun⟩ := exists_of_run_loop_test hrun
    rw [Expr.run, Bundled.only, run_test] at hrun
    split at hrun
    · next hpoint =>
      have hafter := any_of_run_loop_test hrun
      obtain ⟨f, hf, hfraction, hrun⟩ := exists_of_run_loop_test hrun
      cases hrun
      simp only [Spot.advance_position] at hpoint hfraction hafter ⊢
      refine ⟨s.position + w, ⟨by omega, hread hwhole, ?_, by omega, hread hfraction, ?_, ?_⟩⟩
      · obtain ⟨c, hc, hdot⟩ := (Option.any_eq_true _ _).mp hpoint
        rw [CharTest.matches?_one_exact, beq_iff_eq] at hdot
        rw [hc, Char.toNat_inj.mp hdot]
      · rw [funext matches?_digitOrDot, Bool.not_eq_true] at hbefore
        cases hprior : text.prior? s.position with
        | none => rfl
        | some c =>
          rw [hprior, Option.any_some, Bool.or_eq_false_iff] at hbefore
          rw [Option.any_some, hbefore.1, Bool.false_or]
          rw [beq_eq_false_iff_ne]
          rintro rfl
          simp at hbefore
      · rwa [funext matches?_halfDigit] at hafter
    · cases hrun

/-- 文字列を、位置の文字の前と後ろに分ける。 -/
theorem drop_eq_slice_cons {text : Text} {start position : Nat} {c : Char} (hle : start ≤ position)
    (hc : text[position]? = some c) :
    text.drop start = Text.slice text start position ++ c :: text.drop (position + 1) := by
  obtain ⟨hlt, rfl⟩ := List.getElem?_eq_some_iff.mp hc
  rw [← List.drop_eq_getElem_cons hlt, ← Text.slice_length_right text position,
    Text.slice_append_slice text hle (Nat.le_of_lt hlt), Text.slice_length_right]

theorem AllFrom.slice {p : Char → Bool} {text : Text} {start stop : Nat}
    (h : AllFrom p text start stop) : ∀ c ∈ Text.slice text start stop, p c = true := by
  intro c hc
  obtain ⟨i, hstart, hstop, hi⟩ := Text.mem_slice_iff.mp hc
  have := h i hstart hstop
  rwa [hi] at this

theorem slice_ne_nil {text : Text} {start stop : Nat} (hlt : start < stop)
    (hstop : stop ≤ text.length) : Text.slice text start stop ≠ [] := by
  intro hempty
  have hlength := Text.slice_length text start stop
  rw [hempty, List.length_nil] at hlength
  omega

/-- 小数の合ったところは、半角の数字の並びを点でつないだものである。 -/
theorem DecimalAt.slice {text : Text} {start dot stop : Nat} (h : DecimalAt text start dot stop)
    (hstop : stop ≤ text.length) : ∃ w f : Text, w ≠ [] ∧ (∀ c ∈ w, isHalfDigit c = true) ∧ f ≠ [] ∧
      (∀ c ∈ f, isHalfDigit c = true) ∧ Text.slice text start stop = w ++ '.' :: f := by
  refine ⟨_, _, slice_ne_nil h.whole (by have := h.fraction; omega), h.whole'.slice,
    slice_ne_nil h.fraction hstop, h.fraction'.slice, ?_⟩
  have hlt : dot < stop := Nat.lt_of_succ_lt h.fraction
  have hpoint : (text.take stop)[dot]? = some '.' := by
    rw [List.getElem?_take, if_pos hlt, h.point]
  have hcut := drop_eq_slice_cons (Nat.le_of_lt h.whole) hpoint
  rwa [Text.slice, List.take_take, Nat.min_eq_left (Nat.le_of_lt hlt)] at hcut

/-- **数字に続かない小数の後ろに続く数字は、どれも全角である。** -/
theorem DecimalAt.tailIsWide {text : Text} {start dot stop : Nat}
    (h : DecimalAt text start dot stop) (hprior : (text.prior? start).any isDigit = false)
    (hglued : ¬ Glued text) : TailIsWide text stop := by
  intro _ q
  induction q using Nat.strong_induction_on with
  | h q ih =>
    intro hle hdigits
    -- `q` は続きの中で最初の半角の数字である
    cases hq : (text[q]?).any isHalfDigit with
    | false => rfl
    | true =>
      have hwide : AllFrom isFullDigit text stop q := by
        intro i hi hlt
        have hhalf := ih i hlt hi fun j hj hj' => hdigits j hj (by omega)
        have hdigit := hdigits i hi (Nat.le_of_lt hlt)
        obtain ⟨c, hc, hdigit⟩ := (Option.any_eq_true _ _).mp hdigit
        rw [hc, Option.any_some] at hhalf ⊢
        rwa [isDigit, hhalf, Bool.false_or] at hdigit
      have hlt : stop < q := by
        refine Nat.lt_of_le_of_ne hle ?_
        rintro rfl
        rw [h.after] at hq
        cases hq
      obtain ⟨c, hc, hhalf⟩ := (Option.any_eq_true _ _).mp hq
      have hbound : q < text.length := (List.getElem?_eq_some_iff.mp hc).1
      refine absurd ⟨start, ?_, ?_⟩ hglued
      · have hparts := StartsGlued.intro (text.drop (q + 1))
          (slice_ne_nil h.whole (by have := h.fraction; omega)) h.whole'.slice
          (slice_ne_nil h.fraction (by omega)) h.fraction'.slice
          (slice_ne_nil hlt (Nat.le_of_lt hbound)) hwide.slice hhalf
        rw [drop_eq_slice_cons (Nat.le_of_lt h.whole) h.point]
        have hrest : text.drop (dot + 1) = Text.slice text (dot + 1) stop
            ++ (Text.slice text stop q ++ c :: text.drop (q + 1)) := by
          rw [drop_eq_slice_cons (Nat.le_trans (Nat.le_of_lt h.fraction) hle) hc,
            ← Text.slice_append_slice text (Nat.le_of_lt h.fraction) hle, List.append_assoc]
        rwa [hrest]
      · have hbefore := h.before
        cases hc : text.prior? start with
        | none => rfl
        | some d =>
          rw [hc, Option.any_some] at hprior hbefore
          rw [Bool.or_eq_false_iff] at hbefore
          rw [Option.any_some, isDigitOrDot, hprior, hbefore.2]
          rfl

/-! ## 規則の出す節 -/

/-- そのままの文字列の節に、半角の数字がない。 -/
def NoBareDigit (nodes : List Node) : Prop :=
  ∀ s, Node.text s ∈ nodes → ∀ c ∈ s, isHalfDigit c = false

theorem NoBareDigit.append {ns ms : List Node} (h : NoBareDigit ns) (h' : NoBareDigit ms) :
    NoBareDigit (ns ++ ms) := by
  intro s hs
  rcases List.mem_append.mp hs with hs | hs
  · exact h s hs
  · exact h' s hs

/-- 半角の数字のない文字列だけの節には、半角の数字がない。 -/
theorem noBareDigit_of_contents {letters : List Char} {nodes : List Node}
    (hletters : letters.all (!isHalfDigit ·) = true) (h : Node.contents nodes ⊆ letters) :
    NoBareDigit nodes := by
  intro s hs c hc
  have := List.all_eq_true.mp hletters c (h (List.mem_flatMap.mpr ⟨_, hs, hc⟩))
  simpa using this

namespace Rule

/-- 数字の続きの頭から読めば、続きを読み切るか、全角の数字だけを残す。 -/
def EndsRuns (rule : Rule) : Prop :=
  ∀ (text : Text) (position : Nat) (found : Match),
    rule.matchAt text.toArray position = some found → ¬ Glued text →
    ((text[found.start]?).any isHalfDigit = true → (text.prior? found.start).any isDigit = false) →
    TailIsWide text found.stop

/-- 走査し直す組に小数と続く数字があれば、もとの文字列にもある。 -/
def Encloses (rule : Rule) : Prop :=
  ∀ (text : Text) (position : Nat) (found : Match) (segment : Text) (start : Nat),
    rule.matchAt text.toArray position = some found →
    Reprocesses rule.definition.steps ⟨text, found, rule.pattern.groupCount⟩ segment start →
    Glued segment → Glued text

/-- 規則の結果に、半角の数字はそのまま現れない。走査を求めたら、答えについてそうであるとする。 -/
def HidesDigits (rule : Rule) : Prop :=
  ∀ (text : Text) (position : Nat) (found : Match) (answers : Text → List Node)
    (produced : List Node), rule.matchAt text.toArray position = some found →
    (∀ segment start, Reprocesses rule.definition.steps
      ⟨text, found, rule.pattern.groupCount⟩ segment start → NoBareDigit (answers segment)) →
    rule.process text found (some (recite answers)) id () = (.ok produced, ()) →
    NoBareDigit produced

end Rule

/-- 数字の続きの途中で終わらないか、小数に合う。 -/
def endsRuns (pattern : Pattern) : Bool :=
  pattern.expr.severs Bundled.digit.alphabet || pattern == decimalPattern

/-- 走査し直す組はどれも、数字でも点でもない文字で囲われている。 -/
def encloses (pattern : Pattern) (steps : List Step) : Bool :=
  steps.all fun
    | .processGroup group =>
      decide (0 < group) && decide (group ≤ pattern.groupCount)
        && (pattern.expr.rim group).all (!isDigitOrDot ·)
        && (pattern.expr.rim group).any (pattern.expr.fences group ·)
    | _ => true

/-- 字幅を変えて縦中横にする。 -/
def setsUpright (d : Definition) : Bool := d.output == .upright && d.steps.all Step.isWiden

/-- 走査を求めず、出す文字に半角の数字がない。 -/
def emitsNoDigit (pattern : Pattern) (steps : List Step) : Bool :=
  pattern.expr.listable && steps.all Step.listable
    && (steps.foldl Step.image pattern.expr.alphabet).all (!isHalfDigit ·)

/-- 組を走査し直し、半角の数字でない文字だけを書き足す。 -/
def addsNoDigit : List Step → Bool
  | .processGroup _ :: rest =>
    rest.all Step.isWrap && (rest.flatMap Step.added).all (!isHalfDigit ·)
  | _ => false

namespace Rule

variable {rule : Rule}

theorem mem_alphabet_of_isDigit {c : Char} (h : isDigit c = true) : c ∈ Bundled.digit.alphabet :=
  CharTest.mem_alphabet rfl ((matches?_digit c).trans h)

theorem endsRuns_of_check (h : endsRuns rule.pattern = true) : rule.EndsRuns := by
  intro text position found hmatch hglued hhead
  obtain ⟨hpattern, -⟩ := pattern_matchAt hmatch
  obtain ⟨hstart, hlt, hstop⟩ := matchAt_bounds hmatch
  rw [endsRuns, Bool.or_eq_true, beq_iff_eq] at h
  rcases h with h | h
  · intro hprior q hle hdigits
    obtain ⟨c, hc, hcd⟩ := (Option.any_eq_true _ _).mp hprior
    obtain ⟨d, hd, hdd⟩ := (Option.any_eq_true _ _).mp (hdigits found.stop (Nat.le_refl _) hle)
    rcases Pattern.matchAt_severs h hpattern (hstart ▸ hlt) hc hd with hnot | hnot
    · exact absurd (mem_alphabet_of_isDigit hcd) hnot
    · exact absurd (mem_alphabet_of_isDigit hdd) hnot
  · rw [h] at hpattern
    obtain ⟨dot, hdecimal⟩ := decimalAt_of_matchAt hpattern
    exact hdecimal.tailIsWide
      (hhead (hdecimal.whole' _ (Nat.le_refl _) hdecimal.whole)) hglued

theorem encloses_of_check (h : encloses rule.pattern rule.definition.steps = true) :
    rule.Encloses := by
  rintro text position found _ start hmatch ⟨group, stop, hmem, hspan, rfl⟩ hglued
  have hgroup := List.all_eq_true.mp h _ hmem
  simp only [Bool.and_eq_true, decide_eq_true_eq, List.any_eq_true] at hgroup
  obtain ⟨⟨⟨hpos, hcount⟩, hrim⟩, c, -, hfences⟩ := hgroup
  obtain ⟨-, -, hbound⟩ := matchAt_bounds hmatch
  obtain ⟨hpattern, -⟩ := pattern_matchAt hmatch
  have hsurrounds : rule.pattern.expr.surrounds group = true := by
    simp only [Expr.fences, Bool.and_eq_true] at hfences
    exact hfences.1.1
  obtain ⟨a, b, hspan', hstart, hle, hstop, hbefore, -⟩ :=
    Pattern.matchAt_around hsurrounds hpos hcount hpattern
  cases hspan.symm.trans hspan'
  obtain ⟨_, _, hspan', hopen, hnot, -⟩ := Pattern.matchAt_fences hfences hpos hcount hpattern
  cases hspan.symm.trans hspan'
  -- 囲いの文字は組にないので、空でない組はその後ろから始まる
  have hlt : found.start < start := by
    refine Nat.lt_of_le_of_ne hstart ?_
    rintro rfl
    obtain ⟨position, hstarts, -⟩ := hglued
    rcases Nat.eq_or_lt_of_le hle with rfl | hlt
    · rw [Text.slice, List.drop_eq_nil_of_le (by simp)] at hstarts
      exact not_startsGlued_nil hstarts
    · exact hnot (Text.mem_slice_iff.mpr ⟨_, Nat.le_refl _, hlt, hopen⟩)
  refine hglued.of_slice hle (Nat.le_trans hstop hbound) ?_
  obtain ⟨last, rfl⟩ := Nat.exists_eq_succ_of_ne_zero (Nat.ne_of_gt (Nat.zero_lt_of_lt hlt))
  rw [Text.prior?]
  cases hc : text[last]? with
  | none => rfl
  | some d =>
    have hd := hbefore d
      (Text.mem_slice_iff.mpr ⟨last, Nat.le_of_lt_succ hlt, Nat.lt_succ_self _, hc⟩)
    simpa using List.all_eq_true.mp hrim d hd

theorem hidesDigits_of_setsUpright (h : setsUpright rule.definition = true) :
    rule.HidesDigits := by
  intro text position found answers produced _ _ hprocess
  rw [setsUpright, Bool.and_eq_true, beq_iff_eq] at h
  unfold process applySteps at hprocess
  rw [runSteps_of_isWiden _ _ _ _ _ _ _ h.2, h.1] at hprocess
  dsimp only [finalize] at hprocess
  split at hprocess
  · next hfinal =>
    cases hprocess
    split at hfinal
    · cases hfinal
    · cases hfinal
      intro s hs
      cases List.mem_singleton.mp hs
  · cases hprocess

theorem hidesDigits_of_emitsNoDigit
    (h : emitsNoDigit rule.pattern rule.definition.steps = true) : rule.HidesDigits := by
  intro text position found answers produced hmatch _ hprocess
  simp only [emitsNoDigit, Bool.and_eq_true] at h
  obtain ⟨⟨hlist, hsteps⟩, himage⟩ := h
  refine noBareDigit_of_contents himage (applySteps_letters hsteps ?_ hprocess)
  exact Regex.Pattern.mem_alphabet_of_matchAt hlist (pattern_matchAt hmatch).1

theorem hidesDigits_of_addsNoDigit (h : addsNoDigit rule.definition.steps = true) :
    rule.HidesDigits := by
  intro text position found answers produced _ hanswers hprocess
  unfold addsNoDigit at h
  split at h
  · next group rest hgroup =>
    rw [Bool.and_eq_true] at h
    unfold process at hprocess
    rw [hgroup] at hprocess
    obtain ⟨a, b, before, after, hspan, rfl, hadded⟩ := applySteps_reprocess h.1 hprocess
    have hedge : ∀ node ∈ before ++ after, ∀ s, node = .text s → ∀ c ∈ s,
        isHalfDigit c = false := by
      intro node hnode s hs c hc
      obtain ⟨t, rfl, ht⟩ := hadded node hnode
      cases hs
      simpa using List.all_eq_true.mp h.2 c (ht hc)
    refine NoBareDigit.append (NoBareDigit.append ?_ ?_) ?_
    · exact fun s hs => hedge _ (List.mem_append_left _ hs) s rfl
    · exact hanswers _ a ⟨group, b, hgroup ▸ List.mem_cons_self, hspan, rfl⟩
    · exact fun s hs => hedge _ (List.mem_append_right _ hs) s rfl
  · cases h

end Rule

theorem digits_bundled : ∀ rule ∈ (Registry.bundled {}).rules,
    rule.EndsRuns ∧ rule.Encloses ∧ rule.HidesDigits := by
  have hall := Registry.forall_bundled
    (P := fun pattern d => (endsRuns pattern = true ∧ encloses pattern d.steps = true) ∧
      (setsUpright d = true ∨ emitsNoDigit pattern d.steps = true ∨ addsNoDigit d.steps = true))
    (by decide +kernel)
  intro rule hrule
  obtain ⟨⟨hends, hencloses⟩, hhides⟩ := hall rule hrule
  refine ⟨Rule.endsRuns_of_check hends, Rule.encloses_of_check hencloses, ?_⟩
  rcases hhides with h | h | h
  · exact Rule.hidesDigits_of_setsUpright h
  · exact Rule.hidesDigits_of_emitsNoDigit h
  · exact Rule.hidesDigits_of_addsNoDigit h

/-- **数字の続きの頭には、備え付けの規則のどれかが合う。** -/
theorem exists_firstAt_bundled (limits : Limits) {text : Text} {start : Nat}
    (hdigit : (text[start]?).any isDigit = true)
    (hprior : (text.prior? start).any isDigit = false) :
    ∃ rule found, (Registry.bundled limits).FirstAt text start rule found := by
  obtain ⟨p, hp, m, hm, hlt⟩ := exists_matchAt_of_run_start hdigit hprior
  have hpatterns : ∀ p ∈ [shortPattern, longPattern], p ∈ Bundled.patterns := by decide +kernel
  have henabled : ∀ rule ∈ (Registry.bundled {}).rules, rule.enabled = true := by decide +kernel
  have hmem := hpatterns p hp
  rw [← Registry.patterns_bundled] at hmem
  obtain ⟨rule, hrule, rfl⟩ := List.mem_map.mp hmem
  have hmatch : rule.matchAt text.toArray start = some m := by
    rw [Rule.matchAt, hm]
    dsimp only
    rw [Match.isEmpty, if_neg]
    simpa using Nat.ne_of_gt hlt
  refine Registry.MatchesAt.exists_first ⟨?_, henabled rule hrule, hmatch⟩
  rw [Registry.rules_bundled]
  exact hrule

end Tategaki
