import Tategaki.Proofs.Regex.Fence
import Tategaki.Proofs.Rule.Bundled
import Tategaki.Proofs.Scanner.Turn
import Tategaki.Proofs.Step.Certain

/-!
# 必ず節を返す規則

数字の続きが長すぎない文字列（`IsOrdinary`）に合ったとき、規則が必ず節を返すかどうかは、式と段を見れば分かる。
走査を求めない規則は、失敗しない段だけを持つか（`stays`）、合ったところが数字だけで、それを漢数字にする
（`spellsDigits`）。走査を求める規則は、囲いの文字で始まり、組の中ではその文字を読まない（`unfences`）。

走査を求める規則では、求める文字列は合ったところより短く、そこに現れる囲いの文字の種類（`fenceCount`）は減って
いる（`Rule.Settled`）。だから、走査は囲いの文字の種類よりも深く入れ子にならない。
-/

namespace Tategaki

/-! ## 数字の続き -/

/-- 半角か全角の数字か。 -/
def isDigit (c : Char) : Bool := isHalfDigit c || isFullDigit c

/-- 半角と全角の数字の続きが、整数として読める桁数を越えない。 -/
def IsOrdinary (text : Text) : Prop :=
  ∀ run, run <:+: text → run.all isDigit = true → run.length ≤ Json.maxIntegerDigits

theorem IsOrdinary.mono {text part : Text} (h : IsOrdinary text) (hp : part <:+: text) :
    IsOrdinary part := fun run hrun hdigits => h run (hrun.trans hp) hdigits

/-- 短い文字列では、数字の続きも短い。 -/
theorem isOrdinary_of_length_le {text : Text} (h : text.length ≤ Json.maxIntegerDigits) :
    IsOrdinary text := fun _ hrun _ => Nat.le_trans hrun.length_le h

theorem Text.slice_isInfix (s : Text) (start stop : Nat) : Text.slice s start stop <:+: s :=
  (List.drop_suffix _ _).isInfix.trans (List.take_prefix _ _).isInfix

theorem isDecimal_of_isDigit {c : Char} (h : isDigit c = true) : Unicode.isDecimal c = true := by
  have hzeros : (0x30 : Nat) ∈ Unicode.digitZeros ∧ 0xFF10 ∈ Unicode.digitZeros := by decide
  have hcodes : '0'.val.toNat = 0x30 ∧ '9'.val.toNat = 0x39 ∧ '０'.val.toNat = 0xFF10 ∧
      '９'.val.toNat = 0xFF19 := by decide
  have hval : c.toNat = c.val.toNat := rfl
  simp only [isDigit, isHalfDigit, isFullDigit, between, Bool.or_eq_true, Bool.and_eq_true,
    decide_eq_true_eq, Char.le_def, UInt32.le_iff_toNat_le] at h
  unfold Unicode.isDecimal Unicode.digitValue
  rw [Option.isSome_map, List.find?_isSome]
  simp only [Bool.and_eq_true, decide_eq_true_eq]
  rcases h with h | h
  · exact ⟨0x30, hzeros.1, by omega, by omega⟩
  · exact ⟨0xFF10, hzeros.2, by omega, by omega⟩

/-! ## 囲いの文字 -/

/-- `guards` のうち、文字列に現れるものの個数。 -/
def fenceCount (guards : List Char) (text : Text) : Nat := (guards.filter text.contains).length

theorem fenceCount_le (guards : List Char) (text : Text) :
    fenceCount guards text ≤ guards.length := List.length_filter_le _ _

/-- 囲いの文字を一つ失った部分では、囲いの文字の個数が減る。 -/
theorem fenceCount_lt {guards : List Char} {text part : Text} {c : Char} (hsub : part ⊆ text)
    (hg : c ∈ guards) (hc : c ∈ text) (hc' : c ∉ part) :
    fenceCount guards part < fenceCount guards text := by
  have hfilter : guards.filter part.contains
      = (guards.filter text.contains).filter part.contains := by
    rw [List.filter_filter]
    refine List.filter_congr fun x _ => ?_
    rw [Bool.eq_iff_iff, Bool.and_eq_true, List.contains_iff_mem, List.contains_iff_mem]
    exact ⟨fun hx => ⟨hx, hsub hx⟩, fun hx => hx.1⟩
  unfold fenceCount
  rw [hfilter]
  refine List.length_filter_lt_length_iff_exists.mpr ⟨c, ?_, ?_⟩
  · exact List.mem_filter.mpr ⟨hg, List.contains_iff_mem.mpr hc⟩
  · rwa [List.contains_iff_mem]

/-! ## 規則ごとの検め -/

/-- 合ったところで、規則は必ず節を返すか、求めた走査が節を返せば節を返す。 -/
inductive Rule.Settled (guards : List Char) (rule : Rule) (text : Text) (found : Regex.Match) : Prop
  /-- 走査を求めず、状態を変えない。 -/
  | alone (h : ∀ {σ ε : Type} (rescan : Option (Rescan σ ε)) (report : TransformError → ε)
      (state : σ), ∃ nodes, rule.process text found rescan report state = (.ok nodes, state))
  /-- 合ったところより短く、囲いの文字の少ない部分の走査を一度だけ求める。 -/
  | nested (a b : Nat) (hlength : (Text.slice text a b).length < found.stop - found.start)
      (hfence : fenceCount guards (Text.slice text a b) < fenceCount guards text)
      (h : ∀ {σ ε : Type} (f : Rescan σ ε) (report : TransformError → ε) {state state' : σ}
        {ns : List Node}, f (Text.slice text a b) a state = (.ok ns, state') →
        ∃ nodes, rule.process text found (some f) report state = (.ok nodes, state'))

/-- 数字の続きの長すぎない文字列では、規則の求める走査が節を返せば、規則も節を返す。 -/
def Rule.Settles (guards : List Char) (rule : Rule) : Prop :=
  ∀ (text : Text) (position : Nat) (found : Regex.Match), IsOrdinary text →
    rule.matchAt text.toArray position = some found → rule.Settled guards text found

/-- 字幅を変えるだけか、失敗しない段だけで文字列を出す。 -/
def stays (pattern : Regex.Pattern) (d : Definition) : Bool :=
  d.steps.all Step.isWiden || d.output == .text && d.steps.all Step.isSure
    && (Step.checkAll d.steps pattern.groupCount).isNone

/-- 合ったところの全体を読む組。 -/
def wholeGroups (pattern : Regex.Pattern) : List Nat :=
  (List.range' 1 pattern.groupCount).filter fun number =>
    pattern.expr.surrounds number && (pattern.expr.rim number).isEmpty

/-- 数字だけに合い、それを漢数字にする。 -/
def spellsDigits (pattern : Regex.Pattern) (d : Definition) : Bool :=
  d.output == .text && pattern.expr.listable && pattern.expr.alphabet.all isDigit
    && match d.steps with
      | [s] => s.spells (wholeGroups pattern)
      | _ => false

/-- 囲いの文字の中だけを走査し直し、前後に書き足す。 -/
def unfences (guards : List Char) (pattern : Regex.Pattern) (d : Definition) : Bool :=
  match d.steps with
  | .processGroup group :: rest =>
    decide (0 < group) && decide (group ≤ pattern.groupCount) && rest.all Step.isWrap
      && guards.any fun c => pattern.expr.fences group c
  | _ => false

namespace Rule

variable {guards : List Char} {rule : Rule} {text : Text} {position : Nat} {found : Regex.Match}

/-- 合ったところは空でない。 -/
theorem whole_ne_nil (h : rule.matchAt text.toArray position = some found) (groupCount : Nat) :
    (Matched.mk text found groupCount).whole ≠ [] := by
  obtain ⟨hstart, hlt, hstop⟩ := matchAt_bounds h
  intro hempty
  have hlength := Text.slice_length text found.start found.stop
  rw [show Text.slice text found.start found.stop = [] from hempty, List.length_nil] at hlength
  omega

theorem settles_of_stays (h : stays rule.pattern rule.definition = true) :
    rule.Settles guards := by
  intro text position found _ hmatch
  refine .alone fun rescan report state => ?_
  unfold process
  simp only [stays, Bool.or_eq_true, Bool.and_eq_true, beq_iff_eq] at h
  rcases h with hwiden | ⟨⟨houtput, hsure⟩, hcheck⟩
  · exact applySteps_of_isWiden _ _ _ _ _ _ hwiden (whole_ne_nil hmatch _)
  · rw [houtput]
    exact applySteps_of_isSure _ _ _ _ _ hsure (Option.isNone_iff_eq_none.mp hcheck)

/-- 合ったところの全体を読む組は、合ったところを読む。 -/
theorem group?_of_wholeGroups (h : rule.matchAt text.toArray position = some found) {number : Nat}
    (hn : number ∈ wholeGroups rule.pattern) : number ≤ rule.pattern.groupCount ∧
      (Matched.mk text found rule.pattern.groupCount).group? number
        = some (Text.slice text found.start found.stop) := by
  obtain ⟨hrange, hwhole⟩ := List.mem_filter.mp hn
  rw [List.mem_range'_1] at hrange
  rw [Bool.and_eq_true, List.isEmpty_iff] at hwhole
  obtain ⟨a, b, hspan, hstart, hle, hstop, hbefore, hafter⟩ := Regex.Pattern.matchAt_around
    hwhole.1 (by omega) (by omega) (pattern_matchAt h).1
  obtain ⟨-, -, hbound⟩ := matchAt_bounds h
  -- 組の外で読む文字がないので、組の外は空である
  have hempty : ∀ {p q : Nat}, q ≤ text.length →
      (∀ c ∈ Text.slice text p q, c ∈ rule.pattern.expr.rim number) → q ≤ p := by
    intro p q hq hnone
    rw [hwhole.2] at hnone
    have hlength := Text.slice_length text p q
    rw [List.eq_nil_iff_forall_not_mem.mpr fun c hc => List.not_mem_nil (hnone c hc),
      List.length_nil] at hlength
    omega
  obtain rfl : a = found.start := Nat.le_antisymm (hempty (by omega) hbefore) hstart
  obtain rfl : b = found.stop := Nat.le_antisymm hstop (hempty hbound hafter)
  refine ⟨by omega, ?_⟩
  rw [Matched.group?, hspan]
  rfl

/-- 数字だけを読む式の合ったところは、数字だけからなる。 -/
theorem all_isDigit_of_alphabet (hlist : rule.pattern.expr.listable = true)
    (halphabet : rule.pattern.expr.alphabet.all isDigit = true)
    (h : rule.matchAt text.toArray position = some found) :
    ∀ c ∈ Text.slice text found.start found.stop, isDigit c = true := fun c hc =>
  List.all_eq_true.mp halphabet c
    (Regex.Pattern.mem_alphabet_of_matchAt hlist (pattern_matchAt h).1 c hc)

theorem settles_of_spellsDigits (h : spellsDigits rule.pattern rule.definition = true) :
    rule.Settles guards := by
  intro text position found htext hmatch
  refine .alone fun rescan report state => ?_
  simp only [spellsDigits, Bool.and_eq_true, beq_iff_eq] at h
  obtain ⟨⟨⟨houtput, hlist⟩, halphabet⟩, hspells⟩ := h
  have hdigits := all_isDigit_of_alphabet hlist halphabet hmatch
  have hlength := htext _ (Text.slice_isInfix text found.start found.stop)
    (List.all_eq_true.mpr hdigits)
  have hn : IsNumeral (Matched.mk text found rule.pattern.groupCount).whole :=
    isNumeral_of_isDecimal (whole_ne_nil hmatch _)
      (fun c hc => isDecimal_of_isDigit (hdigits c hc)) hlength
  unfold process
  rw [houtput]
  split at hspells
  · next s hsteps =>
    rw [hsteps]
    exact applySteps_of_spells _ _ _ _ hspells
      (fun number hnumber => (group?_of_wholeGroups hmatch hnumber).1)
      (fun number hnumber => (group?_of_wholeGroups hmatch hnumber).2) hn
  · cases hspells

theorem settles_of_unfences (h : unfences guards rule.pattern rule.definition = true) :
    rule.Settles guards := by
  intro text position found _ hmatch
  unfold unfences at h
  split at h
  · next group rest hsteps =>
    simp only [Bool.and_eq_true, decide_eq_true_eq] at h
    obtain ⟨⟨⟨hpos, hcount⟩, hwrap⟩, hany⟩ := h
    obtain ⟨c, hc, hfences⟩ := List.any_eq_true.mp hany
    obtain ⟨a, b, hspan, hopen, hnot, hlength⟩ :=
      Regex.Pattern.matchAt_fences hfences hpos hcount (pattern_matchAt hmatch).1
    refine .nested a b hlength (fenceCount_lt (Text.slice_subset text a b) hc
      (List.mem_of_getElem? hopen) hnot) ?_
    intro σ ε f report state state' ns hf
    unfold process
    rw [hsteps]
    exact applySteps_of_rescan _ _ _ hwrap hcount hspan hf
  · cases h

end Rule

/-! ## 備え付けの規則 -/

/-- 備え付けの規則が囲いに使う文字。 -/
def bundledFences : List Char := ['《', '"']

/-- **備え付けの規則は、数字の続きの長すぎない文字列では失敗しない。** -/
theorem settles_bundled :
    ∀ rule ∈ (Registry.bundled {}).rules, rule.Settles bundledFences := by
  have hall := Registry.forall_bundled
    (P := fun pattern d => stays pattern d = true ∨ spellsDigits pattern d = true
      ∨ unfences bundledFences pattern d = true) (by decide +kernel)
  intro rule hrule
  rcases hall rule hrule with h | h | h
  · exact Rule.settles_of_stays h
  · exact Rule.settles_of_spellsDigits h
  · exact Rule.settles_of_unfences h

end Tategaki
