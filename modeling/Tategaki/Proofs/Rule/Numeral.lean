import Tategaki.Proofs.Rule.Digits
import Tategaki.Proofs.Scanner.View
import Tategaki.Proofs.Text.Split

/-!
# 数字を失わない規則

零でない数字の値の並びを、文字列の見かけとする（`significant?`）。半角と全角の数字も漢数字も、値が同じなら同じに
見える。零を見ないのは、漢数字にするときに先頭の零が消えるからである。

備え付けの規則は、どれもこの見かけを変えない（`shows_bundled`）。数字の字幅を変えるか、漢数字に書き直すか、点で
分けて中黒でつなぐか、組を走査し直すか、数字を読まないかである。
-/

namespace Tategaki

/-! ## 数字の値 -/

/-- 数字の値。半角と全角の数字と、漢数字に限る。 -/
def digitOf? (c : Char) : Option Nat :=
  if isDigit c then Unicode.digitValue c else kanjiDigits.idxOf? c

/-- 零でない数字の値。 -/
def significant? (c : Char) : Option Nat := (digitOf? c).filter (· ≠ 0)

theorem filterMap_significant_of_isDigit {text : Text} {ds : List Nat}
    (hdigits : ∀ c ∈ text, isDigit c = true) (h : digitValues text = some ds) :
    text.filterMap significant? = ds.filter (· ≠ 0) := by
  rw [← digitValues_eq_filterMap h, List.filter_filterMap]
  refine List.filterMap_congr fun c hc => ?_
  rw [significant?, digitOf?, if_pos (hdigits c hc)]

theorem filterMap_significant_kanjiDigit {ds : List Nat} (hds : ∀ d ∈ ds, d < 10) :
    (ds.map kanjiDigit).filterMap significant? = ds.filter (· ≠ 0) := by
  have hall : ∀ d < 10, significant? (kanjiDigit d) = Option.guard (· ≠ 0) d := by decide +kernel
  rw [List.filterMap_map, ← List.filterMap_eq_filter]
  exact List.filterMap_congr fun d hd => hall d (hds d hd)

/-- **漢数字にしても、零でない数字の並びは変わらない。** -/
theorem filterMap_significant_of_numeralToKanji {text out : Text}
    (hdigits : ∀ c ∈ text, isDigit c = true) (h : numeralToKanji text = .ok out) :
    out.filterMap significant? = text.filterMap significant? := by
  obtain ⟨ds, hds, -, -, rfl⟩ := numeralToKanji_eq_ok_iff.mp h
  rw [Unicode.strip_eq_self fun c hc =>
    Unicode.isBlank_of_isDecimal (isDecimal_of_isDigit (hdigits c hc))] at hds
  rw [filterMap_significant_kanjiDigit fun d hd => lt_of_mem_decimalDigits hd,
    filter_decimalDigits fun d hd => lt_of_mem_digitValues hds hd, filterMap_significant_of_isDigit hdigits hds]

/-! ## 小数 -/

/-- 区切りが一つなら、その前と後ろに切れる。 -/
theorem Text.splitOn_of_once {x : Char} {w f : Text} (hw : x ∉ w) (hf : x ∉ f) :
    splitOn [x] (w ++ x :: f) = [w, f] := by
  have hlacks : ∀ {s : Text}, x ∉ s → ∀ c ∈ s, (c == x) = false := by
    intro s hs c hc
    exact beq_eq_false_iff_ne.mpr fun heq => hs (heq ▸ hc)
  rw [splitOn_singleton, List.splitOnP_append_cons_of_forall_mem (hlacks hw) x (beq_self_eq_true x),
    List.splitOnP_eq_singleton (hlacks hf)]

/-- 半角の数字の並びを点でつないだものは、点で分けると、その二つになる。 -/
theorem splitParts_decimal {w f : Text} (hw : w ≠ []) (hw' : ∀ c ∈ w, isHalfDigit c = true)
    (hf : f ≠ []) (hf' : ∀ c ∈ f, isHalfDigit c = true) :
    splitParts [['.']] (w ++ '.' :: f) = [w, f] := by
  have hdot : ∀ {s : Text}, (∀ c ∈ s, isHalfDigit c = true) → '.' ∉ s := by
    intro s hs hmem
    cases hs '.' hmem
  have hstrip : ∀ {s : Text}, (∀ c ∈ s, isHalfDigit c = true) → Unicode.strip s = s := by
    intro s hs
    refine Unicode.strip_eq_self fun c hc =>
      Unicode.isBlank_of_isDecimal (isDecimal_of_isDigit ?_)
    exact Bool.or_eq_true_iff.mpr (.inl (hs c hc))
  rw [splitParts, List.foldl_cons, List.foldl_nil, List.flatMap_singleton,
    Text.splitOn_of_once (hdot hw') (hdot hf'), List.map_cons, List.map_singleton, hstrip hw',
    hstrip hf']
  simp [hw, hf]

/-- 点で分けて全角にし、中黒でつなぐと、小数の整数部と小数部が全角になる。 -/
theorem runSteps_decimal {σ ε : Type} {m : Matched} {patternName : Option String}
    {rescan : Option (Rescan σ ε)} {report : TransformError → ε} {state : σ} {w f : Text}
    (hw : w ≠ []) (hw' : ∀ c ∈ w, isHalfDigit c = true)
    (hf : f ≠ []) (hf' : ∀ c ∈ f, isHalfDigit c = true) :
    runSteps m patternName rescan report Bundled.decimalNumber.steps 0
        (.string (w ++ '.' :: f)) state
      = (.ok (.string (convertWidth .numbers .fullwidth w
          ++ '・' :: convertWidth .numbers .fullwidth f)), state) := by
  have hsplit : (Step.splitBy [['.']]).eval m rescan.isSome (.string (w ++ '.' :: f))
      = .ok (.value (.strings [w, f])) := by
    rw [Step.eval, if_neg (by simp [Step.accepts, Value.kind])]
    dsimp only [Step.asParts]
    rw [List.flatten_singleton, splitParts_decimal hw hw' hf hf']
  have hjoin : ∀ a b : Text, joinParts (some "\x7b1\x7d・\x7b2\x7d".toList) [] [a, b]
      = .ok (a ++ '・' :: b) := by
    intro a b
    have hfilled : joinParts (some "\x7b1\x7d・\x7b2\x7d".toList) [] [a, b]
        = .ok (a ++ '・' :: (b ++ [])) := rfl
    rwa [List.append_nil] at hfilled
  rw [Bundled.decimalNumber, runSteps, hsplit]
  show runSteps m patternName rescan report [.join (some "\x7b1\x7d・\x7b2\x7d".toList) []] 2
    (.strings [convertWidth .numbers .fullwidth w, convertWidth .numbers .fullwidth f]) state = _
  rw [runSteps, Step.eval, if_neg (by simp [Step.accepts, Value.kind])]
  dsimp only [Step.asParts]
  rw [hjoin]
  rfl

/-! ## 備え付けの規則 -/

/-- 小数に合い、全角にして中黒でつなぐ。 -/
def joinsDecimal (pattern : Regex.Pattern) (d : Definition) : Bool :=
  pattern == decimalPattern && d.steps == Bundled.decimalNumber.steps

namespace Rule

variable {rule : Rule}

theorem shows_of_spellsDigits (h : spellsDigits rule.pattern rule.definition = true) :
    rule.Shows significant? := by
  intro text position found answers produced hmatch _ hprocess
  simp only [spellsDigits, Bool.and_eq_true] at h
  obtain ⟨⟨⟨-, hlist⟩, halphabet⟩, hspells⟩ := h
  split at hspells
  · next s hsteps =>
    unfold process at hprocess
    rw [hsteps] at hprocess
    have hdigits := all_isDigit_of_alphabet hlist halphabet hmatch
    refine filterMap_significant_of_numeralToKanji hdigits ?_
    exact contents_of_spells _ _ hspells
      (fun number hnumber => (group?_of_wholeGroups hmatch hnumber).1)
      (fun number hnumber => (group?_of_wholeGroups hmatch hnumber).2) hprocess
  · cases hspells

theorem shows_of_joinsDecimal (h : joinsDecimal rule.pattern rule.definition = true) :
    rule.Shows significant? := by
  intro text position found answers produced hmatch _ hprocess
  rw [joinsDecimal, Bool.and_eq_true, beq_iff_eq, beq_iff_eq] at h
  obtain ⟨-, hlt, hstop⟩ := matchAt_bounds hmatch
  have hpattern := (pattern_matchAt hmatch).1
  rw [h.1] at hpattern
  obtain ⟨dot, hdecimal⟩ := decimalAt_of_matchAt hpattern
  obtain ⟨w, f, hw, hw', hf, hf', hwhole⟩ := hdecimal.slice hstop
  have hwiden : Bundled.halfDigit.alphabet.all (fun c =>
      significant? (convertChar .numbers .fullwidth c) == significant? c) = true := by
    decide +kernel
  have hsame : ∀ {s : Text}, (∀ c ∈ s, isHalfDigit c = true) →
      (convertWidth .numbers .fullwidth s).filterMap significant? = s.filterMap significant? := by
    intro s hs
    rw [convertWidth, List.filterMap_map]
    refine List.filterMap_congr fun c hc => beq_iff_eq.mp (List.all_eq_true.mp hwiden c ?_)
    exact Regex.CharTest.mem_alphabet rfl ((matches?_halfDigit c).trans (hs c hc))
  unfold process applySteps at hprocess
  rw [Matched.whole, h.2, hwhole, runSteps_decimal hw hw' hf hf'] at hprocess
  dsimp only at hprocess
  split at hprocess
  · next hfinal =>
    cases hprocess
    have hdots : significant? '・' = none ∧ significant? '.' = none := by decide +kernel
    rw [finalize_contents hfinal, Value.letters, hwhole, List.filterMap_append,
      List.filterMap_append, List.filterMap_cons_none hdots.1, List.filterMap_cons_none hdots.2,
      hsame hw', hsame hf']
  · cases hprocess

end Rule

/-- **備え付けの規則は、零でない数字の並びを変えない。** -/
theorem shows_bundled : ∀ rule ∈ (Registry.bundled {}).rules, rule.Shows significant? := by
  have hall := Registry.forall_bundled
    (P := fun pattern d => sheds significant? pattern d.steps = true
      ∨ unwraps significant? pattern d.steps = true ∨ relabels significant? pattern d.steps = true
      ∨ spellsDigits pattern d = true ∨ joinsDecimal pattern d = true) (by decide +kernel)
  intro rule hrule
  rcases hall rule hrule with h | h | h | h | h
  · exact Rule.shows_of_sheds h
  · exact Rule.shows_of_unwraps h
  · exact Rule.shows_of_relabels h
  · exact Rule.shows_of_spellsDigits h
  · exact Rule.shows_of_joinsDecimal h

end Tategaki
