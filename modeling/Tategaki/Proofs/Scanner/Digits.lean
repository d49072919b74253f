import Tategaki.Proofs.Rule.Numeral

/-!
# 半角の数字を残さない

備え付けの規則で組んだ文字列に、半角の数字はそのまま残らず、零でない数字は失われない（`scan_bundled_digits`）。

ただし、半角の小数の直後に全角の数字が続き、その先に半角の数字が来る文字列（`Glued`）では、小数の規則が読んだ後に
残る数字を、どの規則も読まないことがある（`scan_bundled_glued`）。
-/

namespace Tategaki.Scanner

variable {τ : Type}

/-! ## 書き換え -/

section Rewriting

variable {r : Registry} {text : Text} {position stop : Nat}

/-- 数字の続きの頭には、必ずどれかの規則が合う。 -/
def CoversDigits (r : Registry) : Prop :=
  ∀ (text : Text) (start : Nat), (text[start]?).any isDigit = true →
    (text.prior? start).any isDigit = false → ∃ rule found, r.FirstAt text start rule found

/-- どの規則も合わないところに、続きの頭から読めない半角の数字はない。 -/
theorem prior_of_noWin (hcovers : CoversDigits r) (htail : TailIsWide text position)
    (hnone : ∀ p, position ≤ p → p < stop → ∀ rule found, ¬ r.FirstAt text p rule found) {q : Nat}
    (hle : position ≤ q) (hq : (text[q]?).any isHalfDigit = true) (hstop : q ≤ stop) :
    q = stop ∧ (text.prior? q).any isDigit = false := by
  obtain ⟨start, hstart, hle', hdigits, hprior⟩ := exists_run_start htail hle hq
  obtain ⟨rule, found, hfirst⟩ := hcovers text start (hdigits start (Nat.le_refl _) hle') hprior
  have hge : stop ≤ start := Nat.not_lt.mp fun hlt => hnone start hstart hlt rule found hfirst
  obtain rfl : start = q := Nat.le_antisymm hle' (Nat.le_trans hstop hge)
  exact ⟨Nat.le_antisymm hstop hge, hprior⟩

/-- どの規則も合わないところの節に、半角の数字はない。 -/
theorem noBareDigit_gap (hcovers : CoversDigits r) (htail : TailIsWide text position)
    (hnone : ∀ p, position ≤ p → p < stop → ∀ rule found, ¬ r.FirstAt text p rule found) :
    NoBareDigit (gap text position stop) := by
  intro s hs c hc
  unfold gap at hs
  split at hs
  · cases List.mem_singleton.mp hs
    obtain ⟨q, hle, hlt, hq⟩ := Text.mem_slice_iff.mp hc
    refine Bool.eq_false_iff.mpr fun hhalf => ?_
    have hany : (text[q]?).any isHalfDigit = true := by rw [hq]; exact hhalf
    obtain ⟨rfl, -⟩ := prior_of_noWin hcovers htail hnone hle hany (Nat.le_of_lt hlt)
    exact Nat.lt_irrefl _ hlt
  · cases hs

/-- **数字の続きを読み切る規則だけの書き換えは、半角の数字をそのまま残さない。** -/
theorem noBareDigit_of_rewrites (hcovers : CoversDigits r)
    (hrules : ∀ rule ∈ r.rules, rule.EndsRuns ∧ rule.Encloses ∧ rule.HidesDigits)
    {nodes : List Node} (h : Rewrites r.FirstAt text position nodes) :
    ¬ Glued text → TailIsWide text position → NoBareDigit nodes := by
  induction h with
  | rest hnone =>
    intro _ htail
    exact noBareDigit_gap hcovers htail fun p hle _ => hnone p hle
  | @win text position rule found answers produced rest hle hfirst hwin hanswers hproduced hrest
      ihanswers ihrest =>
    intro hglued htail
    obtain ⟨hrule, -, hmatch⟩ := hwin.matchesAt
    obtain ⟨hends, hencloses, hhides⟩ := hrules rule hrule
    -- 勝った規則の読み始めに半角の数字があれば、そこは続きの頭である
    have hhead : (text[found.start]?).any isHalfDigit = true →
        (text.prior? found.start).any isDigit = false := fun hhalf =>
      (prior_of_noWin hcovers htail hfirst hle hhalf (Nat.le_refl _)).2
    have hnested : ∀ segment start, Reprocesses rule.definition.steps
        ⟨text, found, rule.pattern.groupCount⟩ segment start → NoBareDigit (answers segment) :=
      fun segment start hr => ihanswers segment start hr
        (fun hsegment => hglued (hencloses text _ found segment start hmatch hr hsegment))
        (tailIsWide_zero segment)
    exact ((noBareDigit_gap hcovers htail hfirst).append
      (hhides text _ found answers produced hmatch hnested hproduced)).append
      (ihrest hglued (hends text _ found hmatch hglued hhead))

end Rewriting

/-! ## 備え付けの規則 -/

/--
**備え付けの規則は、半角の数字をそのまま残さず、零でない数字を失わない。**

半角の小数の直後に全角の数字が続き、その先に半角の数字が来るところがない文字列なら、そのままの文字列の節に半角の
数字はない。どの文字列でも、零でない数字の値の並びは、走査の前と後で同じである。
-/
theorem scan_bundled_digits {bundleLimits limits : Limits} {read : ReadClock τ} {ctx : Context}
    {text : Text} {st st' : ScanState τ} {nodes : List Node} (hst : st.ranges = [])
    (h : (ofRegistry (.bundled bundleLimits) limits read).scan ctx text st = (.ok nodes, st')) :
    (¬ Glued text → ∀ s, Node.text s ∈ nodes → ∀ c ∈ s, isHalfDigit c = false) ∧
      (Node.contents nodes).filterMap significant? = text.filterMap significant? := by
  have hr := Registry.reachable_bundled bundleLimits
  have hrules : ∀ rule ∈ (Registry.bundled bundleLimits).rules,
      rule.Nests ∧ (rule.EndsRuns ∧ rule.Encloses ∧ rule.HidesDigits) ∧
        rule.Shows significant? := by
    rw [Registry.rules_bundled]
    exact fun rule hrule =>
      ⟨nests_bundled rule hrule, digits_bundled rule hrule, shows_bundled rule hrule⟩
  refine ⟨fun hglued => ?_, ?_⟩
  · have hrewrites := rewrites_of_scan hr (fun rule hrule _ => (hrules rule hrule).1) hst h
    exact noBareDigit_of_rewrites (fun _ _ => exists_firstAt_bundled bundleLimits)
      (fun rule hrule => (hrules rule hrule).2.1) hrewrites hglued (tailIsWide_zero text)
  · exact scan_shows hr
      (fun rule hrule _ => ⟨(hrules rule hrule).1, (hrules rule hrule).2.2⟩) hst h

/-- 話数、年号、小数、半角と全角の混ざった数と、先頭の零。 -/
def numeralText : Text :=
  "第１2話と2026年の5月に１2.5度、\"3.14\"、12３4個、《《1.5》》点、007番".toList

/-- `numeralText` を組んだ節。 -/
def numeralNodes : List Node :=
  [.text ['第'], .grouped ['1', '2'] uprightClass, .text "話と".toList, .text "二〇二六".toList,
    .text "年の".toList, .grouped ['5'] uprightClass, .text "月に".toList,
    .grouped ['1', '2'] uprightClass, .text ['.'], .grouped ['5'] uprightClass,
    .text "度、".toList, .text ['「'], .text "３・１４".toList, .text ['」'], .text ['、'],
    .text "一二三四".toList, .text "個、".toList, .text "１・５".toList, .text "点、".toList,
    .text ['七'], .text ['番']]

/-- 半角と全角の混ざった数でも、半角の数字は縦中横の節にだけ残り、先頭の零のほかに数字は失われない。 -/
theorem scan_bundled_digits_mixed :
    freshState.ranges = [] ∧ ¬ Glued numeralText ∧
      ∃ st', bundledScanner.scan { startTime := .int 0 } numeralText freshState
          = (.ok numeralNodes, st') ∧
        (∀ s, Node.text s ∈ numeralNodes → ∀ c ∈ s, isHalfDigit c = false) ∧
        (Node.contents numeralNodes).filterMap significant?
          = numeralText.filterMap significant? := by
  have hscan : (bundledScanner.scan { startTime := .int 0 } numeralText
      freshState).1.toOption = some numeralNodes := by
    rw [bundledScanner_eq]
    decide +kernel
  have hglued : ¬ Glued numeralText := by decide +kernel
  obtain ⟨hbare, hshows⟩ := scan_bundled_digits rfl (eq_ok_of_toOption hscan)
  exact ⟨rfl, hglued, _, eq_ok_of_toOption hscan, hbare hglued, hshows⟩

/-- 小数の規則が `1.2` を読むと、後ろの全角の数字とその先の半角の数字は、どの規則も読まずにそのまま残る。 -/
theorem scan_bundled_glued :
    Glued "1.2３4".toList ∧
      ∃ st', bundledScanner.scan { startTime := .int 0 } "1.2３4".toList freshState
          = (.ok [.text "１・２".toList, .text "３4".toList], st') ∧
        '4' ∈ "３4".toList ∧ isHalfDigit '4' = true := by
  have hscan : (bundledScanner.scan { startTime := .int 0 } "1.2３4".toList
      freshState).1.toOption = some [.text "１・２".toList, .text "３4".toList] := by
    rw [bundledScanner_eq]
    decide +kernel
  exact ⟨by decide +kernel, ⟨_, eq_ok_of_toOption hscan, by decide, by decide⟩⟩

end Tategaki.Scanner
