import Tategaki.Proofs.Rule.Bundled
import Tategaki.Proofs.Scanner.View

/-!
# 地の文を保つ

規則が読む文字も出す文字も、組み替える文字に限られるなら、組み替える文字を除いた残りは、走査の前と後で同じで
ある（`scan_keeps`）。残りを見かけとすれば（`scan_shows`）、規則がそうであることは、式と段を見るだけで検められる。

備え付けの規則はどれもこの検めを通るので、地の文を失わず、繰り返さず、並べ替えない（`scan_bundled_prose`）。
-/

namespace Tategaki

/-- 規則の結果に残る文字は、合ったところに残る文字と同じである。 -/
def Rule.Keeps (keep : Char → Bool) (rule : Rule) : Prop := rule.Shows (Option.guard keep)

namespace Scanner

variable {τ : Type}

/-- **残る文字を保つ規則だけの走査は、残る文字を保つ。** -/
theorem scan_keeps {keep : Char → Bool} {r : Registry} (hr : r.Reachable)
    (hrules : ∀ rule ∈ r.rules, rule.enabled = true → rule.Nests ∧ rule.Keeps keep)
    {limits : Limits} {read : ReadClock τ} {ctx : Context} {text : Text} {st st' : ScanState τ}
    {nodes : List Node} (hst : st.ranges = [])
    (h : (ofRegistry r limits read).scan ctx text st = (.ok nodes, st')) :
    (Node.contents nodes).filter keep = text.filter keep := by
  rw [← List.filterMap_eq_filter]
  exact scan_shows hr hrules hst h

/-! ## 備え付けの規則 -/

/-- 数字と英字のほかに、備え付けの規則が読むか出す文字。 -/
def typesetMarks : List Char :=
  ['"', '「', '」', '《', '》', '.', '…', '・', '!', '?', '！', '？']

/-- 地の文の文字か。数字と英字は、半角も全角も、漢数字も、地の文に数えない。 -/
def isProse (c : Char) : Bool :=
  !(isHalfDigit c || isFullDigit c || isHalfLetter c || isFullLetter c || kanjiDigits.contains c
    || typesetMarks.contains c)

theorem keeps_bundled : ∀ rule ∈ (Registry.bundled {}).rules, rule.Keeps isProse := by
  have hall := Registry.forall_bundled
    (P := fun pattern d => sheds (Option.guard isProse) pattern d.steps = true
      ∨ unwraps (Option.guard isProse) pattern d.steps = true) (by decide +kernel)
  intro rule hrule
  rcases hall rule hrule with h | h
  · exact Rule.shows_of_sheds h
  · exact Rule.shows_of_unwraps h

/-- **備え付けの規則は、地の文を失わず、繰り返さず、並べ替えない。** -/
theorem scan_bundled_prose {bundleLimits limits : Limits} {read : ReadClock τ} {ctx : Context}
    {text : Text} {st st' : ScanState τ} {nodes : List Node} (hst : st.ranges = [])
    (h : (ofRegistry (.bundled bundleLimits) limits read).scan ctx text st = (.ok nodes, st')) :
    (Node.contents nodes).filter isProse = text.filter isProse := by
  refine scan_keeps (Registry.reachable_bundled bundleLimits) (fun rule hrule _ => ?_) hst h
  rw [Registry.bundled_withLimits bundleLimits] at hrule
  rw [Registry.rules_withLimits] at hrule
  exact ⟨nests_bundled rule hrule, keeps_bundled rule hrule⟩

/-- 数、英字、約物、印、引用符の混ざった文。 -/
def mixedText : Text := "《《2026年の第3章》》と\"Aは1.5\"...!?".toList

/-- `mixedText` を組んだ節。 -/
def mixedNodes : List Node :=
  [.text "二〇二六".toList, .text "年の第".toList, .grouped ['3'] uprightClass, .text ['章'],
    .text ['と'], .text ['「'], .text ['Ａ'], .text ['は'], .text "１・５".toList, .text ['」'],
    .text ['…'], .grouped ['!', '?'] uprightClass]

/-- 混ざった文でも、地の文の「年の第章とは」が残る。 -/
theorem scan_bundled_prose_mixed :
    freshState.ranges = [] ∧
      ∃ st', bundledScanner.scan { startTime := .int 0 } mixedText freshState
          = (.ok mixedNodes, st') ∧
        (Node.contents mixedNodes).filter isProse = mixedText.filter isProse ∧
        mixedText.filter isProse = "年の第章とは".toList := by
  have hscan : (bundledScanner.scan { startTime := .int 0 } mixedText
      freshState).1.toOption = some mixedNodes := by
    rw [bundledScanner_eq]
    decide +kernel
  exact ⟨rfl, _, eq_ok_of_toOption hscan, scan_bundled_prose rfl (eq_ok_of_toOption hscan),
    by decide +kernel⟩

end Scanner

end Tategaki
