import Tategaki.Proofs.Rule.Order
import Tategaki.Proofs.Scanner.Law
import Tategaki.Proofs.Step.Reprocess

/-!
# 素朴な書き換え

区間も、位置のずれも、枠の残りも、時計も持たない書き換えを関係で書く（`Rewrites`）。規則の合う
一番左の位置で、勝つ規則を使い、合ったところの後ろから続ける。段が走査を求めたら、求められた文字列を
同じ関係で書き換えたものを答える。

勝つ規則が位置ごとに一つに決まるなら、書き換えの結果は高々一つである（`Rewrites.unique`）。
-/

namespace Tategaki

/-- 文字列 `text` の `position` から後ろを書き換えると、節 `nodes` になる。`wins text p rule found` は、
位置 `p` で `rule` が勝って `found` に合うことを表す。 -/
inductive Rewrites (wins : Text → Nat → Rule → Regex.Match → Prop) :
    Text → Nat → List Node → Prop
  /-- もうどこにも合わないので、残りをそのまま出す。 -/
  | rest {text : Text} {position : Nat}
      (hnone : ∀ p, position ≤ p → ∀ rule found, ¬ wins text p rule found) :
      Rewrites wins text position (Scanner.gap text position text.length)
  /-- 一番左で勝つ規則の手前と、規則の結果を出す。 -/
  | win {text : Text} {position : Nat} {rule : Rule} {found : Regex.Match}
      {answers : Text → List Node} {produced rest : List Node} (hle : position ≤ found.start)
      (hfirst : ∀ p, position ≤ p → p < found.start → ∀ rule found, ¬ wins text p rule found)
      (hwin : wins text found.start rule found)
      (hanswers : ∀ segment start, Reprocesses rule.definition.steps
        ⟨text, found, rule.pattern.groupCount⟩ segment start →
        Rewrites wins segment 0 (answers segment))
      (hproduced : rule.process text found (some (recite answers)) id ()
        = (.ok produced, ()))
      (hrest : Rewrites wins text found.stop rest) :
      Rewrites wins text position
        (Scanner.gap text position found.start ++ produced ++ rest)

/-- 求めへの答えが同じなら、規則の結果は同じである。 -/
theorem Rule.process_recite_congr {rule : Rule} {text : Text} {found : Regex.Match}
    (answers answers' : Text → List Node)
    (h : ∀ segment start, Reprocesses rule.definition.steps
      ⟨text, found, rule.pattern.groupCount⟩ segment start → answers segment = answers' segment) :
    rule.process text found (some (recite answers)) id ()
      = rule.process text found (some (recite answers')) id () := by
  refine applySteps_congr _ (fun segment start hr => ?_) ()
  funext state
  unfold recite
  rw [h segment start hr]

/-- **勝つ規則が一つに決まるなら、書き換えの結果も一つに決まる。** -/
theorem Rewrites.unique {wins : Text → Nat → Rule → Regex.Match → Prop}
    (hwins : ∀ text p rule found rule' found', wins text p rule found →
      wins text p rule' found' → rule = rule' ∧ found = found')
    {text : Text} {position : Nat} {nodes nodes' : List Node}
    (h : Rewrites wins text position nodes) (h' : Rewrites wins text position nodes') :
    nodes = nodes' := by
  induction h generalizing nodes' with
  | rest hnone =>
    cases h' with
    | rest => rfl
    | win hle _ hwin => exact absurd hwin (hnone _ hle _ _)
  | @win text position rule found answers produced rest hle hfirst hwin hanswers hproduced hrest
      ihanswers ihrest =>
    cases h' with
    | rest hnone => exact absurd hwin (hnone _ hle _ _)
    | @win _ _ rule' found' answers' produced' rest' hle' hfirst' hwin' hanswers' hproduced'
        hrest' =>
      -- 一番左の位置は一つなので、勝つ規則も合い方も同じである
      have hstart : found.start = found'.start := by
        rcases Nat.lt_trichotomy found.start found'.start with hlt | heq | hlt
        · exact absurd hwin (hfirst' _ hle hlt _ _)
        · exact heq
        · exact absurd hwin' (hfirst _ hle' hlt _ _)
      obtain ⟨rfl, rfl⟩ := hwins _ _ _ _ _ _ hwin (hstart ▸ hwin')
      have hsame := Rule.process_recite_congr answers answers'
        fun segment start hr => ihanswers segment start hr (hanswers' segment start hr)
      rw [hproduced, hproduced'] at hsame
      cases hsame
      rw [ihrest hrest']

end Tategaki
