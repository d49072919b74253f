import Tategaki.Chapter.Typeset
import Tategaki.Proofs.Scanner.Tandem

/-!
# 二つの組版の足並み

足並みの揃う二つの走査器（`Scanner.Tandem`）で同じ木を組めば、組版の足並みも揃う（`Tandem.typeset`）。どちらも
最後まで組むか、同じところで止まり、木は同じところまで同じように置き換わる。

組版は文字列ごとに新しい区間の記録を使い、終われば元の記録に戻す。だから、足並みは記録を取り替えても崩れない
ものでなければならない（`Tandem.Rebases`）。
-/

namespace Tategaki.Chapter

open Markup Scanner

variable {τ : Type}

/-- 二つの組版の足並みが揃う。 -/
inductive InStep (P : Pairing (ScanState τ) (ScanState τ) ScanError) :
    Progress τ → Progress τ → Prop
  /-- どちらも最後まで組む。 -/
  | done {tree : Fragment} {st st' : ScanState τ} (h : P.ok st st') :
      InStep P ⟨tree, none, st⟩ ⟨tree, none, st'⟩
  /-- どちらも同じところで止まる。 -/
  | failed {tree : Fragment} {e e' : ScanError} {st st' : ScanState τ} (h : P.bad e st e' st') :
      InStep P ⟨tree, some e, st⟩ ⟨tree, some e', st'⟩
  /-- 一つ目が大目に見る失敗で止まる。 -/
  | excused {tree : Fragment} {e : ScanError} {st : ScanState τ} {p : Progress τ}
      (h : P.excused e) : InStep P ⟨tree, some e, st⟩ p

theorem InStep.map {P : Pairing (ScanState τ) (ScanState τ) ScanError} {p p' : Progress τ}
    (h : InStep P p p') (f : Fragment → Fragment) : InStep P (p.map f) (p'.map f) := by
  cases h with
  | done h => exact .done h
  | failed h => exact .failed h
  | excused h => exact .excused h

/-- 区間の記録を取り替えても、足並みは揃ったままである。 -/
structure Rebases (P : Pairing (ScanState τ) (ScanState τ) ScanError) : Prop where
  ok : ∀ ranges {st st'}, P.ok st st' → P.ok { st with ranges } { st' with ranges }
  bad : ∀ ranges {e st e' st'}, P.bad e st e' st' →
    P.bad e { st with ranges } e' { st' with ranges }

namespace Tandem

variable {sc sc' : Scanner τ} (T : Tandem sc sc') (hbase : Rebases T.pairing) (ctx : Context)

include hbase in
theorem scanLeaf (s : Text) {st st' : ScanState τ} (h : T.pairing.ok st st') :
    T.pairing.Holds (scanLeaf sc ctx s st) (scanLeaf sc' ctx s st') := by
  have hscan : T.pairing.Holds (sc.scan ctx s { st with ranges := [] })
      (sc'.scan ctx s { st' with ranges := [] }) := T.scanAt ctx s 0 (hbase.ok [] h)
  unfold Chapter.scanLeaf
  rw [T.ranges_eq h]
  generalize sc.scan ctx s { st with ranges := [] } = result at hscan ⊢
  generalize sc'.scan ctx s { st' with ranges := [] } = result' at hscan ⊢
  cases hscan with
  | ok h => exact .ok (hbase.ok _ h)
  | error h => exact .error (hbase.bad _ h)
  | excused h => exact .excused h

include hbase in
theorem typesetText (s : Text) (rest : Fragment) {next next' : ScanState τ → Progress τ}
    (hnext : ∀ {st st'}, T.pairing.ok st st' → InStep T.pairing (next st) (next' st'))
    {st st' : ScanState τ} (h : T.pairing.ok st st') :
    InStep T.pairing (typesetText sc ctx s rest next st)
      (typesetText sc' ctx s rest next' st') := by
  have hleaf := scanLeaf T hbase ctx s h
  unfold Chapter.typesetText
  generalize Chapter.scanLeaf sc ctx s st = result at hleaf ⊢
  generalize Chapter.scanLeaf sc' ctx s st' = result' at hleaf ⊢
  cases hleaf with
  | ok h => exact (hnext h).map _
  | error h => exact .failed h
  | excused h => exact .excused h

include hbase in
theorem typesetIndent (lead : Bool) (f : Fragment) {next next' : ScanState τ → Progress τ}
    (hnext : ∀ {st st'}, T.pairing.ok st st' → InStep T.pairing (next st) (next' st'))
    {st st' : ScanState τ} (h : T.pairing.ok st st') :
    InStep T.pairing (typesetIndent sc ctx lead f next st)
      (typesetIndent sc' ctx lead f next' st') := by
  cases lead with
  | false => exact hnext h
  | true => exact typesetText T hbase ctx [indentMark] f hnext h

include hbase in
/-- **足並みの揃う二つの走査器で同じ木を組めば、組版の足並みも揃う。** -/
theorem typeset (f : Fragment) : ∀ (lead : Bool) {st st' : ScanState τ}, T.pairing.ok st st' →
    InStep T.pairing (typeset sc ctx f lead st) (typeset sc' ctx f lead st') := by
  induction f with
  | nil =>
    intro lead st st' h
    rw [Chapter.typeset, Chapter.typeset]
    exact typesetIndent T hbase ctx lead .nil .done h
  | text s rest ih =>
    intro lead st st' h
    cases s with
    | nil =>
      rw [Chapter.typeset, Chapter.typeset]
      exact typesetIndent T hbase ctx lead _ (fun h => (ih false h).map _) h
    | cons c s =>
      rw [Chapter.typeset, Chapter.typeset]
      exact typesetText T hbase ctx _ rest (ih false) h
  | special kind s rest ih =>
    intro lead st st' h
    rw [Chapter.typeset, Chapter.typeset]
    exact typesetIndent T hbase ctx lead _ (fun h => (ih false h).map _) h
  | element name attributes content rest ihc ih =>
    intro lead st st' h
    rw [Chapter.typeset, Chapter.typeset]
    refine typesetIndent T hbase ctx lead _ (fun {st st'} h => ?_) h
    dsimp only
    split
    · exact (ih false h).map _
    · -- 中身の途中で止まれば、後ろは組まない
      have hinner := ihc (paragraphNames.contains name) h
      generalize Chapter.typeset sc ctx content (paragraphNames.contains name) st = p at hinner ⊢
      generalize Chapter.typeset sc' ctx content (paragraphNames.contains name) st' = p'
        at hinner ⊢
      cases hinner with
      | done h => exact (ih false h).map _
      | failed h => exact .failed h
      | excused h => exact .excused h

end Tandem

end Tategaki.Chapter
