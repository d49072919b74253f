import Mathlib.Logic.Relation
import Tategaki.Proofs.Scanner.Rewriting
import Tategaki.Proofs.Scanner.Segment

/-!
# 区間による番は要らない

走査を求める段が高々一つで、求める組が合ったところの中にある規則だけなら（`Rule.Nests`）、記録のない
文脈から始めた走査は、記録された区間のために何かを飛ばすことがない。返す節は、区間を持たない素朴な
書き換え（`Rewrites`）のものと同じである（`scan_rewrites`）。

鍵は、区間と枠の位置の関係である（`Clear`）。どの区間も、枠全体を覆うか、いまの位置より手前で終わる。

* 勝った区間は、合ったところの終わりから先へ進めば、手前で終わる。
* 内側の枠は合ったところの中にあるから、勝った区間は内側の枠全体を覆う。
* 内側の枠で増えた区間は、合ったところの中で終わる（`insideLaws`）。
* 外側の枠全体を覆う区間は、内側の枠全体も覆う。
-/

namespace Tategaki

/-! ## 入れ子になる規則 -/

/-- 走査を求める段は高々一つで、求める組は合ったところの中にある。 -/
structure Rule.Nests (rule : Rule) : Prop where
  once : ReprocessesOnce rule.definition.steps
  contained : ∀ (text : Text) (position : Nat) (found : Regex.Match) (group a b : Nat),
    rule.matchAt text.toArray position = some found →
    Step.processGroup group ∈ rule.definition.steps → found.span? group = some (a, b) →
    found.start ≤ a ∧ b ≤ found.stop

/-- 求める文字列は、合ったところの中にある。 -/
theorem Rule.Nests.bounds {rule : Rule} (h : rule.Nests) {text : Text} {position : Nat}
    {found : Regex.Match} (hmatch : rule.matchAt text.toArray position = some found)
    {segment : Text} {start : Nat} (hr : Reprocesses rule.definition.steps
      ⟨text, found, rule.pattern.groupCount⟩ segment start) :
    found.start ≤ start ∧ start + segment.length ≤ found.stop := by
  obtain ⟨group, stop, hmem, hspan, rfl⟩ := hr
  obtain ⟨hstart, hstop⟩ := h.contained text position found group start stop hmatch hmem hspan
  have hle : start ≤ stop :=
    Regex.Match.span?_le_of_matchAt (Rule.pattern_matchAt hmatch).1 hspan
  rw [Text.slice_length]
  omega

/-- 先読みと後読みの中に組のない式の規則では、組は合ったところの中にある。 -/
theorem Rule.nests_of_plainLooks {rule : Rule} (honce : ReprocessesOnce rule.definition.steps)
    (hplain : rule.pattern.expr.plainLooks = true) : rule.Nests := by
  refine ⟨honce, fun text position found group a b hmatch _ hspan => ?_⟩
  exact Regex.Match.span?_within hplain (Rule.pattern_matchAt hmatch).1 hspan

namespace Scanner

variable {τ : Type}

/-! ## 内側で増える区間 -/

/-- 枠の中の走査で増えた区間は、枠の中で終わる。 -/
def insideLaws (sc : Scanner τ) (hnests : ∀ rule ∈ sc.rules, rule.Nests) : FrameLaws sc where
  law text offset := adding τ fun range => range.stop ≤ offset + text.length
  read _ _ st := ⟨[], by simp [ScanState.readClock], by simp⟩
  fail _ _ _ _ _ := trivial
  charge ctx text offset position rule found st st' hmatch hcharge := by
    refine ⟨[(Frame.of ctx text offset).range rule found], charge_ranges hcharge, ?_⟩
    intro range hr
    have hbounds := Rule.matchAt_bounds hmatch
    rw [List.mem_singleton.mp hr]
    show offset + (found.stop : Int) ≤ offset + text.length
    omega
  refuse _ _ _ _ _ _ _ _ := trivial
  nest text offset position rule found segment start hrule hmatch hr st result hl := by
    have hbounds := Rule.matchAt_bounds hmatch
    have hsegment := (hnests rule hrule).bounds hmatch hr
    exact adding_mono (fun range hstop => by omega) hl

/-- 勝った規則の段が増やす区間は、合ったところまでに終わる。 -/
theorem transform_inside {sc : Scanner τ} (hnests : ∀ rule ∈ sc.rules, rule.Nests)
    {ctx : Context} {text : Text} {offset : Int} {position : Nat} {rule : Rule}
    {found : Regex.Match} {st st' : ScanState τ} {nodes : List Node} (hrule : rule ∈ sc.rules)
    (hmatch : rule.matchAt text.toArray position = some found)
    (h : transform (.of ctx text offset) (sc.rescan ctx offset) rule found st = (.ok nodes, st')) :
    ∃ added, st'.ranges = st.ranges ++ added ∧
      ∀ range ∈ added, range.stop ≤ offset + found.stop := by
  obtain ⟨before, -, hbefore, hprocess⟩ := transform_ok h
  have hlaw : (adding τ fun range => range.stop ≤ offset + found.stop).Holds before
      (rule.process text found (some (sc.rescan ctx offset rule.name)) .transform before) := by
    refine Law.applySteps _ (fun _ _ => trivial) ?_ before
    intro segment start hr s
    have hbounds := (hnests rule hrule).bounds hmatch hr
    exact adding_mono (fun range hstop => by omega)
      ((insideLaws sc hnests).rescan ctx offset rule.name segment start s)
  rw [hprocess] at hlaw
  obtain ⟨added, heq, hadded⟩ := hlaw
  -- 増えたのは、勝った区間そのものと、その段が求めた走査で増えた区間である
  refine ⟨(Frame.of ctx text offset).range rule found :: added, ?_, fun range hr => ?_⟩
  · rw [heq, hbefore, List.append_assoc]
    rfl
  · rcases List.mem_cons.mp hr with rfl | hr
    · exact Int.le_refl _
    · exact hadded range hr

/-! ## 区間と位置 -/

/-- どの区間も、枠全体を覆うか、枠の位置 `position` までに終わる。 -/
def Clear (text : Text) (offset : Int) (position : Nat) (ranges : List ProcessedRange) : Prop :=
  ∀ range ∈ ranges,
    range.covers offset (offset + text.length) = true ∨ range.stop ≤ offset + position

theorem Clear.mono {text : Text} {offset : Int} {p q : Nat} {ranges : List ProcessedRange}
    (h : Clear text offset p ranges) (hpq : p ≤ q) : Clear text offset q ranges := by
  intro range hr
  rcases h range hr with hcovers | hstop
  · exact .inl hcovers
  · exact .inr (by omega)

/-- 記録のない文脈では、何も塞がれていない。 -/
theorem clear_of_ranges_nil (text : Text) (offset : Int) (position : Nat)
    {ranges : List ProcessedRange} (h : ranges = []) : Clear text offset position ranges := by
  rw [h]
  intro range hrange
  cases hrange

/-- 塞ぐ区間はない。 -/
theorem Clear.turn_ne_skip {sc : Scanner τ} {ctx : Context} {text : Text} {offset : Int}
    {position : Nat} {st st' : ScanState τ} {range : ProcessedRange}
    (h : Clear text offset position st.ranges) :
    sc.turn (.of ctx text offset) position st ≠ (.skip range, st') := by
  intro ht
  obtain ⟨hmem, hcontains, hcovers⟩ := turn_skip ht
  rw [ranges_of_turn ht] at hmem
  rcases h range hmem with hc | hstop
  · exact Bool.false_ne_true (hcovers.symm.trans hc)
  · have hlt : offset + position < range.stop := (ProcessedRange.contains_iff.mp hcontains).2
    omega

/-- 規則が勝って、その後ろへ進んでも保たれる。 -/
theorem Clear.win {sc : Scanner τ} (hnests : ∀ rule ∈ sc.rules, rule.Nests) {ctx : Context}
    {text : Text} {offset : Int} {position : Nat} {rule : Rule} {found : Regex.Match}
    {st st' : ScanState τ} {nodes : List Node} (h : Clear text offset position st.ranges)
    (hrule : rule ∈ sc.rules) (hmatch : rule.matchAt text.toArray position = some found)
    (ht : transform (.of ctx text offset) (sc.rescan ctx offset) rule found st
      = (.ok nodes, st')) : Clear text offset found.stop st'.ranges := by
  obtain ⟨added, heq, hadded⟩ := transform_inside hnests hrule hmatch ht
  have hbounds := Rule.matchAt_bounds hmatch
  rw [heq]
  intro range hr
  rcases List.mem_append.mp hr with hr | hr
  · exact h.mono (by omega) range hr
  · exact .inr (hadded range hr)

/-- 勝った規則の求める枠の始まりでも保たれる。 -/
theorem Clear.nested {text : Text} {offset : Int} {position : Nat} {rule : Rule}
    {found : Regex.Match} {ranges : List ProcessedRange} {ctx : Context} (hn : rule.Nests)
    (h : Clear text offset position ranges)
    (hmatch : rule.matchAt text.toArray position = some found) {segment : Text} {start : Nat}
    (hr : Reprocesses rule.definition.steps ⟨text, found, rule.pattern.groupCount⟩ segment start) :
    Clear segment (offset + start) 0
      (ranges ++ [(Frame.of ctx text offset).range rule found]) := by
  have hbounds := Rule.matchAt_bounds hmatch
  have hsegment := hn.bounds hmatch hr
  intro range hrange
  rw [ProcessedRange.covers_iff]
  rcases List.mem_append.mp hrange with hrange | hrange
  · -- 求める文字列は合ったところの中にあるので、外側を覆えば内側も覆い、手前で終われば内側にも掛からない
    rcases h range hrange with hcovers | hstop
    · have hboth := ProcessedRange.covers_iff.mp hcovers
      exact .inl (by omega)
    · exact .inr (by omega)
  · rw [List.mem_singleton.mp hrange]
    left
    show offset + (found.start : Int) ≤ offset + start ∧
      offset + start + (segment.length : Int) ≤ offset + found.stop
    omega

/-! ## 走査の通る所 -/

/-- 走査の途中の所。どの枠のどの位置に、どの状態でいるか。 -/
structure Stand (τ : Type) where
  ctx : Context
  text : Text
  offset : Int
  position : Nat
  state : ScanState τ

/-- いる枠。 -/
def Stand.frame (s : Stand τ) : Frame := .of s.ctx s.text s.offset

/-- 走査は、ある所から次の所へ移る。枠の中を進むほかに、規則が求める内側の枠へも移る。 -/
inductive Leads (sc : Scanner τ) : Stand τ → Stand τ → Prop
  /-- 一文字進む。 -/
  | step {s : Stand τ} {st : ScanState τ} (ht : sc.turn s.frame s.position s.state = (.step, st)) :
      Leads sc s { s with position := s.position + 1, state := st }
  /-- 塞がれた区間を飛ばす。 -/
  | skip {s : Stand τ} {st : ScanState τ} {range : ProcessedRange}
      (ht : sc.turn s.frame s.position s.state = (.skip range, st)) :
      Leads sc s { s with position := s.frame.afterSkip range, state := st }
  /-- 規則が勝って、その後ろへ進む。 -/
  | win {s : Stand τ} {st st' : ScanState τ} {rule : Rule} {found : Regex.Match}
      {produced : List Node} (ht : sc.turn s.frame s.position s.state = (.win rule found, st))
      (hp : transform s.frame (sc.rescan s.ctx s.offset) rule found st = (.ok produced, st')) :
      Leads sc s { s with position := found.stop, state := st' }
  /-- 勝った規則の段が走査を求め、内側の枠の検めを通る。 -/
  | nested {s : Stand τ} {st before asked st' : ScanState τ} {rule : Rule}
      {found : Regex.Match} {segment : Text} {start : Nat}
      (ht : sc.turn s.frame s.position s.state = (.win rule found, st))
      (hc : (st.record (s.frame.range rule found) (s.frame.win rule found)).charge rule.name
        = .ok before)
      (ha : Asks ⟨s.text, found, rule.pattern.groupCount⟩ (sc.rescan s.ctx s.offset rule.name)
        rule.definition.steps
        (.string (Matched.whole ⟨s.text, found, rule.pattern.groupCount⟩)) before segment start
        asked)
      (hv : sc.validate (s.ctx.child rule.name) asked = (none, st')) :
      Leads sc s ⟨s.ctx.child rule.name, segment, s.offset + start, 0, st'⟩

/-- いる所で、どの区間も枠全体を覆うか、いまの位置までに終わる。 -/
def Stand.IsClear (s : Stand τ) : Prop := Clear s.text s.offset s.position s.state.ranges

theorem ranges_of_validate {sc : Scanner τ} {ctx : Context} {e : Option ScanError}
    {st st' : ScanState τ} (h : sc.validate ctx st = (e, st')) : st'.ranges = st.ranges := by
  rw [state_of_validate h]
  rfl

/-- **走査がどこへ移っても、区間と位置の関係は保たれる。** -/
theorem Leads.isClear {sc : Scanner τ} (hnests : ∀ rule ∈ sc.rules, rule.Nests)
    {s s' : Stand τ} (h : Leads sc s s') (hs : s.IsClear) : s'.IsClear := by
  unfold Stand.IsClear at hs ⊢
  cases h with
  | step ht =>
    rw [ranges_of_turn ht]
    exact hs.mono (Nat.le_succ _)
  | skip ht => exact absurd ht hs.turn_ne_skip
  | win ht hp =>
    obtain ⟨hrule, hmatch⟩ := mem_of_winner? (turn_win ht).2
    rw [← ranges_of_turn ht] at hs
    exact hs.win hnests hrule hmatch hp
  | nested ht hc ha hv =>
    obtain ⟨hrule, hmatch⟩ := mem_of_winner? (turn_win ht).2
    rw [← ranges_of_turn ht] at hs
    rw [ranges_of_validate hv, ha.once (hnests _ hrule).once, charge_ranges hc]
    exact hs.nested (hnests _ hrule) hmatch ha.reprocesses

/-- 走査がどこまで進んでも、塞がれた区間を飛ばすことはない。 -/
theorem turn_ne_skip_of_leads {sc : Scanner τ} (hnests : ∀ rule ∈ sc.rules, rule.Nests)
    {s s' : Stand τ} (h : Relation.ReflTransGen (Leads sc) s s') (hs : s.IsClear)
    (range : ProcessedRange) (st : ScanState τ) :
    sc.turn s'.frame s'.position s'.state ≠ (.skip range, st) := by
  have hclear : s'.IsClear := by
    induction h with
    | refl => exact hs
    | tail _ hstep ih => exact hstep.isClear hnests ih
  exact hclear.turn_ne_skip

/-! ## 素朴な書き換えとの一致 -/

theorem FirstAt.bounds {r : Registry} {text : Text} {position : Nat} {rule : Rule}
    {found : Regex.Match} (h : r.FirstAt text position rule found) :
    found.start = position ∧ position < found.stop ∧ found.stop ≤ text.length :=
  Rule.matchAt_bounds h.matchesAt.2.2

/-- 一歩ずつの走査は、素朴な書き換えになる。 -/
theorem Passes.rewrites {r : Registry} (hr : r.Reachable) {limits : Limits}
    {read : ReadClock τ} (hnests : ∀ rule ∈ (ofRegistry r limits read).rules, rule.Nests)
    {ctx : Context} {text : Text} {offset : Int}
    (hnested : ∀ name segment (start : Nat) st nodes st',
      Clear segment (offset + start) 0 st.ranges →
      (ofRegistry r limits read).scanAt (ctx.child name) segment (offset + start) st
        = (.ok nodes, st') → Rewrites r.FirstAt segment 0 nodes)
    {position last : Nat} {st st' : ScanState τ} {nodes : List Node}
    (h : Passes (ofRegistry r limits read) (.of ctx text offset)
      ((ofRegistry r limits read).rescan ctx offset) position last st nodes st')
    (hclear : Clear text offset position st.ranges) (hlast : last ≤ position)
    (hidle : ∀ p, last ≤ p → p < position → ∀ rule found, ¬ r.FirstAt text p rule found) :
    Rewrites r.FirstAt text last nodes := by
  induction h with
  | @finish position last st hdone =>
    refine .rest fun p hp rule found hwin => ?_
    have hbounds := FirstAt.bounds hwin
    have hdone' : text.length ≤ position := hdone
    exact hidle p hp (by omega) rule found hwin
  | @step position last st st₁ st' nodes hlt ht hrest ih =>
    have hnone : ∀ rule found, ¬ r.MatchesAt text position rule found :=
      not_matchesAt_of_winner?_none hr.ordered (turn_step ht).2
    refine ih (ranges_of_turn ht ▸ hclear.mono (Nat.le_succ _)) (Nat.le_succ_of_le hlast) ?_
    intro p hp hlt' rule found hwin
    rcases Nat.lt_succ_iff_lt_or_eq.mp hlt' with hlt' | rfl
    · exact hidle p hp hlt' rule found hwin
    · exact hnone rule found hwin.matchesAt
  | skip _ ht => exact absurd ht hclear.turn_ne_skip
  | @win position last st st₁ st₂ st' rule found produced rest hlt ht hp hrest ih =>
    have hwinner := (turn_win ht).2
    obtain ⟨hrule, hmatch⟩ := mem_of_winner? hwinner
    obtain ⟨hstart, hstop, -⟩ := Rule.matchAt_bounds hmatch
    have hclear₁ : Clear text offset position st₁.ranges := by
      rw [ranges_of_turn ht]
      exact hclear
    obtain ⟨before, -, hbefore, hprocess⟩ := transform_ok hp
    -- 求めは高々一つなので、その答えをいつも返す走査に替えられる
    obtain ⟨answer, hcalls, hpure⟩ := applySteps_once (hnests rule hrule).once hprocess
    refine .win (hstart ▸ hlast) ?_ ?_ ?_ hpure ?_
    · intro p hp hlt'
      exact hidle p hp (hstart ▸ hlt')
    · rw [hstart]
      exact firstAt_of_winner? hr.ordered hwinner
    · intro segment start hreprocess
      refine hnested rule.name segment start before answer st₂ ?_ (hcalls segment start hreprocess)
      rw [hbefore]
      exact hclear₁.nested (hnests rule hrule) hmatch hreprocess
    · exact ih (hclear₁.win hnests hrule hmatch hp) (Nat.le_refl _) fun p hp hlt' =>
        absurd hlt' (Nat.not_lt.mpr hp)

/-- 有効な規則が入れ子になるなら、走査に使う規則も入れ子になる。 -/
theorem nests_activeRules {r : Registry} (hr : r.Reachable)
    (hnests : ∀ rule ∈ r.rules, rule.enabled = true → rule.Nests) :
    ∀ rule ∈ r.activeRules, rule.Nests := by
  intro rule hrule
  rw [hr.ordered.activeRules_eq] at hrule
  obtain ⟨hmem, henabled⟩ := Registry.mem_sortEnabled.mp hrule
  exact hnests rule hmem henabled

/-- 区間が枠の始まりを塞いでいなければ、走査の返す節は素朴な書き換えの結果である。 -/
theorem rewrites_of_scanAt {r : Registry} (hr : r.Reachable) {limits : Limits}
    {read : ReadClock τ} (hnests : ∀ rule ∈ (ofRegistry r limits read).rules, rule.Nests)
    (ctx : Context) : ∀ (text : Text) (offset : Int) (st : ScanState τ) (nodes : List Node)
      (st' : ScanState τ), Clear text offset 0 st.ranges →
      (ofRegistry r limits read).scanAt ctx text offset st = (.ok nodes, st') →
      Rewrites r.FirstAt text 0 nodes := by
  refine scanAt_induction (ofRegistry r limits read) (motive := fun ctx =>
    ∀ text offset st nodes st', Clear text offset 0 st.ranges →
      (ofRegistry r limits read).scanAt ctx text offset st = (.ok nodes, st') →
      Rewrites r.FirstAt text 0 nodes) ?_ ctx
  intro ctx ih text offset st nodes st' hclear h
  obtain ⟨st₁, hvalid, hpasses⟩ := passes_of_scanAt h
  have hdepth := depth_le_of_validate hvalid
  rw [← ranges_of_validate hvalid] at hclear
  exact hpasses.rewrites hr hnests
    (fun name segment start => ih hdepth name segment (offset + start)) hclear (Nat.le_refl 0)
    fun p _ hlt => absurd hlt (Nat.not_lt_zero p)

/-- 記録のない文脈からの走査が節を返せば、その節は素朴な書き換えのものである。 -/
theorem rewrites_of_scan {r : Registry} (hr : r.Reachable)
    (hnests : ∀ rule ∈ r.rules, rule.enabled = true → rule.Nests) {limits : Limits}
    {read : ReadClock τ} {ctx : Context} {text : Text} {st st' : ScanState τ} {nodes : List Node}
    (hst : st.ranges = [])
    (h : (ofRegistry r limits read).scan ctx text st = (.ok nodes, st')) :
    Rewrites r.FirstAt text 0 nodes :=
  rewrites_of_scanAt hr (nests_activeRules hr hnests) ctx text 0 st nodes st'
    (clear_of_ranges_nil text 0 0 hst) h

/--
**記録のない文脈からの走査は、素朴な書き換えと同じ節を返し、区間のために何かを飛ばすことがない。**

勝つ規則は試す順で最初のものであり、優先順位に非数がなければ、優先順位と通し番号の最も小さいものである。
-/
theorem scan_rewrites {r : Registry} (hr : r.Reachable)
    (hnests : ∀ rule ∈ r.rules, rule.enabled = true → rule.Nests) (limits : Limits)
    (read : ReadClock τ) (ctx : Context) (text : Text) {st : ScanState τ} (hst : st.ranges = []) :
    (∀ nodes st', (ofRegistry r limits read).scan ctx text st = (.ok nodes, st') →
      (∀ nodes', Rewrites r.FirstAt text 0 nodes' ↔ nodes' = nodes) ∧
        (r.Comparable → ∀ nodes', Rewrites r.LeastAt text 0 nodes' ↔ nodes' = nodes)) ∧
    ∀ st₁ stand, (ofRegistry r limits read).validate ctx st = (none, st₁) →
      Relation.ReflTransGen (Leads (ofRegistry r limits read)) ⟨ctx, text, 0, 0, st₁⟩ stand →
      ∀ range st', (ofRegistry r limits read).turn stand.frame stand.position stand.state
        ≠ (.skip range, st') := by
  have hactive := nests_activeRules hr hnests
  have hclear := clear_of_ranges_nil text 0 0 hst
  refine ⟨fun nodes st' h => ?_, fun st₁ stand hvalid hleads => ?_⟩
  · have hrewrites := rewrites_of_scanAt hr hactive ctx text 0 st nodes st' hclear h
    have hone : ∀ text p rule found rule' found', r.FirstAt text p rule found →
        r.FirstAt text p rule' found' → rule = rule' ∧ found = found' :=
      fun _ _ _ _ _ _ => Registry.FirstAt.unique
    have hiff : ∀ nodes', Rewrites r.FirstAt text 0 nodes' ↔ nodes' = nodes := by
      intro nodes'
      refine ⟨fun h' => h'.unique hone hrewrites, ?_⟩
      rintro rfl
      exact hrewrites
    refine ⟨hiff, fun hc => ?_⟩
    have hsame : r.LeastAt = r.FirstAt := by
      funext text position rule found
      exact propext (Registry.firstAt_iff_leastAt hr.ordered hc).symm
    rw [hsame]
    exact hiff
  · refine turn_ne_skip_of_leads hactive hleads ?_
    show Clear text 0 0 st₁.ranges
    rw [ranges_of_validate hvalid]
    exact hclear

/-- 備え付けの規則は、どれも入れ子になる。 -/
theorem nests_bundled : ∀ rule ∈ (Registry.bundled {}).rules, rule.Nests := by
  have hall : ∀ rule ∈ (Registry.bundled {}).rules,
      ReprocessesOnce rule.definition.steps ∧ rule.pattern.expr.plainLooks = true := by
    decide +kernel
  exact fun rule hrule => Rule.nests_of_plainLooks (hall rule hrule).1 (hall rule hrule).2

/-- 印と引用符の中の数。 -/
def nestedText : Text := "《《第12話》》と\"3\"".toList

/-- `nestedText` の書き換え。 -/
def nestedNodes : List Node :=
  [.text ['第'], .grouped ['1', '2'] uprightClass, .text ['話'], .text ['と'], .text ['「'],
    .grouped ['3'] uprightClass, .text ['」']]

/-- 入れ子の走査でも、素朴な書き換えと一致し、何も飛ばさない。 -/
theorem scan_rewrites_nested :
    (Registry.bundled {}).Reachable ∧
    (∀ rule ∈ (Registry.bundled {}).rules, rule.enabled = true → rule.Nests) ∧
    (Registry.bundled {}).Comparable ∧ freshState.ranges = [] ∧
    (∃ st', bundledScanner.scan { startTime := .int 0 } nestedText freshState
      = (.ok nestedNodes, st')) ∧
    (∀ nodes', Rewrites (Registry.bundled {}).LeastAt nestedText 0 nodes' ↔ nodes' = nestedNodes) ∧
    ∀ st₁ stand, bundledScanner.validate { startTime := .int 0 } freshState = (none, st₁) →
      Relation.ReflTransGen (Leads bundledScanner) ⟨{ startTime := .int 0 }, nestedText, 0, 0, st₁⟩
        stand →
      ∀ range st', bundledScanner.turn stand.frame stand.position stand.state
        ≠ (.skip range, st') := by
  have hnests : ∀ rule ∈ (Registry.bundled {}).rules, rule.enabled = true → rule.Nests :=
    fun rule hrule _ => nests_bundled rule hrule
  have hscan : (bundledScanner.scan { startTime := .int 0 } nestedText
      freshState).1.toOption = some nestedNodes := by
    rw [bundledScanner_eq]
    decide +kernel
  have hrewrites := scan_rewrites (Registry.reachable_bundled {}) hnests {} SteadyClock.read
    { startTime := .int 0 } nestedText (rfl : freshState.ranges = [])
  exact ⟨Registry.reachable_bundled {}, hnests, Registry.comparable_bundled, rfl, ⟨_, eq_ok_of_toOption hscan⟩,
    (hrewrites.1 _ _ (eq_ok_of_toOption hscan)).2 Registry.comparable_bundled, hrewrites.2⟩

/-- `unordered` の規則は走査を求めず、ほかの規則に先を越されないものの結果は、一の印である。 -/
theorem process_unordered {rule : Rule} {found : Regex.Match}
    (h : Registry.unordered.LeastAt ['x'] 0 rule found) (answers : Text → List Node) :
    rule.process ['x'] found (some (recite answers)) id () = (.ok [.text ['1', 'x']], ()) := by
  have hall : ∀ rule ∈ Registry.unordered.rules,
      rule.definition.steps.countP Step.isReprocess = 0 ∧
      ∀ found ∈ rule.matchAt #['x'] 0,
        (∃ other ∈ Registry.unordered.rules, other.enabled = true ∧
          (other.matchAt #['x'] 0).isSome ∧ other ≠ rule ∧ rule.before other = false) ∨
        (rule.process ['x'] found (some (recite fun _ => [])) id ()).1.toOption
          = some [.text ['1', 'x']] := by
    decide +kernel
  obtain ⟨⟨hmem, -, hmatch⟩, hleast⟩ := h
  obtain ⟨hplain, hresult⟩ := hall rule hmem
  have hnone : ∀ segment start, ¬ Reprocesses rule.definition.steps
      ⟨['x'], found, rule.pattern.groupCount⟩ segment start := by
    rintro segment start ⟨group, stop, hstep, -, -⟩
    exact absurd rfl (List.countP_eq_zero.mp hplain _ hstep)
  rw [Rule.process_recite_congr answers (fun _ => [])
    fun segment start hr => absurd hr (hnone segment start)]
  rcases hresult found hmatch with ⟨other, hother, henabled, hsome, hne, hbefore⟩ | hproduced
  · obtain ⟨found', hmatch'⟩ := Option.isSome_iff_exists.mp hsome
    rcases hleast other found' ⟨hother, henabled, hmatch'⟩ with heq | hlt
    · exact absurd heq hne
    · exact absurd (hbefore.symm.trans hlt) Bool.false_ne_true
  · exact eq_ok_of_toOption hproduced

/-- 非数の優先順位があると、走査の返す節は、優先順位と通し番号の最も小さい規則を使う書き換えのものとは
限らない。 -/
theorem scan_rewrites_unordered :
    Registry.unordered.Reachable ∧
      (∀ rule ∈ Registry.unordered.rules, rule.enabled = true → rule.Nests) ∧
      freshState.ranges = [] ∧
      ∃ nodes st', (ofRegistry Registry.unordered {} SteadyClock.read).scan
          { startTime := .int 0 } ['x'] freshState = (.ok nodes, st') ∧
        ¬ Rewrites Registry.unordered.LeastAt ['x'] 0 nodes := by
  have hnests : ∀ rule ∈ Registry.unordered.rules,
      ReprocessesOnce rule.definition.steps ∧ rule.pattern.expr.plainLooks = true := by
    decide +kernel
  have hscan : ((ofRegistry Registry.unordered {} SteadyClock.read).scan
      { startTime := .int 0 } ['x'] freshState).1.toOption = some [.text ['5', 'x']] := by
    decide +kernel
  refine ⟨Registry.reachable_unordered, fun rule hrule _ =>
    Rule.nests_of_plainLooks (hnests rule hrule).1 (hnests rule hrule).2, rfl, _, _,
    eq_ok_of_toOption hscan, fun h => ?_⟩
  generalize hnodes : [Node.text ['5', 'x']] = nodes at h
  cases h with
  | rest => exact absurd hnodes (by decide)
  | @win _ _ rule found answers produced rest hle hfirst hwin hanswers hproduced hrest =>
    have hbounds := Rule.matchAt_bounds hwin.1.2.2
    have hzero : found.start = 0 := by
      simp only [List.length_singleton] at hbounds
      omega
    rw [hzero] at hwin hnodes
    rw [process_unordered hwin answers] at hproduced
    cases hproduced
    exact absurd (List.cons.inj hnodes).1 (by decide)

end Scanner

end Tategaki
