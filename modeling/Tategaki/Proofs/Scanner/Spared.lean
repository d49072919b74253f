import Tategaki.Proofs.Scanner.Segment

/-!
# 読まれた区間を避ける

走査を始めるときに、文字列全体を覆わない区間がすでに記録されているとする。走査は、区間の中に立った
ところでだけ区間に気付く。だから、そのまま出す文字列と、規則の合い始める位置は、いつも区間の外にある。

ところが、区間の手前から合い始めた規則は、区間の中まで読んでしまうことがある。合ったところの中の組だけ
でなく、先読みの中の組を走査し直すときも同じである。そのどれもが区間に掛からないなら
（`Segment.Spares`）、書き足す区間は初めからある区間と重ならず、区間の中の文字は飛ばされるだけで、二度と
出ない。逆に、書き足す区間が重ならないなら、合ったところはどれも区間に掛かっていない（`scan_spared`）。

文字列 `ab` の二文字目がすでに読まれていても、`ab` に合う規則は両方の文字を読んで出す
（`scan_spared_reaching`）。
-/

namespace Tategaki

namespace Scanner

variable {τ : Type}

/-! ## 区間に掛からないこと -/

/-- 位置 `a` から `b` の手前までに、`ranges` の区間は掛からない。 -/
def Untouched (ranges : List ProcessedRange) (a b : Int) : Prop :=
  ∀ range ∈ ranges, ∀ p, a ≤ p → p < b → range.contains p = false

/-- 規則の合ったところも、その段の求める文字列も、`ranges` の区間に掛からない。 -/
def Segment.Spares (text : Text) (ranges : List ProcessedRange) : Segment → Prop
  | matched rule found _ => Untouched ranges found.start found.stop ∧
      ∀ segment (start : Nat), Reprocesses rule.definition.steps
        ⟨text, found, rule.pattern.groupCount⟩ segment start →
        Untouched ranges start (start + segment.length)
  | _ => True

/-- 掛からない文字列の中にある区間も、掛からない。 -/
theorem Untouched.of_covered {ranges : List ProcessedRange} {a b : Int} {range : ProcessedRange}
    (h : Untouched ranges a b) (hc : Covered a b range) :
    Untouched ranges range.start range.stop := by
  intro old hold p hstart hstop
  have hboth := hc p (ProcessedRange.contains_iff.mpr ⟨hstart, hstop⟩)
  exact h old hold p hboth.1 hboth.2

/-- 文字列全体を覆わない区間だけなら、枠全体を覆う区間だけの掛かる位置には、どれも掛からない。 -/
theorem untouched_of_covers {text : Text} {ranges : List ProcessedRange} {a b : Nat}
    (hcovers : ∀ old ∈ ranges, old.covers 0 text.length = false)
    (h : ∀ p : Nat, a ≤ p → p < b → ∀ old ∈ ranges, old.contains (0 + p) = true →
      old.covers 0 (0 + text.length) = true) :
    Untouched ranges a b := by
  intro old hold p hstart hstop
  cases hcontains : old.contains p with
  | false => rfl
  | true =>
    have hcast : (0 : Int) + p.toNat = p := by omega
    have hfull := h p.toNat (by omega) (by omega) old hold (by rw [hcast]; exact hcontains)
    rw [Int.zero_add, hcovers old hold] at hfull
    cases hfull

/-! ## 切れ端のある所 -/

/-- 切れ端は余さず覆うので、どの位置も、ある切れ端の中にある。 -/
theorem Segment.Tiles.exists_mem {segments : List Segment} {a b p : Nat}
    (h : Segment.Tiles a segments b) (ha : a ≤ p) (hb : p < b) :
    ∃ s ∈ segments, s.start ≤ p ∧ p < s.stop := by
  induction segments generalizing a with
  | nil =>
    have heq : a = b := h
    omega
  | cons s rest ih =>
    obtain ⟨hstart, hstop, hrest⟩ := h
    by_cases hp : p < s.stop
    · exact ⟨s, List.mem_cons_self, by omega, hp⟩
    · obtain ⟨s', hs', hbounds⟩ := ih hrest (Nat.not_lt.mp hp)
      exact ⟨s', List.mem_cons_of_mem s hs', hbounds⟩

/-! ## 走査の全体 -/

/-- 走査の切れ端 `segments` と書き足した区間 `added` が、初めからある区間を避けている。 -/
structure Spared (r : Registry) (sc : Scanner τ) (ctx : Context) (text : Text)
    (st st' : ScanState τ) (nodes : List Node) (segments : List Segment)
    (added : List ProcessedRange) : Prop where
  tiles : Segment.Tiles 0 segments text.length
  output : nodes = segments.flatMap (Segment.output text)
  justified : ∀ s ∈ segments, s.Justified r sc ctx text 0 st st'
  ranges_eq : st'.ranges = st.ranges ++ added
  accounts : Segment.Accounts text 0 segments added
  /-- そのまま出す文字列に、区間は掛からない。 -/
  literal : ∀ start stop : Nat, .literal start stop ∈ segments → Untouched st.ranges start stop
  /-- 規則の合い始める位置に、区間は掛からない。 -/
  start : ∀ rule found produced, .matched rule found produced ∈ segments →
    Untouched st.ranges found.start (found.start + 1 : Nat)
  /-- 規則が区間の中まで読まないなら、書き足す区間は初めからある区間と重ならない。 -/
  apart : (∀ s ∈ segments, s.Spares text st.ranges) →
    ∀ range ∈ added, Untouched st.ranges range.start range.stop
  /-- 規則が区間の中まで読まないなら、区間の中の文字は飛ばされる。 -/
  skipped : (∀ s ∈ segments, s.Spares text st.ranges) →
    ∀ p : Nat, p < text.length → (∃ old ∈ st.ranges, old.contains p = true) →
      ∃ start stop range, .skipped start stop range ∈ segments ∧ start ≤ p ∧ p < stop
  /-- 書き足す区間が重ならないなら、規則は区間の中まで読んでいない。 -/
  untouched : (∀ range ∈ added, Untouched st.ranges range.start range.stop) →
    ∀ rule found produced, .matched rule found produced ∈ segments →
      Untouched st.ranges found.start found.stop

/-- 区間の中まで読まない切れ端が書き足した区間は、初めからある区間と重ならない。 -/
theorem Segment.Spares.untouched {text : Text} {ranges : List ProcessedRange} {s : Segment}
    {range : ProcessedRange} (h : s.Spares text ranges) (hr : s.Records text 0 range) :
    Untouched ranges range.start range.stop := by
  cases s with
  | literal start stop => cases hr
  | skipped start stop range => cases hr
  | matched rule found produced =>
    obtain ⟨hspan, hgroups⟩ := h
    rcases hr with rfl | ⟨segment, start, hreprocess, hcovered⟩
    · simpa using hspan
    · refine (hgroups segment start hreprocess).of_covered ?_
      simpa using hcovered

/--
**走査は、初めからある区間の中の文字をそのまま出さず、そこから合い始めることもない。**

規則が区間の手前から区間の中まで読むことのないときに限り、書き足す区間は初めからある区間と重ならず、
区間の中の文字は二度と読まれも出されもしない。
-/
theorem scan_spared {r : Registry} (hr : r.Reachable) {limits : Limits} {read : ReadClock τ}
    {ctx : Context} {text : Text} {st st' : ScanState τ} {nodes : List Node}
    (hcovers : ∀ old ∈ st.ranges, old.covers 0 text.length = false)
    (h : (ofRegistry r limits read).scan ctx text st = (.ok nodes, st')) :
    ∃ segments added, Spared r (ofRegistry r limits read) ctx text st st' nodes segments added := by
  obtain ⟨st₁, hvalid, hpasses⟩ := passes_of_scanAt h
  have hranges : st₁.ranges = st.ranges := by rw [state_of_validate hvalid]; rfl
  have hgrow : st.ranges <+: st₁.ranges := hranges ▸ List.prefix_rfl
  obtain ⟨segments, added, hadded, htiles, hnodes, hjust, haccounts⟩ :=
    hpasses.cut hr hgrow (Nat.le_refl 0) (Nat.zero_le _)
      fun p _ hlt => absurd hlt (Nat.not_lt_zero p)
  have hliteral : ∀ start stop : Nat, .literal start stop ∈ segments →
      Untouched st.ranges start stop := by
    intro start stop hs
    exact untouched_of_covers hcovers fun p hp hlt => ((hjust _ hs).1 p hp hlt).1
  have hskipped : (∀ s ∈ segments, s.Spares text st.ranges) → ∀ p : Nat, p < text.length →
      (∃ old ∈ st.ranges, old.contains p = true) →
      ∃ start stop range, .skipped start stop range ∈ segments ∧ start ≤ p ∧ p < stop := by
    rintro hspares p hp ⟨old, hold, hcontains⟩
    obtain ⟨s, hs, hstart, hstop⟩ := htiles.exists_mem (Nat.zero_le p) hp
    -- 出す切れ端と規則の合った切れ端には、どの区間も掛からない
    have hclear : ∀ a b : Nat, Untouched st.ranges a b → a ≤ p → p < b → False := by
      intro a b huntouched ha hb
      have hfalse := huntouched old hold p (by omega) (by omega)
      exact Bool.false_ne_true (hfalse.symm.trans hcontains)
    cases s with
    | literal start stop => exact (hclear start stop (hliteral start stop hs) hstart hstop).elim
    | matched rule found produced => exact (hclear _ _ (hspares _ hs).1 hstart hstop).elim
    | skipped start stop range => exact ⟨start, stop, range, hs, hstart, hstop⟩
  refine ⟨segments, added, htiles, hnodes, fun s hs => (hjust s hs).1, ?_, haccounts, hliteral,
    ?_, ?_, hskipped, ?_⟩
  · rw [hadded, hranges]
  · intro rule found produced hs
    refine untouched_of_covers hcovers fun p hp hlt => ?_
    obtain rfl : p = found.start := by omega
    exact (hjust _ hs).2
  · intro hspares range hrange
    obtain ⟨s, hs, hrecords⟩ := haccounts.recorded range hrange
    exact (hspares s hs).untouched hrecords
  · intro hapart rule found produced hs
    simpa using hapart _ (haccounts.matched rule found produced hs)

/-! ## 区間の手前から -/

/-- 途中に三つの区間を持つ状態。一つは文字列の始まりからはみ出す。 -/
def markedState : ScanState SteadyClock :=
  { freshState with ranges := [⟨-3, 1, "outside"⟩, ⟨4, 6, "inside"⟩, ⟨3, 3, "empty"⟩] }

/-- 塞がれた先頭と途中を避けて、残りだけを組む。 -/
theorem scan_spared_marked :
    (Registry.bundled {}).Reachable ∧
      (∀ old ∈ markedState.ranges, old.covers 0 "令和06年12月".toList.length = false) ∧
      ∃ st', bundledScanner.scan { startTime := .int 0 } "令和06年12月".toList markedState
          = (.ok [.text ['和'], .grouped ['0', '6'] uprightClass, .text ['2', '月']], st') ∧
        ∃ segments added, Spared (.bundled {}) bundledScanner { startTime := .int 0 }
          "令和06年12月".toList markedState st'
          [.text ['和'], .grouped ['0', '6'] uprightClass, .text ['2', '月']] segments added := by
  have hcovers : ∀ old ∈ markedState.ranges,
      old.covers 0 "令和06年12月".toList.length = false := by decide +kernel
  have hscan : (bundledScanner.scan { startTime := .int 0 } "令和06年12月".toList
      markedState).1.toOption
        = some [.text ['和'], .grouped ['0', '6'] uprightClass, .text ['2', '月']] := by
    rw [bundledScanner_eq]
    decide +kernel
  exact ⟨Registry.reachable_bundled {}, hcovers, _, eq_ok_of_toOption hscan,
    scan_spared (Registry.reachable_bundled {}) hcovers (eq_ok_of_toOption hscan)⟩

/-- 二文字の `ab` に合う規則だけの登録簿。 -/
def reaching : Registry :=
  (Registry.registerGroups [{
    name := "a"
    basePriority := .ofInt 1
    patterns := [{ name := "pair", expression := { source := "ab".toList }, output := .upright }] }]
    (.empty {})).2

/-- 二文字目がすでに読まれた状態。 -/
def earlierState : ScanState SteadyClock := { freshState with ranges := [⟨1, 2, "earlier"⟩] }

/-- 一文字目から合い始めた規則は、すでに読まれた二文字目も読んで出し、区間は重なる。 -/
theorem scan_spared_reaching :
    reaching.Reachable ∧ earlierState.ranges ≠ [] ∧
      (∀ old ∈ earlierState.ranges, old.covers 0 ['a', 'b'].length = false) ∧
      ∃ st', (ofRegistry reaching {} SteadyClock.read).scan { startTime := .int 0 } ['a', 'b']
          earlierState = (.ok [.grouped ['a', 'b'] uprightClass], st') ∧
        st'.ranges = earlierState.ranges ++ [⟨0, 2, "pair"⟩] ∧
        ¬ ∀ range ∈ [(⟨0, 2, "pair"⟩ : ProcessedRange)], ∀ old ∈ earlierState.ranges, ∀ p : Int,
          ¬ (range.contains p = true ∧ old.contains p = true) := by
  have hscan : ((ofRegistry reaching {} SteadyClock.read).scan { startTime := .int 0 } ['a', 'b']
      earlierState).1.toOption = some [.grouped ['a', 'b'] uprightClass] := by decide +kernel
  have hranges : ((ofRegistry reaching {} SteadyClock.read).scan { startTime := .int 0 } ['a', 'b']
      earlierState).2.ranges = earlierState.ranges ++ [⟨0, 2, "pair"⟩] := by decide +kernel
  refine ⟨Registry.reachable_registerGroups _ (.empty {}), by decide, by decide +kernel, _,
    eq_ok_of_toOption hscan, hranges, fun hapart => ?_⟩
  exact hapart ⟨0, 2, "pair"⟩ List.mem_cons_self ⟨1, 2, "earlier"⟩ List.mem_cons_self 1
    ⟨by decide, by decide⟩

end Scanner

end Tategaki
