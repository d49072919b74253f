import Tategaki.Proofs.Rule.Order
import Tategaki.Proofs.Scanner.Law

/-!
# 枠の切り分け

枠の走査が節を返すなら、枠の文字列は、左から順に並ぶ空でない切れ端に余さず分かれ、節はその出力を
つないだものである（`scanAt_segments`）。切れ端は、そのまま出す文字列、規則が合ったところ、読み飛ばした
ところのどれかである。

文脈が初めから持つ区間には何も求めない。枠からはみ出していても、重なっていてもよい。証明で保つのは、
まだ出していない文字列 `[last, position)` のどこにも規則が合わず、初めからある区間も掛からないこと
（`Idle`）である。読み飛ばす前に出す文字列は `[last, position)` の中で終わるので、出すものと飛ばすものは
重ならない。
-/

namespace Tategaki

namespace Scanner

variable {τ : Type}

/-! ## 切れ端 -/

/-- 枠の文字列の切れ端。 -/
inductive Segment where
  /-- そのまま出す。 -/
  | literal (start stop : Nat)
  /-- 規則が合い、節 `produced` になる。 -/
  | matched (rule : Rule) (found : Regex.Match) (produced : List Node)
  /-- 区間 `range` に塞がれ、何も出さない。 -/
  | skipped (start stop : Nat) (range : ProcessedRange)

namespace Segment

/-- 始まり。 -/
def start : Segment → Nat
  | literal start _ => start
  | matched _ found _ => found.start
  | skipped start _ _ => start

/-- 終わり。 -/
def stop : Segment → Nat
  | literal _ stop => stop
  | matched _ found _ => found.stop
  | skipped _ stop _ => stop

/-- 出力する節。 -/
def output (text : Text) : Segment → List Node
  | literal start stop => [.text (Text.slice text start stop)]
  | matched _ _ produced => produced
  | skipped .. => []

/-- 空でない切れ端が、`a` から `b` までを隙間も重なりもなく覆う。 -/
def Tiles : Nat → List Segment → Nat → Prop
  | a, [], b => a = b
  | a, s :: rest, b => s.start = a ∧ a < s.stop ∧ Tiles s.stop rest b

/-- `[a, b)` をそのまま出す切れ端。空なら要らない。 -/
def literals (a b : Nat) : List Segment := if a < b then [literal a b] else []

theorem tiles_literals {a b c : Nat} (hab : a ≤ b) (rest : List Segment) (h : Tiles b rest c) :
    Tiles a (literals a b ++ rest) c := by
  unfold literals
  split
  · next hlt => exact ⟨rfl, hlt, h⟩
  · next hlt =>
    obtain rfl : a = b := by omega
    exact h

theorem flatMap_output_literals (text : Text) (a b : Nat) (rest : List Segment) :
    (literals a b ++ rest).flatMap (output text) = gap text a b ++ rest.flatMap (output text) := by
  unfold literals gap
  split <;> rfl

end Segment

/-! ## 切れ端の裏付け -/

/-- 位置 `p` には、枠全体を覆わない区間が初めから掛かっておらず、有効な規則も合わない。 -/
def Idle (r : Registry) (text : Text) (offset : Int) (ranges : List ProcessedRange) (p : Nat) :
    Prop :=
  (∀ range ∈ ranges, range.contains (offset + p) = true →
      range.covers offset (offset + text.length) = true) ∧
    ∀ rule found, ¬ r.MatchesAt text p rule found

/-- 切れ端が走査の規則に適っている。`st` は枠の始まりの、`st'` は終わりの状態である。 -/
def Segment.Justified (r : Registry) (sc : Scanner τ) (ctx : Context) (text : Text)
    (offset : Int) (st st' : ScanState τ) : Segment → Prop
  | literal start stop => ∀ p, start ≤ p → p < stop → Idle r text offset st.ranges p
  | matched rule found produced =>
    r.FirstAt text found.start rule found ∧
      (r.Comparable → r.LeastAt text found.start rule found) ∧
      ∃ before after earlier,
        before.ranges = st.ranges ++ earlier
          ++ [⟨offset + found.start, offset + found.stop, rule.name⟩] ∧
        rule.process text found (some (sc.rescan ctx offset rule.name)) .transform before
          = (.ok produced, after) ∧
        after.ranges <+: st'.ranges
  | skipped start stop range =>
    range ∈ st'.ranges ∧ range.covers offset (offset + text.length) = false ∧
      ∀ p : Nat, start ≤ p → p < stop → range.contains (offset + p) = true

/-- 合ったところの始まりには、枠全体を覆わない区間が初めから掛かってはいない。 -/
def Segment.Unblocked (text : Text) (offset : Int) (ranges : List ProcessedRange) :
    Segment → Prop
  | matched _ found _ => ∀ range ∈ ranges, range.contains (offset + found.start) = true →
      range.covers offset (offset + text.length) = true
  | _ => True

theorem Segment.justified_literals {r : Registry} {sc : Scanner τ} {ctx : Context} {text : Text}
    {offset : Int} {st st' : ScanState τ} {a b : Nat}
    (h : ∀ p, a ≤ p → p < b → Idle r text offset st.ranges p) :
    ∀ s ∈ literals a b, s.Justified r sc ctx text offset st st' ∧
      s.Unblocked text offset st.ranges := by
  unfold literals
  split
  · intro s hs
    rw [List.mem_singleton.mp hs]
    exact ⟨h, trivial⟩
  · intro s hs
    cases hs

/-- 区間 `range` は、切れ端の規則が合ったところそのものか、その段の求めた文字列の中にある。 -/
def Segment.Records (text : Text) (offset : Int) (range : ProcessedRange) : Segment → Prop
  | matched rule found _ =>
    range = ⟨offset + found.start, offset + found.stop, rule.name⟩ ∨
      ∃ segment start, Reprocesses rule.definition.steps
        ⟨text, found, rule.pattern.groupCount⟩ segment start ∧
        Covered (offset + start) (offset + start + segment.length) range
  | _ => False

/-- 書き足した区間は、規則の合った切れ端と対応する。 -/
structure Segment.Accounts (text : Text) (offset : Int) (segments : List Segment)
    (added : List ProcessedRange) : Prop where
  /-- どの区間も、ある切れ端が書き足した。 -/
  recorded : ∀ range ∈ added, ∃ s ∈ segments, s.Records text offset range
  /-- 規則の合ったところは、どれも区間になった。 -/
  matched : ∀ rule found produced, .matched rule found produced ∈ segments →
    ⟨offset + found.start, offset + found.stop, rule.name⟩ ∈ added

/-- 規則の合わない切れ端をいくつ前に置いても、対応は変わらない。 -/
theorem Segment.Accounts.prepend {text : Text} {offset : Int} {front segments : List Segment}
    {added : List ProcessedRange} (h : Accounts text offset segments added)
    (hfront : ∀ rule found produced, .matched rule found produced ∉ front) :
    Accounts text offset (front ++ segments) added where
  recorded range hr := by
    obtain ⟨s, hs, hrecords⟩ := h.recorded range hr
    exact ⟨s, List.mem_append_right front hs, hrecords⟩
  matched rule found produced hs := by
    rcases List.mem_append.mp hs with hs | hs
    · exact absurd hs (hfront rule found produced)
    · exact h.matched rule found produced hs

/-- 規則の合った切れ端を前に置けば、その区間と、内側で増えた区間が加わる。 -/
theorem Segment.Accounts.win {text : Text} {offset : Int} {rule : Rule} {found : Regex.Match}
    {produced : List Node} {segments : List Segment} {nested added : List ProcessedRange}
    (h : Accounts text offset segments added)
    (hnested : ∀ range ∈ nested, ∃ segment start, Reprocesses rule.definition.steps
      ⟨text, found, rule.pattern.groupCount⟩ segment start ∧
      Covered (offset + start) (offset + start + segment.length) range) :
    Accounts text offset (.matched rule found produced :: segments)
      (⟨offset + found.start, offset + found.stop, rule.name⟩ :: (nested ++ added)) where
  recorded range hr := by
    rcases List.mem_cons.mp hr with rfl | hr
    · exact ⟨_, List.mem_cons_self, .inl rfl⟩
    · rcases List.mem_append.mp hr with hr | hr
      · exact ⟨_, List.mem_cons_self, .inr (hnested range hr)⟩
      · obtain ⟨s, hs, hrecords⟩ := h.recorded range hr
        exact ⟨s, List.mem_cons_of_mem _ hs, hrecords⟩
  matched rule' found' produced' hs := by
    rcases List.mem_cons.mp hs with heq | hs
    · cases heq
      exact List.mem_cons_self
    · exact List.mem_cons_of_mem _ (List.mem_append_right nested (h.matched _ _ _ hs))

theorem Segment.not_matched_mem_literals {a b : Nat} (rule : Rule) (found : Regex.Match)
    (produced : List Node) : .matched rule found produced ∉ literals a b := by
  unfold literals
  split <;> simp

/-! ## 登録簿の規則 -/

/-- 登録簿で走査すると、勝つのは試す順で最初に合う規則である。 -/
theorem firstAt_of_winner? {r : Registry} (ho : r.Ordered) {text : Text} {position : Nat}
    {rule : Rule} {found : Regex.Match}
    (h : winner? r.activeRules text.toArray position = some (rule, found)) :
    r.FirstAt text position rule found := by
  rw [ho.activeRules_eq] at h
  exact Registry.firstAt_iff.mpr h

theorem not_matchesAt_of_winner?_none {r : Registry} (ho : r.Ordered) {text : Text}
    {position : Nat} (h : winner? r.activeRules text.toArray position = none) (rule : Rule)
    (found : Regex.Match) : ¬ r.MatchesAt text position rule found := by
  rintro ⟨hmem, henabled, hmatch⟩
  rw [ho.activeRules_eq] at h
  have hnone := matchAt_of_winner?_none h rule (Registry.mem_sortEnabled.mpr ⟨hmem, henabled⟩)
  rw [hmatch] at hnone
  cases hnone

/-- 塞がれていない位置に掛かる区間は、枠全体を覆う。 -/
theorem covers_of_blocking?_none {ranges : List ProcessedRange} {p lo hi : Int}
    (h : ProcessedRange.blocking? ranges p lo hi = none) :
    ∀ range ∈ ranges, range.contains p = true → range.covers lo hi = true := by
  intro range hmem hcontains
  have := List.find?_eq_none.mp h range hmem
  simpa [hcontains] using this

/-! ## 切り分け -/

theorem Passes.ranges_prefix {sc : Scanner τ} {ctx : Context} {text : Text} {offset : Int}
    {position last : Nat} {st st' : ScanState τ} {nodes : List Node}
    (h : Passes sc (.of ctx text offset) (sc.rescan ctx offset) position last st nodes st') :
    st.ranges <+: st'.ranges := by
  induction h with
  | finish => exact List.prefix_rfl
  | step _ ht _ ih => rw [← ranges_of_turn ht]; exact ih
  | skip _ ht _ ih => rw [← ranges_of_turn ht]; exact ih
  | win _ ht hp _ ih =>
    obtain ⟨hrule, hmatch⟩ := mem_of_winner? (turn_win ht).2
    rw [← ranges_of_turn ht]
    exact (transform_ranges hrule hmatch hp).trans ih

/-- 枠の文字列の `a` から後ろを余さず分けた切れ端。節はその出力で、区間 `added` と対応する。`start` は枠の始まりの、
`st'` は終わりの状態である。 -/
structure Cut (r : Registry) (sc : Scanner τ) (ctx : Context) (text : Text) (offset : Int)
    (start st' : ScanState τ) (a : Nat) (segments : List Segment) (nodes : List Node)
    (added : List ProcessedRange) : Prop where
  tiles : Segment.Tiles a segments text.length
  output : nodes = segments.flatMap (Segment.output text)
  justified : ∀ s ∈ segments, s.Justified r sc ctx text offset start st' ∧
    s.Unblocked text offset start.ranges
  accounts : Segment.Accounts text offset segments added

namespace Cut

variable {r : Registry} {sc : Scanner τ} {ctx : Context} {text : Text} {offset : Int}
  {start st' : ScanState τ} {segments : List Segment} {nodes : List Node}
  {added : List ProcessedRange}

/-- 終わりには何も残っていない。 -/
theorem nil : Cut r sc ctx text offset start st' text.length [] [] [] :=
  ⟨rfl, rfl, (fun s hs => by cases hs),
    (fun range hr => by cases hr), fun rule found produced hs => by cases hs⟩

/-- 規則の合わない文字列を、そのまま前に出す。 -/
theorem literals {a b : Nat} (hab : a ≤ b) (hidle : ∀ p, a ≤ p → p < b →
      Idle r text offset start.ranges p)
    (h : Cut r sc ctx text offset start st' b segments nodes added) :
    Cut r sc ctx text offset start st' a (Segment.literals a b ++ segments)
      (gap text a b ++ nodes) added where
  tiles := Segment.tiles_literals hab _ h.tiles
  output := by rw [Segment.flatMap_output_literals, h.output]
  justified s hs := by
    rcases List.mem_append.mp hs with hs | hs
    · exact Segment.justified_literals hidle s hs
    · exact h.justified s hs
  accounts := h.accounts.prepend Segment.not_matched_mem_literals

/-- 塞がれたところを飛ばす。 -/
theorem skipped {a b : Nat} {range : ProcessedRange} (hab : a < b)
    (hjust : (Segment.skipped a b range).Justified r sc ctx text offset start st')
    (h : Cut r sc ctx text offset start st' b segments nodes added) :
    Cut r sc ctx text offset start st' a (.skipped a b range :: segments) nodes added where
  tiles := ⟨rfl, hab, h.tiles⟩
  output := by
    rw [List.flatMap_cons, ← h.output]
    rfl
  justified s hs := by
    rcases List.mem_cons.mp hs with rfl | hs
    · exact ⟨hjust, trivial⟩
    · exact h.justified s hs
  accounts := by
    rw [← List.singleton_append]
    exact h.accounts.prepend fun rule found produced hs => by cases List.mem_singleton.mp hs

/-- 規則が合ったところを出す。その区間と、内側で増えた区間が加わる。 -/
theorem matched {rule : Rule} {found : Regex.Match} {produced : List Node}
    {nested : List ProcessedRange} (hlt : found.start < found.stop)
    (hjust : (Segment.matched rule found produced).Justified r sc ctx text offset start st')
    (hfree : (Segment.matched rule found produced).Unblocked text offset start.ranges)
    (hnested : ∀ range ∈ nested, ∃ segment begin, Reprocesses rule.definition.steps
      ⟨text, found, rule.pattern.groupCount⟩ segment begin ∧
      Covered (offset + begin) (offset + begin + segment.length) range)
    (h : Cut r sc ctx text offset start st' found.stop segments nodes added) :
    Cut r sc ctx text offset start st' found.start (.matched rule found produced :: segments)
      (produced ++ nodes)
      (⟨offset + found.start, offset + found.stop, rule.name⟩ :: (nested ++ added)) where
  tiles := ⟨rfl, hlt, h.tiles⟩
  output := by
    rw [List.flatMap_cons, ← h.output]
    rfl
  justified s hs := by
    rcases List.mem_cons.mp hs with rfl | hs
    · exact ⟨hjust, hfree⟩
    · exact h.justified s hs
  accounts := h.accounts.win hnested

end Cut

/-- 飛ばす前に出す文字列は、いまの位置を越えない。 -/
theorem beforeSkip_bounds (ctx : Context) (text : Text) {offset : Int} {range : ProcessedRange}
    {position last : Nat} (hlast : last ≤ position)
    (hcontains : range.contains (offset + position) = true) :
    last ≤ (Frame.of ctx text offset).beforeSkip range last ∧
      (Frame.of ctx text offset).beforeSkip range last ≤ position := by
  have hoffset : range.start ≤ offset + position := (ProcessedRange.contains_iff.mp hcontains).1
  simp only [Frame.beforeSkip, Frame.of_offset]
  omega

/-- 勝った規則の切れ端は、走査の規則に適っている。 -/
theorem justified_of_win {r : Registry} (hr : r.Reachable) {limits : Limits} {read : ReadClock τ}
    {ctx : Context} {text : Text} {offset : Int} {start st st₁ st₂ st' : ScanState τ}
    {position : Nat} {rule : Rule} {found : Regex.Match} {produced : List Node}
    (ht : (ofRegistry r limits read).turn (.of ctx text offset) position st
      = (.win rule found, st₁))
    (hp : transform (.of ctx text offset) ((ofRegistry r limits read).rescan ctx offset) rule found
      st₁ = (.ok produced, st₂))
    (hgrow : start.ranges <+: st₁.ranges) (hafter : st₂.ranges <+: st'.ranges) :
    (Segment.matched rule found produced).Justified r (ofRegistry r limits read) ctx text offset
        start st' ∧
      (Segment.matched rule found produced).Unblocked text offset start.ranges := by
  obtain ⟨hblock, hwinner⟩ := turn_win ht
  have hstart := (Rule.matchAt_bounds (mem_of_winner? hwinner).2).1
  have hfirst : r.FirstAt text position rule found := firstAt_of_winner? hr.ordered hwinner
  rw [← hstart] at hfirst hblock
  obtain ⟨before, -, hranges, hprocess⟩ := transform_ok hp
  obtain ⟨earlier, hearlier⟩ := hgrow
  refine ⟨⟨hfirst, fun hc => (Registry.firstAt_iff_leastAt hr.ordered hc).mp hfirst, before, st₂,
    earlier, ?_, hprocess, hafter⟩, fun range hmem => ?_⟩
  · rw [hranges, ← hearlier]
    rfl
  · exact covers_of_blocking?_none hblock range (hearlier ▸ List.mem_append_left earlier hmem)

/-- 一歩ずつの走査から、切れ端を左から順に取り出す。書き足した区間は、規則の合った切れ端と対応する。 -/
theorem Passes.cut {r : Registry} (hr : r.Reachable) {limits : Limits}
    {read : ReadClock τ} {ctx : Context} {text : Text} {offset : Int} {start st st' : ScanState τ}
    {position last : Nat} {nodes : List Node}
    (h : Passes (ofRegistry r limits read) (.of ctx text offset)
      ((ofRegistry r limits read).rescan ctx offset) position last st nodes st')
    (hgrow : start.ranges <+: st.ranges) (hlast : last ≤ position) (hle : last ≤ text.length)
    (hidle : ∀ p, last ≤ p → p < position → Idle r text offset start.ranges p) :
    ∃ segments added, st'.ranges = st.ranges ++ added ∧
      Cut r (ofRegistry r limits read) ctx text offset start st' last segments nodes added := by
  induction h with
  | @finish position last st hdone =>
    have hcut : Cut r (ofRegistry r limits read) ctx text offset start st last
        (Segment.literals last text.length ++ []) (gap text last text.length ++ []) [] :=
      Cut.nil.literals hle fun p hp hlt => hidle p hp (Nat.lt_of_lt_of_le hlt hdone)
    rw [List.append_nil (gap text last text.length)] at hcut
    exact ⟨_, [], (List.append_nil _).symm, hcut⟩
  | @step position last st st₁ st' nodes hlt ht hrest ih =>
    obtain ⟨hblock, hnone⟩ := turn_step ht
    have hgrow₁ : start.ranges <+: st₁.ranges := by rw [ranges_of_turn ht]; exact hgrow
    rw [← ranges_of_turn ht]
    refine ih hgrow₁ (Nat.le_succ_of_le hlast) hle fun p hp hlt' => ?_
    rcases Nat.lt_succ_iff_lt_or_eq.mp hlt' with hlt' | rfl
    · exact hidle p hp hlt'
    · refine ⟨fun range hmem => ?_, not_matchesAt_of_winner?_none hr.ordered hnone⟩
      exact covers_of_blocking?_none hblock range (hgrow₁.subset hmem)
  | @skip position last st st₁ st' range rest hlt ht hrest ih =>
    obtain ⟨hmem, hcontains, hcovers⟩ := turn_skip ht
    obtain ⟨hnext, hnextle⟩ := afterSkip_bounds hlt ht
    obtain ⟨hbefore, hbeforele⟩ := beforeSkip_bounds ctx text hlast hcontains
    have hgrow₁ : start.ranges <+: st₁.ranges := by rw [ranges_of_turn ht]; exact hgrow
    obtain ⟨segments, added, hadded, hcut⟩ :=
      ih hgrow₁ (Nat.le_refl _) hnextle fun p hp hlt' => absurd hlt' (Nat.not_lt.mpr hp)
    have hjust : (Segment.skipped ((Frame.of ctx text offset).beforeSkip range last)
        ((Frame.of ctx text offset).afterSkip range) range).Justified r
        (ofRegistry r limits read) ctx text offset start st' := by
      refine ⟨hrest.ranges_prefix.subset hmem, hcovers, fun p hp hlt' => ?_⟩
      simp only [Frame.beforeSkip, Frame.afterSkip, Frame.of_offset] at hp hlt'
      exact ProcessedRange.contains_iff.mpr (by omega)
    have hskipped := hcut.skipped (Nat.lt_of_le_of_lt hbeforele hnext) hjust
    exact ⟨_, added, by rw [hadded, ranges_of_turn ht], hskipped.literals hbefore
      fun p hp hlt' => hidle p hp (Nat.lt_of_lt_of_le hlt' hbeforele)⟩
  | @win position last st st₁ st₂ st' rule found produced rest hlt ht hp hrest ih =>
    obtain ⟨hrule, hmatch⟩ := mem_of_winner? (turn_win ht).2
    obtain ⟨hstart, hstop, hstople⟩ := Rule.matchAt_bounds hmatch
    have hgrow₁ : start.ranges <+: st₁.ranges := by rw [ranges_of_turn ht]; exact hgrow
    have hgrow₂ : start.ranges <+: st₂.ranges := hgrow₁.trans (transform_ranges hrule hmatch hp)
    obtain ⟨nested, hst₂, hnested⟩ := transform_added hp
    obtain ⟨segments, added, hadded, hcut⟩ :=
      ih hgrow₂ (Nat.le_refl _) hstople fun p hp hlt' => absurd hlt' (Nat.not_lt.mpr hp)
    obtain ⟨hjust, hfree⟩ := justified_of_win hr ht hp hgrow₁ hrest.ranges_prefix
    have hwon := (hcut.matched (hstart ▸ hstop) hjust hfree hnested).literals (hstart ▸ hlast)
      fun p hp hlt' => hidle p hp (hstart ▸ hlt')
    rw [← List.append_assoc] at hwon
    refine ⟨_, _, ?_, hwon⟩
    rw [hadded, hst₂, ranges_of_turn ht, List.append_assoc, List.cons_append]
    rfl

/-- 一歩ずつの走査から、切れ端を左から順に取り出す。 -/
theorem Passes.segments {r : Registry} (hr : r.Reachable) {limits : Limits} {read : ReadClock τ}
    {ctx : Context} {text : Text} {offset : Int} {start st st' : ScanState τ}
    {position last : Nat} {nodes : List Node}
    (h : Passes (ofRegistry r limits read) (.of ctx text offset)
      ((ofRegistry r limits read).rescan ctx offset) position last st nodes st')
    (hgrow : start.ranges <+: st.ranges) (hlast : last ≤ position) (hle : last ≤ text.length)
    (hidle : ∀ p, last ≤ p → p < position → Idle r text offset start.ranges p) :
    ∃ segments, Segment.Tiles last segments text.length ∧
      nodes = segments.flatMap (Segment.output text) ∧
      ∀ s ∈ segments, s.Justified r (ofRegistry r limits read) ctx text offset start st' := by
  obtain ⟨segments, added, -, hcut⟩ := h.cut hr hgrow hlast hle hidle
  exact ⟨segments, hcut.tiles, hcut.output, fun s hs => (hcut.justified s hs).1⟩

/--
**枠の走査が返す節は、枠の文字列を余さず分けた切れ端の出力である。**

どの登録簿、枠の位置、初めからある区間についても成り立つ。
-/
theorem scanAt_segments {r : Registry} (hr : r.Reachable) {limits : Limits}
    {read : ReadClock τ} {ctx : Context} {text : Text} {offset : Int} {st st' : ScanState τ}
    {nodes : List Node}
    (h : (ofRegistry r limits read).scanAt ctx text offset st = (.ok nodes, st')) :
    ∃ segments, Segment.Tiles 0 segments text.length ∧
      nodes = segments.flatMap (Segment.output text) ∧
      ∀ s ∈ segments, s.Justified r (ofRegistry r limits read) ctx text offset st st' := by
  obtain ⟨st₁, hvalid, hpasses⟩ := passes_of_scanAt h
  have hranges : st.ranges <+: st₁.ranges := state_of_validate hvalid ▸ List.prefix_rfl
  exact hpasses.segments hr hranges (Nat.le_refl 0) (Nat.zero_le _) fun p _ hlt =>
    absurd hlt (Nat.not_lt_zero p)

/-- 備え付けの規則の走査器。 -/
def bundledScanner : Scanner SteadyClock := ofRegistry (.bundled {}) {} SteadyClock.read

theorem bundledScanner_eq : bundledScanner = ⟨(Registry.bundled {}).rules, {}, SteadyClock.read⟩ := by
  unfold bundledScanner ofRegistry
  rw [Registry.activeRules_bundled]

/-- 記録のない状態。 -/
def freshState : ScanState SteadyClock := { shared := { ceiling := .number 1000 }, clock := {} }

theorem eq_ok_of_toOption {ε α σ : Type} {result : Except ε α × σ} {a : α}
    (h : result.1.toOption = some a) : result = (.ok a, result.2) := by
  obtain ⟨x | x, s⟩ := result
  · cases h
  · cases h
    rfl

/-- 枠からはみ出す区間、枠を覆う区間、途中を塞ぐ区間を初めから持つ状態。 -/
def crossedState : ScanState SteadyClock :=
  { freshState with ranges := [⟨-3, 1, "outside"⟩, ⟨-1, 100, "covering"⟩, ⟨4, 6, "inside"⟩] }

/-- 先頭と途中を塞がれた枠でも、切れ端は枠を余さず分ける。 -/
theorem scanAt_segments_crossed :
    (Registry.bundled {}).Reachable ∧
      ∃ st', bundledScanner.scanAt { startTime := .int 0 } "令和06年12月".toList 0 crossedState
          = (.ok [.text ['和'], .grouped ['0', '6'] uprightClass, .text ['2', '月']], st') ∧
        ∃ segments, Segment.Tiles 0 segments "令和06年12月".toList.length ∧
          [.text ['和'], .grouped ['0', '6'] uprightClass, .text ['2', '月']]
            = segments.flatMap (Segment.output "令和06年12月".toList) ∧
          ∀ s ∈ segments, s.Justified (.bundled {}) bundledScanner { startTime := .int 0 }
            "令和06年12月".toList 0 crossedState st' := by
  have hscan : (bundledScanner.scanAt { startTime := .int 0 } "令和06年12月".toList 0
      crossedState).1.toOption
        = some [.text ['和'], .grouped ['0', '6'] uprightClass, .text ['2', '月']] := by
    rw [bundledScanner_eq]
    decide +kernel
  exact ⟨Registry.reachable_bundled {}, _, eq_ok_of_toOption hscan,
    scanAt_segments (Registry.reachable_bundled {}) (eq_ok_of_toOption hscan)⟩

/-- 非数の優先順位があると、切れ端の規則は、優先順位と通し番号の最も小さいものとは限らない。 -/
theorem scanAt_segments_unordered :
    Registry.unordered.Reachable ∧
      ∃ nodes st', (ofRegistry Registry.unordered {} SteadyClock.read).scanAt
          { startTime := .int 0 } ['x'] 0 freshState = (.ok nodes, st') ∧
        ¬ ∃ segments, Segment.Tiles 0 segments 1 ∧
          nodes = segments.flatMap (Segment.output ['x']) ∧
          ∀ s ∈ segments, s.Justified Registry.unordered
              (ofRegistry Registry.unordered {} SteadyClock.read) { startTime := .int 0 } ['x'] 0
              freshState st' ∧
            ∀ rule found produced, s = .matched rule found produced →
              Registry.unordered.LeastAt ['x'] found.start rule found := by
  have hscan : ((ofRegistry Registry.unordered {} SteadyClock.read).scanAt
      { startTime := .int 0 } ['x'] 0 freshState).1.toOption = some [.text ['5', 'x']] := by
    decide +kernel
  have hcovers : ∀ range ∈ ((ofRegistry Registry.unordered {} SteadyClock.read).scanAt
      { startTime := .int 0 } ['x'] 0 freshState).2.ranges, range.covers 0 1 = true := by
    decide +kernel
  refine ⟨Registry.reachable_unordered, _, _, eq_ok_of_toOption hscan, ?_⟩
  rintro ⟨segments, htiles, hnodes, hsegments⟩
  cases segments with
  | nil => cases htiles
  | cons s rest =>
    obtain ⟨hstart, hstop, -⟩ := htiles
    obtain ⟨hjust, hleast⟩ := hsegments s List.mem_cons_self
    cases s with
    | literal start stop =>
      -- そのまま出す切れ端なら、先頭に合う規則はないはずである
      have hmatch : Registry.unordered.rules.any fun rule =>
          rule.enabled && (rule.matchAt #['x'] 0).isSome := by decide +kernel
      obtain ⟨rule, hmem, hrule⟩ := List.any_eq_true.mp hmatch
      obtain ⟨henabled, hsome⟩ := Bool.and_eq_true_iff.mp hrule
      obtain ⟨found, hfound⟩ := Option.isSome_iff_exists.mp hsome
      obtain ⟨-, hnone⟩ := hjust 0 (Nat.le_of_eq hstart) hstop
      exact hnone rule found ⟨hmem, henabled, hfound⟩
    | matched rule found produced =>
      have hfirst := hjust.1
      have hleast := hleast rule found produced rfl
      rw [show found.start = 0 from hstart] at hfirst hleast
      exact Registry.not_leastAt_unordered hfirst hleast
    | skipped start stop range =>
      obtain ⟨hmem, hcover, -⟩ := hjust
      exact Bool.false_ne_true (hcover.symm.trans (hcovers range hmem))

end Scanner

end Tategaki
