import Tategaki.Chapter.Converter
import Tategaki.Proofs.Chapter.Typeset
import Tategaki.Proofs.Scanner.Safety

/-!
# 変換器の使う登録簿

変換は、登録簿の有効な規則と上限だけで決まる。だから、無効な規則をいくら加えても（`Registry.Padded`）、変換の
結果は変わらない。有効な規則が一つもなければ、本文は、字下げのほかは書かれたまま残る（`untouched`）。

ただし、規則を一つも持たない登録簿は、渡されなかったものとして扱われる。そのとき変換器は備え付けの規則を使うので、
無効な規則を一つ加えただけで結果が変わる（`convert_padded`、`convert_padded_empty`）。
-/

namespace Tategaki

/-! ## 無効な規則 -/

namespace Registry

/-- 組から作った登録簿は、操作で得られる。 -/
theorem reachable_ofGroups {groups : List RuleGroup} {limits : Limits} {r : Registry}
    (h : ofGroups groups limits = .ok r) : r.Reachable := by
  have hr := reachable_registerGroups groups (.empty limits)
  unfold ofGroups at h
  split at h
  · next heq =>
    cases h
    rw [heq] at hr
    exact hr
  · cases h

/-- 登録簿 `r` に、無効な規則を登録していったもの。 -/
inductive Padded (r : Registry) : Registry → Prop
  | refl : Padded r r
  | register {r' r'' : Registry} {d : Definition} {base order : Number} {enabled : Option Bool}
      {rule : Rule} (h : Padded r r') (hr : r'.register d base order enabled = .ok (rule, r''))
      (hd : rule.enabled = false) : Padded r r''

/-- 登録は、規則を後ろに一つ加え、上限も枠も変えない。 -/
theorem register_ok {r r' : Registry} {d : Definition} {base order : Number}
    {enabled : Option Bool} {rule : Rule} (h : r.register d base order enabled = .ok (rule, r')) :
    rule.enabled = enabled.getD (!d.disabled) ∧ r'.rules = r.rules ++ [rule] ∧
      r'.limits = r.limits ∧ r'.budget = r.budget := by
  unfold register at h
  split at h
  · cases h
  · split at h
    · cases h
    · split at h
      · cases h
      · split at h
        · cases h
        · cases h
          exact ⟨rfl, rfl, rfl, rfl⟩

namespace Padded

variable {r r' : Registry}

theorem reachable (h : Padded r r') (hr : r.Reachable) : r'.Reachable := by
  induction h with
  | refl => exact hr
  | register _ hreg _ ih => exact ih.register hreg

/-- 上限と枠は、元の登録簿のものである。 -/
theorem settings (h : Padded r r') : r'.limits = r.limits ∧ r'.budget = r.budget := by
  induction h with
  | refl => exact ⟨rfl, rfl⟩
  | register _ hreg _ ih =>
    obtain ⟨-, -, hlimits, hbudget⟩ := register_ok hreg
    exact ⟨hlimits.trans ih.1, hbudget.trans ih.2⟩

/-- 規則の個数は減らない。 -/
theorem size_le (h : Padded r r') : r.size ≤ r'.size := by
  induction h with
  | refl => exact Nat.le_refl _
  | register _ hreg _ ih =>
    obtain ⟨-, hrules, -, -⟩ := register_ok hreg
    refine Nat.le_trans ih ?_
    unfold size
    rw [hrules, List.length_append]
    exact Nat.le_add_right _ _

theorem filter_enabled (h : Padded r r') :
    r'.rules.filter (·.enabled) = r.rules.filter (·.enabled) := by
  induction h with
  | refl => rfl
  | register _ hreg hd ih =>
    obtain ⟨-, hrules, -, -⟩ := register_ok hreg
    rw [hrules, List.filter_append, ih, List.filter_singleton, hd]
    exact List.append_nil _

/-- **無効な規則を加えても、走査に使う規則は変わらない。** -/
theorem activeRules_eq (h : Padded r r') (hr : r.Reachable) : r'.activeRules = r.activeRules := by
  rw [(h.reachable hr).ordered.activeRules_eq, hr.ordered.activeRules_eq]
  unfold sortEnabled
  rw [h.filter_enabled]

end Padded

/-- 有効な規則がなければ、走査に使う規則はない。 -/
theorem Ordered.activeRules_eq_nil {r : Registry} (h : r.Ordered)
    (hr : ∀ rule ∈ r.rules, rule.enabled = false) : r.activeRules = [] := by
  rw [h.activeRules_eq, sortEnabled, List.filter_eq_nil_iff.mpr fun rule hrule => by
    rw [hr rule hrule]
    exact Bool.false_ne_true]
  rfl

end Registry

/-! ## 規則の合わない走査 -/

/-- 有効な規則は、文字列のどの位置にも合わない。 -/
def Registry.Misses (r : Registry) (text : Text) : Prop :=
  ∀ position < text.length, ∀ rule found, ¬ r.MatchesAt text position rule found

instance (r : Registry) (text : Text) : Decidable (r.Misses text) :=
  decidable_of_iff (∀ position < text.length, ∀ rule ∈ r.rules, rule.enabled = true →
      rule.matchAt text.toArray position = none) <| by
    constructor
    · rintro h position hlt rule found ⟨hmem, henabled, hfound⟩
      rw [h position hlt rule hmem henabled] at hfound
      cases hfound
    · intro h position hlt rule hmem henabled
      exact Option.eq_none_iff_forall_ne_some.mpr fun found hfound =>
        h position hlt rule found ⟨hmem, henabled, hfound⟩

namespace Scanner

variable {τ : Type} {sc : Scanner τ}

/-- 文字列のどの位置でも、規則は勝たない。 -/
def Misses (sc : Scanner τ) (text : Text) : Prop :=
  ∀ position < text.length, winner? sc.rules text.toArray position = none

/-- 規則がなければ、どの文字列でも勝たない。 -/
theorem misses_of_no_rules (hrules : sc.rules = []) (text : Text) : sc.Misses text := by
  intro position _
  rw [hrules]
  rfl

/-- 登録簿の有効な規則が合わない文字列では、どの規則も勝たない。 -/
theorem misses_ofRegistry {r : Registry} (ho : r.Ordered) {text : Text} (h : r.Misses text)
    (limits : Limits) (read : ReadClock τ) : (ofRegistry r limits read).Misses text := by
  intro position hlt
  cases hwinner : winner? r.activeRules text.toArray position with
  | none => exact hwinner
  | some won =>
    obtain ⟨rule, found⟩ := won
    obtain ⟨hmem, hmatch⟩ := mem_of_winner? hwinner
    rw [ho.activeRules_eq] at hmem
    obtain ⟨hmem, henabled⟩ := Registry.mem_sortEnabled.mp hmem
    exact absurd ⟨hmem, henabled, hmatch⟩ (h position hlt rule found)

/-- 経過時間が上限を越えたための失敗。 -/
def Overdue (sc : Scanner τ) (e : ScanError) : Prop :=
  ∃ elapsed, sc.limits.timeout.value.lt elapsed = true ∧ e = .timeout elapsed sc.limits.timeout

/-- 値 `v` を返すか、時間のために失敗する。時計がいつも間に合うなら失敗せず、その後も間に合う。 -/
def Affords {α : Type} (sc : Scanner τ) (start : Number) (st : ScanState τ) (v : α)
    (result : Result τ α) : Prop :=
  result.1 = .ok v ∧ (sc.InTime start st.clock → sc.InTime start result.2.clock) ∨
    ∃ e, result.1 = .error e ∧ sc.Overdue e ∧ ¬ sc.InTime start st.clock

/-- 深さの上限の内では、検めは時間のためにしか失敗しない。 -/
theorem overdue_of_validate {ctx : Context} {st st' : ScanState τ} {e : ScanError}
    (hdepth : ctx.depth ≤ sc.limits.maxDepth.value)
    (h : sc.validate ctx st = (some e, st')) :
    sc.Overdue e ∧ ¬ sc.InTime ctx.startTime st.clock := by
  constructor
  · unfold validate at h
    dsimp only at h
    split at h
    · next hlate =>
      cases h
      exact ⟨_, hlate, rfl⟩
    · rw [if_neg (Int.not_lt.mpr hdepth)] at h
      cases h
  · intro htime
    rw [validate_of_inTime hdepth htime] at h
    cases h

/-- 規則が勝たず、塞ぐ区間もなければ、一歩は一文字進むか、時間のために止まる。 -/
theorem turn_of_misses {frame : Frame} {position : Nat} {st : ScanState τ}
    (hmiss : winner? sc.rules frame.input position = none)
    (hdepth : frame.ctx.depth ≤ sc.limits.maxDepth.value) (hst : st.ranges = []) :
    sc.turn frame position st = (.step, (st.readClock sc.read).2) ∨
      ∃ e, (sc.turn frame position st).1 = .stop e ∧ sc.Overdue e ∧
        ¬ sc.InTime frame.ctx.startTime st.clock := by
  unfold turn
  cases hvalid : sc.validate frame.ctx st with
  | mk e st₁ =>
    cases e with
    | some e => exact .inr ⟨e, rfl, overdue_of_validate hdepth hvalid⟩
    | none =>
      have hranges : st₁.ranges = [] := by
        rw [state_of_validate hvalid]
        exact hst
      refine .inl ?_
      dsimp only
      rw [hranges, hmiss, state_of_validate hvalid]
      rfl

theorem loop_of_misses (frame : Frame) {rescan : String → Rescan (ScanState τ) ScanError}
    (hmiss : ∀ position < frame.text.length, winner? sc.rules frame.input position = none)
    (hdepth : frame.ctx.depth ≤ sc.limits.maxDepth.value) (fuel : Nat) :
    ∀ {position : Nat} (last : Nat) {st : ScanState τ}, st.ranges = [] →
      sc.Affords frame.ctx.startTime st (gap frame.text last frame.text.length)
        (sc.loop frame rescan fuel position last st) := by
  induction fuel with
  | zero => exact fun _ _ _ => .inl ⟨rfl, id⟩
  | succ fuel ih =>
    intro position last st hst
    by_cases hlt : position < frame.text.length
    · rw [loop_succ sc frame rescan hlt]
      rcases turn_of_misses (hmiss position hlt) hdepth hst with hstep | ⟨e, hstop, hlate⟩
      · rw [hstep]
        dsimp only
        have hrest : sc.Affords frame.ctx.startTime (st.readClock sc.read).2 _
          (sc.loop frame rescan fuel (position + 1) last (st.readClock sc.read).2) := ih last hst
        rcases hrest with ⟨hok, htime⟩ | ⟨e, herror, hlate, htime⟩
        · exact .inl ⟨hok, fun h => htime h.next⟩
        · exact .inr ⟨e, herror, hlate, fun h => htime h.next⟩
      · generalize sc.turn frame position st = result at hstop ⊢
        obtain ⟨t, st₁⟩ := result
        cases hstop
        exact .inr ⟨e, rfl, hlate⟩
    · rw [loop_done sc frame rescan (Nat.not_lt.mp hlt)]
      exact .inl ⟨rfl, id⟩

/-- **規則の合わない文字列は、そのまま返る。** 失敗するのは、時間のためだけである。 -/
theorem scan_of_misses {ctx : Context} {st : ScanState τ} {text : Text} (hmiss : sc.Misses text)
    (hdepth : ctx.depth ≤ sc.limits.maxDepth.value) (hst : st.ranges = []) :
    sc.Affords ctx.startTime st (gap text 0 text.length) (sc.scan ctx text st) := by
  unfold scan
  rw [scanAt_eq]
  split
  · next heq => exact .inr ⟨_, rfl, overdue_of_validate hdepth heq⟩
  · next st₁ heq =>
    have hst₁ := state_of_validate heq
    have hranges : st₁.ranges = [] := by
      rw [hst₁]
      exact hst
    have hclock : st₁.clock = (sc.read st.clock).2 := by
      rw [hst₁]
      rfl
    have hloop : sc.Affords ctx.startTime st₁ _
        (sc.loop (.of ctx text 0) (sc.rescan ctx 0) text.length 0 0 st₁) :=
      loop_of_misses (.of ctx text 0) hmiss hdepth text.length 0 hranges
    rcases hloop with ⟨hok, htime⟩ | ⟨e, herror, hlate, htime⟩
    · exact .inl ⟨hok, fun h => htime (hclock ▸ h.next)⟩
    · exact .inr ⟨e, herror, hlate, fun h => htime (hclock ▸ h.next)⟩

end Scanner

namespace Chapter

open Markup

variable {τ : Type} {sc : Scanner τ} {ctx : Context}

/-! ## 規則の合わない組版 -/

/-- 走査する地の文は空でない。 -/
theorem ne_nil_of_mem_leaves (f : Fragment) : ∀ s ∈ leaves f, s ≠ [] := by
  fun_induction leaves f with
  | case1 => simp
  | case2 _ ih => exact ih
  | case3 c s rest ih =>
    intro t ht
    rcases List.mem_cons.mp ht with rfl | ht
    · exact List.cons_ne_nil c s
    · exact ih t ht
  | case4 _ _ _ ih => exact ih
  | case5 _ _ _ _ _ ih => exact ih
  | case6 _ _ _ _ _ ihc ih =>
    intro t ht
    rcases List.mem_append.mp ht with ht | ht
    · exact ihc t ht
    · exact ih t ht

theorem Spliced.length_eq {f f' : Fragment} {outs : List (List Node)} (h : Spliced f outs f') :
    outs.length = (leaves f).length := by
  induction h with
  | nil => rfl
  | empty _ ih => exact ih
  | leaf _ ih => exact congrArg (· + 1) ih
  | special _ ih => exact ih
  | reading hn _ ih => rw [leaves, if_pos hn, ih]
  | element hn _ _ ihc ih =>
    rw [leaves, if_neg (by rw [hn]; exact Bool.false_ne_true), List.length_append,
      List.length_append, ihc, ih]

/-- 地の文をそれぞれ自分自身で置き換えても、木は変わらない。 -/
theorem Spliced.eq_self {f f' : Fragment} {outs : List (List Node)} (h : Spliced f outs f')
    (houts : outs = (leaves f).map fun s => [Node.text s]) : f' = f := by
  induction h with
  | nil => rfl
  | empty _ ih => rw [ih houts]
  | leaf _ ih =>
    obtain ⟨hout, hrest⟩ := List.cons_eq_cons.mp houts
    rw [ih hrest, hout]
    rfl
  | special _ ih => rw [ih houts]
  | reading hn _ ih =>
    rw [leaves, if_pos hn] at houts
    rw [ih houts]
  | element hn hc _ ihc ih =>
    rw [leaves, if_neg (by rw [hn]; exact Bool.false_ne_true), List.map_append] at houts
    obtain ⟨hinner, hrest⟩ := List.append_inj houts (by rw [List.length_map, hc.length_eq])
    rw [ihc hinner, ih hrest]

/-- 規則が合わなければ、走査はどの地の文もそのまま返す。 -/
theorem Scans.eq_of_misses {st st' : ScanState τ} {texts : List Text} {outs : List (List Node)}
    {counts : List Nat} (h : Scans sc ctx st texts outs counts st')
    (htexts : ∀ s ∈ texts, s ≠ [] ∧ sc.Misses s) :
    (outs = texts.map fun s => [Node.text s]) ∧
      (sc.InTime ctx.startTime st.clock → sc.InTime ctx.startTime st'.clock) := by
  induction h with
  | nil => exact ⟨rfl, id⟩
  | @cons st done st' s texts out outs counts hs _ ih =>
    obtain ⟨hne, hmiss⟩ := htexts s (by simp)
    obtain ⟨houts, htime⟩ := ih fun t ht => htexts t (List.mem_cons_of_mem s ht)
    have hfresh : ({ st with ranges := [] } : ScanState τ).ranges = [] := rfl
    rcases Scanner.scan_of_misses hmiss (Scanner.depth_le_of_scanAt hs) hfresh with
      ⟨hok, hnext⟩ | ⟨e, herror, -⟩
    · rw [hs] at hok hnext
      cases hok
      have hpos : 0 < s.length := List.length_pos_iff.mpr hne
      refine ⟨?_, fun h => htime (hnext h)⟩
      rw [houts, Scanner.gap, if_pos hpos, Text.slice_length_right, List.drop_zero]
      rfl
    · rw [hs] at herror
      cases herror

/-- 規則の合わない章を組み終えたなら、木は字下げしたものである。 -/
theorem tree_of_misses {tree : Fragment} (hmiss : ∀ s ∈ leaves (indented tree), sc.Misses s)
    {st : ScanState τ} (herror : (process sc ctx tree st).error = none) :
    (process sc ctx tree st).tree = indented tree := by
  have h : Typesets sc ctx tree st (process sc ctx tree st) := typesets tree false st
  obtain ⟨outs, counts, hscans, htree⟩ := h.finished herror
  exact htree.eq_self (hscans.eq_of_misses fun s hs =>
    ⟨ne_nil_of_mem_leaves _ s hs, hmiss s hs⟩).1

/-- **どの地の文にも規則が合わなければ、組版は字下げのほかに何もしない。** 失敗するのは、時間のためだけである。 -/
theorem process_of_misses (hdepth : ctx.depth ≤ sc.limits.maxDepth.value) {tree : Fragment}
    (hmiss : ∀ s ∈ leaves (indented tree), sc.Misses s) (st : ScanState τ) :
    (process sc ctx tree st).error = none ∧ (process sc ctx tree st).tree = indented tree ∨
      ∃ e, (process sc ctx tree st).error = some e ∧ sc.Overdue e ∧
        ¬ sc.InTime ctx.startTime st.clock := by
  have h : Typesets sc ctx tree st (process sc ctx tree st) := typesets tree false st
  have htexts : ∀ s ∈ leaves (indented tree), s ≠ [] ∧ sc.Misses s := fun s hs =>
    ⟨ne_nil_of_mem_leaves _ s hs, hmiss s hs⟩
  cases herror : (process sc ctx tree st).error with
  | none => exact .inl ⟨rfl, tree_of_misses hmiss herror⟩
  | some e =>
    obtain ⟨before, failing, after, _, _, st₁, st₂, hleaves, hbefore, hfail, -, -⟩ :=
      h.stopped e herror
    rw [hleaves] at htexts
    have htime := (hbefore.eq_of_misses fun s hs =>
      htexts s (List.mem_append_left _ hs)).2
    have hfresh : ({ st₁ with ranges := [] } : ScanState τ).ranges = [] := rfl
    rcases Scanner.scan_of_misses (htexts failing (by simp)).2 hdepth hfresh with
      ⟨hok, -⟩ | ⟨e', herror', hlate, hend⟩
    · rw [hfail] at hok
      cases hok
    · rw [hfail] at herror'
      cases herror'
      exact .inr ⟨e, rfl, hlate, fun hstart => hend (htime hstart)⟩

/-! ## 変換 -/

/-- 規則を使わない変換。本文は、字下げのほかは読んだまま書き出す。 -/
def untouched (stylesheet : String) (html title : Json) : Except ConvertError Text :=
  match readRequest html title with
  | .error e => .error e
  | .ok request =>
    match sanitize request.html with
    | .error e => .error (.unreadable e)
    | .ok sanitized =>
      match Markup.read sanitized with
      | .error e => .error (.unreadable e)
      | .ok tree =>
        let body := write (indented (withHeading request.title tree))
        verify none (Document.render ⟨request.title, stylesheet.toList, body⟩)

namespace Converter

/-- 変換は、規則については、走査に使う並びと枠だけで決まる。 -/
theorem convert_congr (c : Converter τ) {r : Registry}
    (hrules : r.activeRules = c.registry.activeRules) (hbudget : r.budget = c.registry.budget)
    (html title : Json) (budget : Option Budget) (clock : τ) :
    ({ c with registry := r } : Converter τ).convert html title budget clock
      = c.convert html title budget clock := by
  have hscanner : scanner { c with registry := r } = c.scanner := by
    unfold scanner Scanner.ofRegistry
    rw [hrules]
    rfl
  have hcompose : ∀ ctx request st,
      compose { c with registry := r } ctx request st = c.compose ctx request st := by
    intro ctx request st
    unfold compose draft
    rw [hscanner]
    rfl
  unfold convert newBudget
  rw [hscanner]
  simp only [hcompose, hbudget]

/-- 整えた章の地の文に規則が合わなければ、変換は、字下げのほかは読んだままの本文を書き出す。失敗がほかに
あるとすれば、時間のためである。 -/
theorem convert_of_misses {c : Converter τ} {html title : Json} {request : Request}
    {sanitized : Text} {tree : Fragment} (hrequest : readRequest html title = .ok request)
    (hsanitized : sanitize request.html = .ok sanitized)
    (hread : Markup.read sanitized = .ok tree)
    (hdepth : 0 ≤ c.limits.maxDepth.value)
    (hmiss : ∀ s ∈ leaves (indented (withHeading request.title tree)), c.scanner.Misses s)
    (budget : Option Budget) (clock : τ) :
    (c.convert html title budget clock).outcome = verify c.lone (Document.render
        ⟨request.title, c.stylesheet.toList, write (indented (withHeading request.title tree))⟩) ∨
      ∃ e, (c.convert html title budget clock).outcome = .error (.scan e) ∧
        c.scanner.Overdue e ∧ ¬ c.scanner.InTime (c.read clock).1 (c.read clock).2 := by
  unfold convert
  rw [hrequest]
  dsimp only
  unfold compose draft
  rw [hsanitized]
  dsimp only
  rw [hread]
  dsimp only
  generalize hst : c.scanner.newContext _ = start
  obtain ⟨ctx, st⟩ := start
  have hctx : ctx.depth ≤ c.scanner.limits.maxDepth.value := by
    cases hst
    exact scanner_depth_nonneg hdepth
  have htime : c.scanner.InTime (c.read clock).1 (c.read clock).2
      → c.scanner.InTime ctx.startTime st.clock := by
    cases hst
    exact id
  rcases process_of_misses hctx hmiss st with ⟨hnone, htree⟩ | ⟨e, herror, hlate, hend⟩
  · rw [hnone, htree]
    exact .inl rfl
  · rw [herror]
    refine .inr ⟨e, ?_, hlate, fun h => hend (htime h)⟩
    obtain ⟨elapsed, -, rfl⟩ := hlate
    rfl

/-- 有効な規則がなければ、変換は `untouched` の文書を返す。失敗がほかにあるとすれば、時間のためである。 -/
theorem convert_of_no_rules {c : Converter τ} (hlone : c.lone = none)
    (hrules : c.scanner.rules = []) (hdepth : 0 ≤ c.limits.maxDepth.value) (html title : Json)
    (budget : Option Budget) (clock : τ) :
    (c.convert html title budget clock).outcome = untouched c.stylesheet html title ∨
      ∃ e, (c.convert html title budget clock).outcome = .error (.scan e) ∧
        c.scanner.Overdue e := by
  unfold untouched
  cases hrequest : readRequest html title with
  | error e =>
    unfold convert
    rw [hrequest]
    exact .inl rfl
  | ok request =>
    dsimp only
    cases hsanitize : sanitize request.html with
    | error e =>
      unfold convert compose draft
      rw [hrequest]
      dsimp only
      rw [hsanitize]
      exact .inl rfl
    | ok sanitized =>
      dsimp only
      cases hread : Markup.read sanitized with
      | error e =>
        unfold convert compose draft
        rw [hrequest]
        dsimp only
        rw [hsanitize]
        dsimp only
        rw [hread]
        exact .inl rfl
      | ok tree =>
        rcases convert_of_misses hrequest hsanitize hread hdepth
          (fun s _ => Scanner.misses_of_no_rules hrules s) budget clock with
          hsame | ⟨e, herror, hlate, -⟩
        · rw [hlone] at hsame
          exact .inl hsame
        · exact .inr ⟨e, herror, hlate⟩

/-- 規則を持つ登録簿は、そのまま使われる。 -/
theorem create_of_size_pos {r : Registry} (h : r.size ≠ 0) (limits : Option Limits)
    (stylesheet : String) (read : ReadClock τ) (lone : Option Surrogate.Block) (room : Option Nat) :
    create (some r) limits stylesheet read lone room
      = { registry := r, limits := limits.getD r.limits, stylesheet, read, lone, room } := by
  unfold create
  dsimp only
  rw [if_neg (by simpa using h)]

/--
**登録簿に無効な規則を加えても、変換の結果は変わらない。** ただし、元の登録簿は規則を持つとする。

有効な規則が一つもなければ、本文は字下げのほかは書かれたまま残る。規則を一つも持たない登録簿は使われず、
登録簿を渡さないのと同じになる。
-/
theorem convert_padded {groups : List RuleGroup} {own : Limits} {r r' : Registry}
    (hr : Registry.ofGroups groups own = .ok r) (hpad : r.Padded r') (limits : Option Limits)
    (stylesheet : String) (read : ReadClock τ) (lone : Option Surrogate.Block) (room : Option Nat) :
    (r.size ≠ 0 → ∀ html title budget clock,
      (create (some r') limits stylesheet read lone room).convert html title budget clock
        = (create (some r) limits stylesheet read lone room).convert html title budget clock) ∧
    (r.size = 0 → create (some r) limits stylesheet read lone room
      = create none limits stylesheet read lone room) ∧
    (r'.size ≠ 0 → (∀ rule ∈ r'.rules, rule.enabled = false) →
      0 ≤ (limits.getD r.limits).maxDepth.value → ∀ html title budget clock,
      ((create (some r') limits stylesheet read none room).convert html title budget clock).outcome
          = untouched stylesheet html title ∨
        ∃ elapsed, (limits.getD r.limits).timeout.value.lt elapsed = true ∧
          ((create (some r') limits stylesheet read none room).convert html title budget
              clock).outcome
            = .error (.scan (.timeout elapsed (limits.getD r.limits).timeout))) := by
  have hreachable := Registry.reachable_ofGroups hr
  obtain ⟨hlimits, hbudget⟩ := hpad.settings
  refine ⟨fun hsize html title budget clock => ?_, fun hsize => ?_,
    fun hsize hdisabled hdepth html title budget clock => ?_⟩
  · have hsize' : r'.size ≠ 0 := fun hzero =>
      hsize (Nat.le_zero.mp (hzero ▸ hpad.size_le))
    rw [create_of_size_pos hsize, create_of_size_pos hsize', hlimits]
    exact convert_congr
      { registry := r, limits := limits.getD r.limits, stylesheet, read, lone, room }
      (hpad.activeRules_eq hreachable) hbudget html title budget clock
  · unfold create
    dsimp only
    rw [if_pos (by simpa using hsize)]
  · rw [create_of_size_pos hsize, hlimits]
    have hrules : r'.activeRules = [] :=
      (hpad.reachable hreachable).ordered.activeRules_eq_nil hdisabled
    rcases convert_of_no_rules
      (c := { registry := r', limits := limits.getD r.limits, stylesheet, read, room }) rfl hrules
      hdepth html title budget clock with hsame | ⟨e, herror, elapsed, hlate, rfl⟩
    · exact .inl hsame
    · rw [scanner_timeout] at hlate herror
      exact .inr ⟨elapsed, hlate, herror⟩

/-- 規則を持たない組と、使わない規則を持つ組。 -/
def idleGroups : List RuleGroup :=
  [{ name := "empty", basePriority := .ofInt 1 },
    { name := "idle", basePriority := .ofInt 2, disabled := true
      patterns := [Registry.markDefinition "mark" "x" "?"] }]

/-- `idleGroups` の登録簿。 -/
def idle : Registry := (Registry.registerGroups idleGroups (.empty {})).2

theorem ofGroups_idleGroups : Registry.ofGroups idleGroups {} = .ok idle := by
  have hok : (Registry.registerGroups idleGroups (.empty {})).1.toOption.isSome := by decide +kernel
  unfold Registry.ofGroups idle
  generalize Registry.registerGroups idleGroups (.empty {}) = result at hok ⊢
  obtain ⟨e | rules, r⟩ := result
  · cases hok
  · rfl

/-- 使わない規則を `r` に加えたもの。 -/
def withSpare (r : Registry) : Registry :=
  match r.register (Registry.markDefinition "spare" "y" "!") (.int 1) (.int 0) (some false) with
  | .ok (_, r') => r'
  | .error _ => r

theorem padded_withSpare (r : Registry) : r.Padded (withSpare r) := by
  unfold withSpare
  split
  · next hreg => exact .register .refl hreg (Registry.register_ok hreg).1
  · exact .refl

/-- 使わない規則しかない登録簿に、使わない規則を加えて、`12` のある章を変換する。 -/
theorem convert_padded_idle :
    Registry.ofGroups idleGroups {} = .ok idle ∧ idle.Padded (withSpare idle) ∧
      ((create (some (withSpare idle)) none stylesheetName SteadyClock.read).convert
          (.str "<p>12</p>") .null none {}).outcome
        = ((create (some idle) none stylesheetName SteadyClock.read).convert
          (.str "<p>12</p>") .null none {}).outcome ∧
      ((create (some (withSpare idle)) none stylesheetName SteadyClock.read).convert
          (.str "<p>12</p>") .null none {}).outcome
        = untouched stylesheetName (.str "<p>12</p>") .null := by
  have hpadded := padded_withSpare idle
  have hsize : idle.size ≠ 0 := by decide +kernel
  have hsize' : (withSpare idle).size ≠ 0 := by decide +kernel
  have hdisabled : ∀ rule ∈ (withSpare idle).rules, rule.enabled = false := by decide +kernel
  have hok : ((create (some (withSpare idle)) none stylesheetName SteadyClock.read).convert
      (.str "<p>12</p>") .null none {}).outcome.toOption.isSome := by decide +kernel
  obtain ⟨hsame, -, hplain⟩ := convert_padded ofGroups_idleGroups hpadded none stylesheetName
    SteadyClock.read none none
  refine ⟨ofGroups_idleGroups, hpadded, ?_, ?_⟩
  · rw [hsame hsize]
  · rcases hplain hsize' hdisabled (by decide +kernel) (.str "<p>12</p>") .null none {} with
      hplain | ⟨elapsed, -, herror⟩
    · exact hplain
    · rw [herror] at hok
      cases hok

/-- 規則を一つも持たない登録簿は使われず、備え付けの規則で変換される。使わない規則を一つ加えると、文書が
変わる。 -/
theorem convert_padded_empty :
    Registry.ofGroups [] {} = .ok (.empty {}) ∧ (Registry.empty {}).Padded (withSpare (.empty {})) ∧
      ((create (some (withSpare (.empty {}))) none stylesheetName SteadyClock.read).convert
          (.str "<p>12</p>") .null none {}).outcome
        ≠ ((create (some (.empty {})) none stylesheetName SteadyClock.read).convert
          (.str "<p>12</p>") .null none {}).outcome := by
  refine ⟨rfl, padded_withSpare _, ?_⟩
  decide +kernel

end Converter

end Chapter

end Tategaki
