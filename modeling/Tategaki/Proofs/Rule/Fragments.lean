import Mathlib.Data.List.Basic
import Tategaki.Proofs.Regex.Join
import Tategaki.Rule.Registry

/-!
# 式の三つの部分

規則の式は、後ろを見る部分、本体、前を見る部分を、そのまま文字列としてつないだものである。三つの部分が互いに関わらなければ
（`MatchExpression.IsSeparable`）、規則が合ったところの始まりで後ろを見る部分が、終わりで前を見る部分が成り立ち、本体は
ちょうどその間に合う（`Rule.matchAt_separable`）。

部分どうしが関わることはある。本体の一番外側の選択は前後の部分にも及び、`a|b` の後の選択肢は、後ろを見る部分なしで合う
（`Rule.matchAt_branching`）。
-/

namespace Tategaki

namespace MatchExpression

/-- 部分だけの式。指定は同じである。 -/
def part (e : MatchExpression) (source : Text) : MatchExpression := { source, flags := e.flags }

/-- 式の解釈が終われば、指定は読めていて、つないだ文字列は正規表現として読めている。 -/
theorem compile_ok {e : MatchExpression} {name : Option String} {p : Regex.Pattern}
    (h : e.compile name = .ok p) :
    ∃ flags, readFlags e.flags.toList {} = .ok flags ∧
      Regex.compile e.fullSource flags = .ok p := by
  unfold compile at h
  dsimp only at h
  split at h
  · cases h
  · split at h
    · cases h
    · next flags hflags =>
      split at h
      · next pattern hcompile =>
        cases h
        exact ⟨flags, hflags, hcompile⟩
      · cases h
      · cases h
      · cases h

@[simp] theorem fullSource_part (e : MatchExpression) (source : Text) :
    (e.part source).fullSource = source := by
  simp [fullSource, part]

/-- 照合の指定で、注釈を許す書き方になることはない。 -/
theorem verbose_of_readFlags : ∀ {cs : List Char} {flags flags' : Regex.Flags},
    readFlags cs flags = .ok flags' → flags'.verbose = flags.verbose
  | [], _, _, h => by cases h; rfl
  | c :: cs, flags, flags', h => by
    unfold readFlags at h
    split at h
    · exact verbose_of_readFlags h
    · split at h
      · exact (verbose_of_readFlags h).trans rfl
      · split at h
        · exact (verbose_of_readFlags h).trans rfl
        · split at h
          · exact (verbose_of_readFlags h).trans rfl
          · cases h

/-- 三つの部分が互いに関わらない。どの部分も、一番外側に選択がなく、式全体に掛かる指定を変えない。後ろを見る部分
`before` と前を見る部分 `after` は、位置の条件だけからなり、組を持たない。 -/
structure IsSeparable (e : MatchExpression) (before after : Regex.Pattern) : Prop where
  fragments : ∀ flags, readFlags e.flags.toList {} = .ok flags →
    Regex.isFragment (e.lookbehind.getD []) flags = true ∧
      Regex.isFragment e.source flags = true ∧
      Regex.isFragment (e.lookahead.getD []) flags = true
  before : before.IsGuard
  after : after.IsGuard

end MatchExpression

namespace Rule

variable {e : MatchExpression} {name : Option String} {before body after : Regex.Pattern} {r : Rule}

/-- **三つの部分が互いに関わらなければ、規則が合ったところの始まりで後ろを見る部分が、終わりで前を見る部分が成り立ち、
本体はちょうどその間に合う。** -/
theorem matchAt_separable (hr : e.compile name = .ok r.pattern)
    (hbefore : (e.part (e.lookbehind.getD [])).compile name = .ok before)
    (hbody : (e.part e.source).compile name = .ok body)
    (hafter : (e.part (e.lookahead.getD [])).compile name = .ok after)
    (h : e.IsSeparable before after) (text : Text) (position : Nat) {found : Regex.Match}
    (hfound : r.matchAt text.toArray position = some found) :
    before.holdsAt text.toArray found.start = true ∧
      after.holdsAt text.toArray found.stop = true ∧
      body.fills text.toArray found.start found.stop = true := by
  obtain ⟨flags, hflags, hjoined⟩ := MatchExpression.compile_ok hr
  have hpart : ∀ {source : Text} {p : Regex.Pattern}, (e.part source).compile name = .ok p →
      Regex.compile source flags = .ok p := by
    intro source p hp
    obtain ⟨flags', hflags', hcompile⟩ := MatchExpression.compile_ok hp
    cases hflags.symm.trans hflags'
    rwa [MatchExpression.fullSource_part] at hcompile
  obtain ⟨hx, hy, hz⟩ := h.fragments flags hflags
  exact Regex.matchAt_joined (MatchExpression.verbose_of_readFlags hflags) hx (hpart hbefore) hy
    (hpart hbody) hz (hpart hafter) hjoined h.before h.after (pattern_matchAt hfound).1

/-- `x` の後で `y` の前にある `source`。 -/
def between (source : String) : MatchExpression where
  source := source.toList
  lookbehind := some "(?<=x)".toList
  lookahead := some "(?=y)".toList

/-- 直前が `x` であること。 -/
def afterX : Regex.Pattern := ⟨.lookBehind false 1 1 (.test (.one false 0x78 .exact)), 0⟩

/-- 直後が `y` であること。 -/
def beforeY : Regex.Pattern := ⟨.lookAhead false (.test (.one false 0x79 .exact)), 0⟩

/-- `a` か `b` の続き。 -/
def lettersAB : Regex.Pattern :=
  ⟨.loop true 1 none (.group 1 (.test (.set false [.one 0x61, .one 0x62] .exact))), 1⟩

/-- 式が `between source` で、解釈した式が `pattern` の規則。 -/
def ofBetween (source : String) (pattern : Regex.Pattern) : Rule where
  name := "between"
  priority := orderEpsilon
  sequence := 0
  pattern
  definition := { name := "between", expression := between source, output := .text }
  enabled := true

/-- 選択が組の中にあれば、前後の部分はどの選択肢にも掛かる。 -/
theorem matchAt_separable_letters :
    ∃ (r : Rule) (found : Regex.Match), (between "(a|b)+").compile none = .ok r.pattern ∧
      (between "(a|b)+").IsSeparable afterX beforeY ∧
      r.matchAt "xaby".toList.toArray 1 = some found ∧ found.start = 1 ∧ found.stop = 3 ∧
      afterX.holdsAt "xaby".toList.toArray found.start = true ∧
      beforeY.holdsAt "xaby".toList.toArray found.stop = true ∧
      lettersAB.fills "xaby".toList.toArray found.start found.stop = true := by
  have hseparable : (between "(a|b)+").IsSeparable afterX beforeY := by
    refine ⟨fun flags hflags => ?_, ⟨rfl, rfl, rfl, rfl⟩, ⟨rfl, rfl, rfl, rfl⟩⟩
    cases hflags
    decide +kernel
  let r := ofBetween "(a|b)+"
    ⟨.seq afterX.expr (.seq lettersAB.expr beforeY.expr), 1⟩
  have hr : (between "(a|b)+").compile none = .ok r.pattern := by decide +kernel
  have hfound : r.matchAt "xaby".toList.toArray 1 = some ⟨1, 3, [some (2, 3)]⟩ := by
    decide +kernel
  exact ⟨r, _, hr, hseparable, hfound, rfl, rfl,
    matchAt_separable hr (by decide +kernel) (by decide +kernel) (by decide +kernel) hseparable
      "xaby".toList 1 hfound⟩

/-- 本体の一番外側の選択は前後の部分にも及び、後の選択肢は、後ろを見る部分なしで合う。 -/
theorem matchAt_branching :
    ∃ (r : Rule) (body : Regex.Pattern) (found : Regex.Match),
      (between "a|b").compile none = .ok r.pattern ∧
      ((between "a|b").part "(?<=x)".toList).compile none = .ok afterX ∧
      ((between "a|b").part "a|b".toList).compile none = .ok body ∧
      ((between "a|b").part "(?=y)".toList).compile none = .ok beforeY ∧
      afterX.expr.isAssertion = true ∧ beforeY.expr.isAssertion = true ∧
      r.matchAt "by".toList.toArray 0 = some found ∧
      afterX.holdsAt "by".toList.toArray found.start = false := by
  let a : Regex.Expr := .test (.one false 0x61 .exact)
  let b : Regex.Expr := .test (.one false 0x62 .exact)
  let r := ofBetween "a|b" ⟨.alt (.seq afterX.expr a) (.seq b beforeY.expr), 0⟩
  refine ⟨r, ⟨.test (.set false [.one 0x61, .one 0x62] .exact), 0⟩, ⟨0, 1, []⟩, ?_⟩
  decide +kernel

end Rule

end Tategaki
