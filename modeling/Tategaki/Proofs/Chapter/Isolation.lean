import Tategaki.Proofs.Chapter.Sharing
import Tategaki.Rule.Load

/-!
# 章どうしの独立

何章もまとめて変換したとき、各章の結果は、ほかの章が何であっても、どう失敗しても、その章だけを変換したものと
同じである（`convertChapters_isolated`）。ただし、章として報告できない失敗が一つでもあれば、まとめた変換の
全体が止まる。

それが起こるのは、書き上げた文書に、対にならない代用符号があるときに限る（`HoldsLone`）。章の文字列は代用符号を
持たないので、それを書くのは規則である。そのような規則が一つの章で使われると、ほかの章の結果も道連れになる
（`convertChapters_surrogate`）。
-/

namespace Tategaki.Chapter

open Markup Scanner Surrogate

/-! ## 検め -/

/-- 検めが報告できない失敗に終わるのは、文書に代用符号位置があるときである。 -/
theorem verify_eq_unencodable_iff {block : Option Block} {document : Text} {run : LoneRun} :
    verify block document = .error (.unencodable run)
      ↔ block.bind (fun b => b.firstRun? 0 document) = some run := by
  unfold verify
  split
  · next hrun => simp [hrun]
  · next hrun =>
    rw [hrun]
    split <;> simp

/-- 章として報告できない失敗は、符号化できないことだけである。 -/
theorem ConvertError.isReported_eq_false_iff {e : ConvertError} :
    e.isReported = false ↔ ∃ run, e = .unencodable run := by
  cases e <;> simp [isReported]

/-- 報告できない失敗のうち最初のものがないのは、どの失敗も報告できるときである。 -/
theorem firstUnreported?_eq_none_iff {outcomes : List (Except ConvertError Text)} :
    firstUnreported? outcomes = none ↔ ∀ e, .error e ∈ outcomes → e.isReported = true := by
  unfold firstUnreported?
  rw [List.findSome?_eq_none_iff]
  constructor
  · intro h e he
    cases e with
    | unencodable run => exact absurd (h _ he) (by simp)
    | _ => rfl
  · intro h outcome houtcome
    split
    · next run => exact absurd (h _ houtcome) (by simp [ConvertError.isReported])
    · rfl

namespace Converter

variable {τ : Type} {c : Converter τ} {now : Number}

/-- 文書ができるまでの失敗は、報告できる。 -/
theorem isReported_of_draft {ctx : Context} {request : Request} {st : ScanState τ}
    {e : ConvertError} (h : (c.draft ctx request st).1 = .error e) : e.isReported = true := by
  unfold draft at h
  split at h
  · cases h
    rfl
  · split at h
    · cases h
      rfl
    · dsimp only at h
      split at h
      · cases h
        unfold stopped
        split <;> rfl
      · cases h

theorem isReported_of_readRequest {html title : Json} {e : ConvertError}
    (h : readRequest html title = .error e) : e.isReported = true := by
  unfold readRequest at h
  split at h
  · split at h
    · cases h
      rfl
    · dsimp only at h
      split at h
      · cases h
      · cases h
      · cases h
        rfl
  · cases h
    rfl

/-! ## 章だけの変換 -/

/-- その章だけを、新しい枠で変換した結果。 -/
def outcomeOf (c : Converter τ) (clock : τ) (chapter : Json × Json) : Except ConvertError Text :=
  (c.convert chapter.1 chapter.2 none clock).outcome

/-- その章だけを新しい枠で変換したときの、検める前の文書。 -/
def draftOf (c : Converter τ) (clock : τ) (chapter : Json × Json) : Except ConvertError Text :=
  match readRequest chapter.1 chapter.2 with
  | .error e => .error e
  | .ok request =>
    let start : ScanState τ := { own := some c.newBudget, shared := c.registry.budget, clock }
    let (ctx, st) := c.scanner.newContext start
    (c.draft ctx request st).1

/-- 変換の結果は、文書を検めたものである。 -/
theorem outcomeOf_eq (clock : τ) (chapter : Json × Json) :
    c.outcomeOf clock chapter = (c.draftOf clock chapter).bind (verify c.lone) := by
  unfold outcomeOf convert draftOf
  rw [Option.getD_none]
  cases readRequest chapter.1 chapter.2 <;> rfl

theorem isReported_of_draftOf {clock : τ} {chapter : Json × Json} {e : ConvertError}
    (h : c.draftOf clock chapter = .error e) : e.isReported = true := by
  unfold draftOf at h
  split at h
  · next hrequest =>
    cases h
    exact isReported_of_readRequest hrequest
  · exact isReported_of_draft h

/-- 章の文書に、対にならない代用符号がある。 -/
def HoldsLone (c : Converter τ) (clock : τ) (chapter : Json × Json) : Prop :=
  ∃ block ∈ c.lone, ∃ document, c.draftOf clock chapter = .ok document ∧
    document.any block.contains = true

/-- **章の変換が報告できない失敗に終わるのは、その文書に対にならない代用符号があるときである。** -/
theorem holdsLone_iff {clock : τ} {chapter : Json × Json} :
    c.HoldsLone clock chapter
      ↔ ∃ e, c.outcomeOf clock chapter = .error e ∧ e.isReported = false := by
  rw [outcomeOf_eq]
  constructor
  · rintro ⟨block, hblock, document, hdraft, hany⟩
    obtain ⟨run, hrun⟩ : ∃ run, block.firstRun? 0 document = some run := by
      refine Option.ne_none_iff_exists'.mp fun hnone => ?_
      rw [Block.firstRun?_eq_none_iff, hany] at hnone
      cases hnone
    refine ⟨.unencodable run, ?_, rfl⟩
    rw [hdraft, Option.mem_def.mp hblock]
    exact verify_eq_unencodable_iff.mpr hrun
  · rintro ⟨e, he, hreported⟩
    cases hdraft : c.draftOf clock chapter with
    | error e' =>
      rw [hdraft] at he
      cases he
      rw [isReported_of_draftOf hdraft] at hreported
      cases hreported
    | ok document =>
      obtain ⟨run, rfl⟩ := ConvertError.isReported_eq_false_iff.mp hreported
      rw [hdraft] at he
      obtain ⟨block, hblock, hrun⟩ := Option.bind_eq_some_iff.mp (verify_eq_unencodable_iff.mp he)
      refine ⟨block, hblock, document, hdraft, Bool.of_not_eq_false fun hnone => ?_⟩
      rw [Block.firstRun?_eq_none_iff.mpr hnone] at hrun
      cases hrun

/-- 報告できない失敗がないのは、どの章の文書にも対にならない代用符号がないときである。 -/
theorem firstUnreported?_outcomes_eq_none_iff {clock : τ} {chapters : List (Json × Json)} :
    firstUnreported? (chapters.map (c.outcomeOf clock)) = none
      ↔ ∀ chapter ∈ chapters, ¬ c.HoldsLone clock chapter := by
  rw [firstUnreported?_eq_none_iff]
  constructor
  · intro h chapter hchapter hlone
    obtain ⟨e, he, hreported⟩ := holdsLone_iff.mp hlone
    rw [h e (List.mem_map.mpr ⟨chapter, hchapter, he⟩)] at hreported
    cases hreported
  · intro h e he
    obtain ⟨chapter, hchapter, houtcome⟩ := List.mem_map.mp he
    exact Bool.of_not_eq_false fun hreported =>
      h chapter hchapter (holdsLone_iff.mpr ⟨e, houtcome, hreported⟩)

/-- 止まった時計では、いつ変換しても結果は同じで、時計は止まったままである。 -/
theorem outcomeOf_still {clock clock' : τ} (hstill : Still c.read now clock)
    (hstill' : Still c.read now clock') (chapter : Json × Json) :
    c.outcomeOf clock' chapter = c.outcomeOf clock chapter ∧
      Still c.read now (c.convert chapter.1 chapter.2 none clock).clock := by
  have hmatch := Budget.Matches.refl c.newBudget
  obtain ⟨n, -, -, -, hclock⟩ := convert_charges hmatch chapter.1 chapter.2 hstill hstill'
  exact ⟨(convert_level hmatch chapter.1 chapter.2 hstill hstill').1.eq_of_ceiling rfl, hclock⟩

/-- 章を順に変換した結果は、章だけの結果の並びである。 -/
theorem convertEach_outcomes {fresh : τ} (hfresh : Still c.read now fresh)
    (chapters : List (Json × Json)) : ∀ {clock : τ}, Still c.read now clock →
      (c.convertEach chapters clock).map (·.outcome) = chapters.map (c.outcomeOf fresh) := by
  induction chapters with
  | nil => exact fun _ => rfl
  | cons chapter rest ih =>
    intro clock hstill
    obtain ⟨houtcome, -⟩ := outcomeOf_still hfresh hstill chapter
    obtain ⟨-, hclock⟩ := outcomeOf_still hstill hfresh chapter
    rw [convertEach, List.map_cons, List.map_cons, ih hclock]
    exact congrArg (· :: _) houtcome

/-! ## まとめた変換 -/

/-- 結果は章の順に並び、番号と渡した題名を添え、章だけを変換した結果を持ち、失敗はどれも報告できる。 -/
structure Isolated (c : Converter τ) (clock : τ) (chapters : List (Json × Json))
    (results : List ChapterResult) : Prop where
  length : results.length = chapters.length
  result : ∀ i html title, chapters[i]? = some (html, title) →
    results[i]? = some (⟨i, title, (c.convert html title none clock).outcome⟩ : ChapterResult)
  reported : ∀ result ∈ results, ∀ e, result.outcome = .error e → e.isReported = true

/-- 章だけの結果を並べたもの。 -/
def resultsOf (c : Converter τ) (clock : τ) (chapters : List (Json × Json)) :
    List ChapterResult :=
  chapters.zipIdx.map fun (chapter, i) => ⟨i, chapter.2, c.outcomeOf clock chapter⟩

theorem isolated_resultsOf {clock : τ} {chapters : List (Json × Json)}
    (h : firstUnreported? (chapters.map (c.outcomeOf clock)) = none) :
    Isolated c clock chapters (c.resultsOf clock chapters) where
  length := by rw [resultsOf, List.length_map, List.length_zipIdx]
  result i html title hi := by
    rw [resultsOf, List.getElem?_map, List.getElem?_zipIdx, hi, Option.map_some, Option.map_some,
      Nat.zero_add]
    rfl
  reported := by
    intro result hresult e he
    obtain ⟨⟨chapter, i⟩, hchapter, rfl⟩ := List.mem_map.mp hresult
    refine firstUnreported?_eq_none_iff.mp h e (List.mem_map.mpr ⟨chapter, ?_, he⟩)
    exact List.fst_mem_of_mem_zipIdx hchapter

/-- まとめた変換は、章だけの結果のうちに報告できないものがあれば止まり、なければ章だけの結果を並べる。 -/
theorem convertChapters_eq {workers : Option Int} (hworkers : ∀ n ∈ workers, 1 ≤ n)
    (chapters : List (Json × Json)) {clock : τ} (hstill : Still c.read now clock) :
    c.convertChapters workers chapters clock =
      match firstUnreported? (chapters.map (c.outcomeOf clock)) with
      | some run => .error (.unencodable run)
      | none => .ok (c.resultsOf clock chapters) := by
  have hany : workers.any (· < 1) = false := by
    cases workers with
    | none => rfl
    | some n => exact decide_eq_false (not_lt.mpr (hworkers n rfl))
  unfold convertChapters collect
  rw [hany, if_neg Bool.false_ne_true, convertEach_outcomes hstill chapters hstill, List.zip_map',
    List.zipIdx_map, List.map_map]
  rfl

/--
**まとめて変換した各章の結果は、その章だけを変換したものである。**

まとめた変換が終わるのは、どの章の文書にも対にならない代用符号がないときである。代用符号を持つ規則がなければ、
いつもそうである。あるときは、代用符号のある最初の章の失敗を伝えて、全体が止まる。
-/
theorem convertChapters_isolated (c : Converter τ) {workers : Option Int}
    (hworkers : ∀ n ∈ workers, 1 ≤ n) (chapters : List (Json × Json)) {clock : τ}
    (hstill : Still c.read now clock) :
    ((∃ results, c.convertChapters workers chapters clock = .ok results) ↔
      ∀ chapter ∈ chapters, ¬ c.HoldsLone clock chapter) ∧
    (c.lone = none → ∃ results, c.convertChapters workers chapters clock = .ok results) ∧
    (∀ results, c.convertChapters workers chapters clock = .ok results →
      Isolated c clock chapters results) ∧
    ∀ e, c.convertChapters workers chapters clock = .error e ↔ ∃ run, e = .unencodable run ∧
      firstUnreported? (chapters.map (c.outcomeOf clock)) = some run := by
  have hreturns : (∃ results, c.convertChapters workers chapters clock = .ok results)
      ↔ ∀ chapter ∈ chapters, ¬ c.HoldsLone clock chapter := by
    rw [← firstUnreported?_outcomes_eq_none_iff, convertChapters_eq hworkers chapters hstill]
    cases firstUnreported? (chapters.map (c.outcomeOf clock)) with
    | none => exact ⟨fun _ => rfl, fun _ => ⟨_, rfl⟩⟩
    | some run => exact ⟨fun ⟨_, h⟩ => (by cases h), fun h => (by cases h)⟩
  refine ⟨hreturns, fun hlone => hreturns.mpr ?_, ?_⟩
  · rintro chapter - ⟨block, hblock, -⟩
    rw [hlone] at hblock
    cases hblock
  · rw [convertChapters_eq hworkers chapters hstill]
    cases hfirst : firstUnreported? (chapters.map (c.outcomeOf clock)) with
    | none =>
      refine ⟨fun results h => ?_, fun e => ⟨fun h => (by cases h), ?_⟩⟩
      · cases h
        exact isolated_resultsOf hfirst
      · rintro ⟨run, -, h⟩
        cases h
    | some run =>
      refine ⟨fun results h => (by cases h), fun e => ⟨fun h => ?_, ?_⟩⟩
      · cases h
        exact ⟨run, rfl, rfl⟩
      · rintro ⟨_, rfl, h⟩
        cases h
        rfl

/-- 参照で書かれた章のほかに、枠に断られる章、題名の誤った章、題名に使えない文字のある章、読めない章、空の章が
ある。 -/
def mixedChapters : List (Json × Json) :=
  [(.str "<p>&#x7B2C;&#49;&amp;&nbsp;&#12289;</p>", .null), (.str "<p>1と2と3</p>", .str "二"),
    (.str "<p>3</p>", .bool true), (.str "<p>四</p>", .str "\uFFFE"),
    (.str "<p><![五[六]]></p>", .null), (.null, .str "七"), (.str "<p>8</p>", .str "終")]

/-- 規則を二回まで使える、備え付けの規則の変換器。 -/
def bundledTwice : Converter SteadyClock :=
  { bundled with limits := { maxIterations := .number 2 } }

/-- 五つの章が別々の失敗に終わっても、残りの二章は文書になる。 -/
theorem convertChapters_isolated_mixed :
    (∀ n ∈ some 3, (1 : Int) ≤ n) ∧ Still SteadyClock.read (.int 0) {} ∧
      (mixedChapters.map (bundledTwice.outcomeOf {})).map
          (fun | .ok _ => none | .error e => some e.kindName)
        = [none, some "RewriteBudgetExceededError", some "ValidationError",
            some "GenerationError", some "GenerationError", some "ValidationError", none] ∧
      ∃ results, bundledTwice.convertChapters (some 3) mixedChapters {} = .ok results ∧
        Isolated bundledTwice {} mixedChapters results := by
  have hworkers : ∀ n ∈ some 3, (1 : Int) ≤ n := by
    intro n hn
    cases hn
    decide
  have hstill : Still SteadyClock.read (.int 0) {} := still_of_fixed (SteadyClock.read_still 0)
  obtain ⟨-, hreturns, hisolated, -⟩ :=
    convertChapters_isolated bundledTwice hworkers mixedChapters hstill
  obtain ⟨results, hresults⟩ := hreturns rfl
  exact ⟨hworkers, hstill, by decide +kernel, results, hresults, hisolated results hresults⟩

/-- 文字 `x` の前に、対にならない代用符号を書く規則の文。 -/
def surrogateRules : Text :=
  ("\x7b\"basePriority\":1,\"patterns\":[\x7b\"name\":\"mark\","
    ++ "\"pattern\":\x7b\"source\":\"x\"\x7d,\"transform\":\x7b\"type\":\"text\","
    ++ "\"steps\":[\x7b\"action\":\"wrap\","
    ++ "\"prefix\":\"\\ud800\",\"suffix\":\"\"\x7d]\x7d\x7d]\x7d").toList

/-- `surrogateRules` の規則を持つ変換器。 -/
def surrogateConverter : Converter SteadyClock :=
  let group := (RuleGroup.ofText .first surrogateRules "marks" false).1
  .create (group.toOption.map fun g => (Registry.registerGroups [g] (.empty {})).2) none
    stylesheetName SteadyClock.read (some .first)

/-- 規則は一章目に合い、二章目には合わない。 -/
def surrogateChapters : List (Json × Json) :=
  [(.str "<p>x</p>", .str "a"), (.str "<p>y</p>", .str "b")]

/-- 一章目で規則が代用符号を書くと、二章目だけなら文書になるのに、まとめた変換は結果を一つも返さない。 -/
theorem convertChapters_surrogate :
    Still SteadyClock.read (.int 0) {} ∧
      surrogateConverter.registry.rules.map (·.definition.steps)
        = [[.wrap [Block.first.standIn 0xD800] []]] ∧
      (surrogateConverter.outcomeOf {} (.str "<p>y</p>", .str "b")).toOption.isSome = true ∧
      surrogateConverter.convertChapters (some 2) surrogateChapters {}
        = .error (.unencodable ⟨0xD800, 310, 311⟩) ∧
      ¬ ∃ results, surrogateConverter.convertChapters (some 2) surrogateChapters {}
        = .ok results := by
  have hstill : Still SteadyClock.read (.int 0) {} := still_of_fixed (SteadyClock.read_still 0)
  have hfirst : firstUnreported? (surrogateChapters.map (surrogateConverter.outcomeOf {}))
      = some ⟨0xD800, 310, 311⟩ := by decide +kernel
  have hstops : surrogateConverter.convertChapters (some 2) surrogateChapters {}
      = .error (.unencodable ⟨0xD800, 310, 311⟩) := by
    rw [convertChapters_eq (by intro n hn; cases hn; decide) surrogateChapters hstill, hfirst]
  refine ⟨hstill, by decide +kernel, by decide +kernel, hstops, ?_⟩
  rintro ⟨results, hresults⟩
  rw [hstops] at hresults
  cases hresults

end Converter

end Tategaki.Chapter
