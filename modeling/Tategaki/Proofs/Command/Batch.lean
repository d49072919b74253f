import Tategaki.Command.Batch
import Tategaki.Proofs.Chapter.Isolation
import Tategaki.Proofs.Files.Tree

/-!
# ディレクトリごとの変換の結果

章のファイルを、それだけで読んで変換した結果（`fileOutcome`）を考える。どの失敗も利用者に示せるものなら、命令は
最後まで進み、変換できた章の文書を書き、できなかった章を示す（`runBatch_written`）。示せない失敗、すなわち読めない
ファイルか、規則が代用符号を書いた章があれば、命令は何も書かずに止まる（`runBatch_crashes`）。
-/

namespace Tategaki.Command

open Chapter Scanner Surrogate

variable {τ : Type} {w : World τ} {s : BatchSettings} {c : Converter τ} {output : FilePath}
  {paths : List FilePath} {now : Number}

/-! ## 命令の始まり -/

/-- 入力のディレクトリに章のファイルがあり、書き出す場所が分かり、変換器が用意できている。 -/
structure Starts (w : World τ) (s : BatchSettings) (c : Converter τ) (output : FilePath)
    (paths : List FilePath) : Prop where
  input : ∃ input, w.expand? s.input = some input ∧ w.files.isDirectoryAt input = true ∧
    chapterFiles w.files input = paths ∧ batchOutput? w s input = some output
  chapters : paths ≠ []
  jobs : s.jobs.any (· < 1) = false
  engine : (readyEngine w s.engine).outcome = .ok c

/-- 章のファイルを読む前までの記録を前に加えた報告。 -/
theorem Starts.runBatch_eq (h : Starts w s c output paths) :
    runBatch w s = Report.after
      (match readChapters w.files paths with
      | .error e => w.fail (.file e)
      | .ok texts => convertAll w s c output paths texts)
      (readyEngine w s.engine).log (readyEngine w s.engine).warnings := by
  obtain ⟨input, hinput, hdir, hpaths, houtput⟩ := h.input
  have hnonempty : paths.isEmpty = false := by simpa using h.chapters
  unfold runBatch
  rw [hinput]
  dsimp only
  rw [hdir, Bool.not_true, if_neg Bool.false_ne_true, hpaths, hnonempty,
    if_neg Bool.false_ne_true, houtput]
  dsimp only
  rw [h.jobs, if_neg Bool.false_ne_true, convertFiles]
  have hengine := h.engine
  generalize (readyEngine w s.engine).outcome = outcome at hengine ⊢
  subst hengine
  rfl

@[simp] theorem Report.after_ending (r : Report) (log : List Text) (warnings : List String) :
    (r.after log warnings).ending = r.ending := rfl

theorem Report.mem_log_after {r : Report} {line : Text} (log : List Text) (warnings : List String)
    (h : line ∈ r.log) : line ∈ (r.after log warnings).log := List.mem_append_right log h

/-! ## 章だけの結果 -/

/-- 章のファイルの依頼。題名はファイルの語幹である。 -/
def chapterOf (path : FilePath) (text : Text) : Json × Json :=
  (.str (String.ofList text), .str path.stem)

/-- 章のファイルを、それだけで読んで変換した結果。 -/
def fileOutcome (w : World τ) (c : Converter τ) (path : FilePath) : Except Fault Text :=
  match readChapter w.files path with
  | .error e => .error (.file e)
  | .ok text => (c.outcomeOf w.clock (chapterOf path text)).mapError .chapter

/-- どの章の失敗も、利用者に示せる。 -/
def AllReported (w : World τ) (c : Converter τ) (paths : List FilePath) : Prop :=
  ∀ path ∈ paths, ∀ e, fileOutcome w c path = .error e → e.isReported = true

/-- 文書のファイルの名前。 -/
def documentName (path : FilePath) : String := path.stem ++ ".xhtml"

/-- 変換できた章の、文書の名前と中身。 -/
def converted (w : World τ) (c : Converter τ) (paths : List FilePath) : List (String × Text) :=
  paths.filterMap fun path =>
    match fileOutcome w c path with
    | .ok document => some (documentName path, document)
    | .error _ => none

/-- 変換できなかった章の、題名と失敗。 -/
def failed (w : World τ) (c : Converter τ) (paths : List FilePath) : List (Text × ConvertError) :=
  paths.filterMap fun path =>
    match fileOutcome w c path with
    | .error (.chapter e) => some (path.stem.toList, e)
    | _ => none

section Cons

variable {path : FilePath} {rest : List FilePath}

theorem converted_of_ok {document : Text} (h : fileOutcome w c path = .ok document) :
    converted w c (path :: rest) = (documentName path, document) :: converted w c rest := by
  simp [converted, h]

theorem converted_of_error {e : Fault} (h : fileOutcome w c path = .error e) :
    converted w c (path :: rest) = converted w c rest := by
  simp [converted, h]

theorem failed_of_ok {document : Text} (h : fileOutcome w c path = .ok document) :
    failed w c (path :: rest) = failed w c rest := by
  simp [failed, h]

theorem failed_of_error {e : ConvertError} (h : fileOutcome w c path = .error (.chapter e)) :
    failed w c (path :: rest) = (path.stem.toList, e) :: failed w c rest := by
  simp [failed, h]

end Cons

theorem mem_converted {name : String} {document : Text} :
    (name, document) ∈ converted w c paths ↔
      ∃ path ∈ paths, documentName path = name ∧ fileOutcome w c path = .ok document := by
  unfold converted
  rw [List.mem_filterMap]
  constructor
  · rintro ⟨path, hpath, h⟩
    split at h
    · next d hd =>
      cases h
      exact ⟨path, hpath, rfl, hd⟩
    · cases h
  · rintro ⟨path, hpath, rfl, hd⟩
    exact ⟨path, hpath, by rw [hd]⟩

theorem mem_failed {path : FilePath} {e : ConvertError} (hpath : path ∈ paths)
    (h : fileOutcome w c path = .error (.chapter e)) :
    (path.stem.toList, e) ∈ failed w c paths :=
  List.mem_filterMap.mpr ⟨path, hpath, by rw [h]⟩

/-- 示せる失敗は、変換の失敗である。 -/
theorem exists_chapter_of_isReported {path : FilePath} {e : Fault}
    (h : fileOutcome w c path = .error e) (hreported : e.isReported = true) :
    ∃ e', e = .chapter e' := by
  unfold fileOutcome at h
  split at h
  · cases h
    cases hreported
  · cases houtcome : c.outcomeOf w.clock (chapterOf path _) with
    | ok document =>
      rw [houtcome] at h
      cases h
    | error e' =>
      rw [houtcome] at h
      cases h
      exact ⟨e', rfl⟩

/-! ## 読む -/

/-- 章のファイルは、すべて読めるか、そうでなければ最初に読めないファイルの失敗になる。 -/
theorem readChapters_cases (files : FileTree) : ∀ paths : List FilePath,
    (∃ texts, readChapters files paths = .ok texts ∧
      List.Forall₂ (fun path text => readChapter files path = .ok text) paths texts) ∨
    ∃ e, readChapters files paths = .error e ∧ ∃ path ∈ paths, readChapter files path = .error e
  | [] => .inl ⟨[], rfl, .nil⟩
  | path :: rest => by
    rw [readChapters]
    cases hread : readChapter files path with
    | error e => exact .inr ⟨e, rfl, path, List.mem_cons_self, hread⟩
    | ok text =>
      rcases readChapters_cases files rest with ⟨texts, hrest, hall⟩ | ⟨e, hrest, bad, hbad, he⟩
      · exact .inl ⟨text :: texts, by rw [hrest]; rfl, .cons hread hall⟩
      · exact .inr ⟨e, by rw [hrest]; rfl, bad, List.mem_cons_of_mem path hbad, he⟩

/-- ファイルごとの結果が、変換の結果の並びになっている。 -/
def Outcomes (w : World τ) (c : Converter τ) (paths : List FilePath)
    (outcomes : List (Except ConvertError Text)) : Prop :=
  List.Forall₂ (fun path outcome => fileOutcome w c path = outcome.mapError .chapter) paths outcomes

/-- 読めた章を順に変換した結果は、ファイルごとの結果の並びである。 -/
theorem outcomes_of_read {texts : List Text}
    (h : List.Forall₂ (fun path text => readChapter w.files path = .ok text) paths texts) :
    Outcomes w c paths (((texts.map fun text => Json.str (String.ofList text)).zip
      (paths.map fun path => Json.str path.stem)).map (c.outcomeOf w.clock)) := by
  induction h with
  | nil => exact .nil
  | cons hread _ ih =>
    refine .cons ?_ ih
    unfold fileOutcome
    rw [hread]
    rfl

namespace Outcomes

variable {outcomes : List (Except ConvertError Text)}

/-- どの結果も、あるファイルの結果である。 -/
theorem exists_path (h : Outcomes w c paths outcomes) : ∀ outcome ∈ outcomes,
    ∃ path ∈ paths, fileOutcome w c path = outcome.mapError .chapter := by
  induction h with
  | nil => simp
  | @cons path outcome _ _ hfirst _ ih =>
    intro x hx
    rcases List.mem_cons.mp hx with rfl | hx
    · exact ⟨path, List.mem_cons_self, hfirst⟩
    · obtain ⟨other, hother, heq⟩ := ih x hx
      exact ⟨other, List.mem_cons_of_mem path hother, heq⟩

/-- どのファイルの結果も、並びの中にある。 -/
theorem exists_outcome (h : Outcomes w c paths outcomes) : ∀ path ∈ paths,
    ∃ outcome ∈ outcomes, fileOutcome w c path = outcome.mapError .chapter := by
  induction h with
  | nil => simp
  | @cons path outcome _ _ hfirst _ ih =>
    intro x hx
    rcases List.mem_cons.mp hx with rfl | hx
    · exact ⟨outcome, List.mem_cons_self, hfirst⟩
    · obtain ⟨other, hother, heq⟩ := ih x hx
      exact ⟨other, List.mem_cons_of_mem outcome hother, heq⟩

/-- まとめが失敗しないのは、どの章の失敗も示せるときである。 -/
theorem firstUnreported?_eq_none_iff (h : Outcomes w c paths outcomes) :
    firstUnreported? outcomes = none ↔ AllReported w c paths := by
  rw [Chapter.firstUnreported?_eq_none_iff]
  constructor
  · intro hall path hpath e he
    obtain ⟨outcome, houtcome, heq⟩ := h.exists_outcome path hpath
    rw [heq] at he
    cases outcome with
    | ok document => cases he
    | error e' =>
      cases he
      exact hall e' houtcome
  · intro hall e he
    obtain ⟨path, hpath, heq⟩ := h.exists_path _ he
    exact hall path hpath (.chapter e) heq

/-- 報告できない失敗があれば、それで終わる章がある。 -/
theorem exists_of_firstUnreported? {run : LoneRun} (h : Outcomes w c paths outcomes)
    (hrun : firstUnreported? outcomes = some run) :
    ∃ path ∈ paths, fileOutcome w c path = .error (.chapter (.unencodable run)) := by
  obtain ⟨outcome, houtcome, heq⟩ := List.exists_of_findSome?_eq_some hrun
  obtain ⟨path, hpath, hfile⟩ := h.exists_path outcome houtcome
  refine ⟨path, hpath, ?_⟩
  rw [hfile]
  split at heq
  · cases heq
    rfl
  · cases heq

/-- 書くべき文書は、変換できた章の文書である。 -/
theorem documents_eq (h : Outcomes w c paths outcomes) :
    ((paths.zip outcomes).filterMap fun (path, outcome) =>
        match outcome with
        | .ok document => some (documentPath output path, document)
        | .error _ => none)
      = (converted w c paths).map fun d => (output.append ⟨"", [d.1]⟩, d.2) := by
  induction h with
  | nil => rfl
  | @cons path outcome _ _ hfirst _ ih =>
    rw [List.zip_cons_cons, List.filterMap_cons, ih]
    cases outcome with
    | ok document =>
      rw [converted_of_ok hfirst]
      rfl
    | error e => rw [converted_of_error hfirst]

/-- 変換できなかった章の題名は、ファイルの語幹である。 -/
theorem failures_eq (h : Outcomes w c paths outcomes) :
    (((paths.map fun path => Json.str path.stem).zip outcomes).filterMap fun (title, outcome) =>
        match outcome with
        | .ok _ => none
        | .error e => some ((match title with | .str s => s.toList | v => v.plainText.toList), e))
      = failed w c paths := by
  induction h with
  | nil => rfl
  | @cons path outcome _ _ hfirst _ ih =>
    rw [List.map_cons, List.zip_cons_cons, List.filterMap_cons, ih]
    cases outcome with
    | ok document => rw [failed_of_ok hfirst]
    | error e => rw [failed_of_error hfirst]

theorem length_eq (h : Outcomes w c paths outcomes) : outcomes.length = paths.length :=
  (List.Forall₂.length_eq h).symm

/-- **報告できない失敗がなければ、まとめた結果は、章だけの結果を並べたものである。** -/
theorem collect_ok (h : Outcomes w c paths outcomes) (hnone : firstUnreported? outcomes = none) :
    ∃ results, collect (paths.map fun path => Json.str path.stem) outcomes = .ok results ∧
      results.length = paths.length ∧
      documents output (paths.zip results)
        = (converted w c paths).map (fun d => (output.append ⟨"", [d.1]⟩, d.2)) ∧
      failures results = failed w c paths := by
  unfold collect
  rw [hnone]
  refine ⟨_, rfl, ?_, ?_, ?_⟩
  · simp [h.length_eq]
  · rw [← h.documents_eq]
    -- 書くべき文書は、番号にも題名にもよらない
    have houtcomes : (((paths.map fun path => Json.str path.stem).zip outcomes).zipIdx.map
        fun entry => (⟨entry.2, entry.1.1, entry.1.2⟩ : ChapterResult)).map (·.outcome)
          = outcomes := by
      rw [List.map_map]
      show List.map (Prod.snd ∘ Prod.fst) _ = _
      rw [← List.map_map, List.zipIdx_map_fst, List.map_snd_zip (by simp [h.length_eq])]
    conv_rhs => rw [← houtcomes, List.zip_map_right, List.filterMap_map]
    rfl
  · rw [← h.failures_eq, failures, List.filterMap_map]
    conv_rhs => rw [← List.zipIdx_map_fst 0 (List.zip _ _), List.filterMap_map]
    rfl

end Outcomes

/-! ## 報告する -/

/-- 報告の行。 -/
def reportLines (total : Nat) (output : FilePath) (failed : List (Text × ConvertError)) :
    List Text :=
  summaryLine total failed.length output :: failed.map fun (title, e) => failureLine title e

/-- どの行の札も消せれば、すべての行が書かれる。 -/
theorem renderLines_ok : ∀ {lines : List Text}, (∀ line ∈ lines, (Styled.render line).isSome) →
    (renderLines lines).2 = none ∧
      ∀ line ∈ lines, ∃ shown ∈ (renderLines lines).1, Styled.render line = some shown
  | [], _ => ⟨rfl, by simp⟩
  | line :: rest, h => by
    obtain ⟨shown, hshown⟩ := Option.isSome_iff_exists.mp (h line List.mem_cons_self)
    obtain ⟨hfault, hall⟩ := renderLines_ok fun x hx => h x (List.mem_cons_of_mem line hx)
    rw [renderLines, hshown]
    refine ⟨hfault, ?_⟩
    intro x hx
    rcases List.mem_cons.mp hx with rfl | hx
    · exact ⟨shown, List.mem_cons_self, hshown⟩
    · obtain ⟨other, hother, heq⟩ := hall x hx
      exact ⟨other, List.mem_cons_of_mem shown hother, heq⟩

/-- 札を消せない行があれば、報告はそこで止まる。 -/
theorem renderLines_fault : ∀ {lines : List Text}, (∃ line ∈ lines, Styled.render line = none) →
    (renderLines lines).2 = some .unopenedStyle
  | [], h => by simp at h
  | line :: rest, h => by
    rw [renderLines]
    cases hline : Styled.render line with
    | none => rfl
    | some shown =>
      refine renderLines_fault ?_
      obtain ⟨bad, hbad, hnone⟩ := h
      rcases List.mem_cons.mp hbad with rfl | hbad
      · rw [hline] at hnone
        cases hnone
      · exact ⟨bad, hbad, hnone⟩

/-- 報告は、行の札を消したものと、消せたかどうかで決まる。 -/
theorem summarize_eq (files : FileTree) (output : FilePath) (results : List ChapterResult) :
    summarize files output results =
      { ending := (renderLines (reportLines results.length output (failures results))).2.elim
          (.code (if (failures results).isEmpty then 0 else 1)) Fault.ending
        files
        log := (renderLines (reportLines results.length output (failures results))).1 } := by
  unfold summarize reportLines
  dsimp only
  generalize renderLines _ = shown
  obtain ⟨log, fault⟩ := shown
  cases fault with
  | none => rfl
  | some e => rfl

/-! ## 書く -/

/-- 書き出すディレクトリを作れて、様式と文書の名前は、どれもディレクトリを指さない。 -/
structure Accepts (files : FileTree) (output : FilePath) (paths : List FilePath) : Prop where
  work : files.isDirectory files.work = true
  made : ∃ made, files.makeDirectory output = .ok made ∧
    ∀ name ∈ stylesheetName :: paths.map documentName,
      made.isDirectoryAt (output.append ⟨"", [name]⟩) = false

theorem documentName_ne (path : FilePath) :
    documentName path ≠ ".." ∧ documentName path ≠ stylesheetName := by
  have hlast : (documentName path).toList.getLast? = some 'l' := by simp [documentName]
  constructor
  · intro h
    rw [h] at hlast
    revert hlast
    decide
  · intro h
    rw [h] at hlast
    revert hlast
    decide

/-- 語幹が等しいのは、文書の名前が等しいときである。 -/
theorem documentName_inj {path other : FilePath} :
    documentName path = documentName other ↔ path.stem = other.stem := String.append_left_inj _

/-- 様式と、変換できた章の文書。 -/
def written (w : World τ) (c : Converter τ) (paths : List FilePath) : List (String × Text) :=
  (stylesheetName, defaultStylesheet) :: converted w c paths

theorem Accepts.opens (h : Accepts w.files output paths) (c : Converter τ) :
    ∃ made dir, w.files.makeDirectory output = .ok made ∧ FileTree.Grown w.files made ∧
      made.Opens output dir (written w c paths) := by
  obtain ⟨made, hmade, hnames⟩ := h.made
  obtain ⟨hgrown, dir, hresolve, hdir⟩ := FileTree.makeDirectory_ok h.work hmade
  refine ⟨made, dir, hmade, hgrown, hresolve, hdir, ?_⟩
  have hname : ∀ d ∈ written w c paths, d.1 ≠ ".." ∧
      d.1 ∈ stylesheetName :: paths.map documentName := by
    rintro ⟨name, document⟩ hd
    rcases List.mem_cons.mp hd with heq | hd
    · cases heq
      exact ⟨by decide, List.mem_cons_self⟩
    · obtain ⟨path, hpath, rfl, -⟩ := mem_converted.mp hd
      exact ⟨(documentName_ne path).1,
        List.mem_cons_of_mem _ (List.mem_map.mpr ⟨path, hpath, rfl⟩)⟩
  intro d hd
  obtain ⟨hup, hmem⟩ := hname d hd
  refine ⟨hup, ?_⟩
  have hplace := hnames d.1 hmem
  rwa [FileTree.isDirectoryAt, FileTree.resolve_under hresolve hdir hup] at hplace

/-- 書くべきものを、書き出すディレクトリの直下に順に置く。 -/
theorem Accepts.writeDocuments_ok (h : Accepts w.files output paths)
    {results : List ChapterResult}
    (hdocuments : documents output (paths.zip results)
      = (converted w c paths).map fun d => (output.append ⟨"", [d.1]⟩, d.2)) :
    ∃ made dir, FileTree.Grown w.files made ∧ made.Opens output dir (written w c paths) ∧
      writeDocuments w.files output (paths.zip results)
        = (none, made.putFiles dir (written w c paths)) := by
  obtain ⟨made, dir, hmade, hgrown, hopens⟩ := h.opens c
  refine ⟨made, dir, hgrown, hopens, ?_⟩
  have heach := (FileTree.writeEach_under hopens).1
  rw [writeDocuments, hmade, hdocuments]
  unfold written at heach ⊢
  generalize defaultStylesheet = stylesheet at heach ⊢
  exact heach

/-! ## 命令の結果 -/

/-- 読めた章を変換して書くことは、章だけの結果をまとめて書くことである。 -/
theorem convertAll_eq (hstill : Still c.read now w.clock) {texts : List Text}
    (hread : List.Forall₂ (fun path text => readChapter w.files path = .ok text) paths texts) :
    ∃ outcomes log, Outcomes w c paths outcomes ∧
      convertAll w s c output paths texts = Report.after
        (match collect (paths.map fun path => Json.str path.stem) outcomes with
        | .error e => w.fail (.chapters e)
        | .ok results =>
          match writeDocuments w.files output (paths.zip results) with
          | (some e, files) => { ending := Fault.ending (.file e), files }
          | (none, files) => summarize files output results) log [] := by
  have houtcomes := Converter.convertEach_outcomes hstill
    ((texts.map fun text => Json.str (String.ofList text)).zip
      (paths.map fun path => Json.str path.stem)) hstill
  unfold convertAll
  dsimp only
  rw [houtcomes]
  exact ⟨_, _, outcomes_of_read hread, rfl⟩

/--
**どの章の失敗も示せるなら、命令は変換できた章の文書をすべて書き、できなかった章を示す。**

示す行の札を消せないと、書いた後で止まる。
-/
theorem runBatch_written (h : Starts w s c output paths) (hstill : Still c.read now w.clock)
    (haccepts : Accepts w.files output paths) (hall : AllReported w c paths) :
    ∃ made dir, FileTree.Grown w.files made ∧ made.Opens output dir (written w c paths) ∧
      (runBatch w s).files = made.putFiles dir (written w c paths) ∧
      ((∀ line ∈ reportLines paths.length output (failed w c paths), (Styled.render line).isSome) →
        (runBatch w s).ending = .code (if (failed w c paths).isEmpty then 0 else 1) ∧
        ∀ line ∈ reportLines paths.length output (failed w c paths),
          ∃ shown ∈ (runBatch w s).log, Styled.render line = some shown) ∧
      ((∃ line ∈ reportLines paths.length output (failed w c paths), Styled.render line = none) →
        (runBatch w s).ending = Fault.unopenedStyle.ending) := by
  obtain ⟨texts, hread, htexts⟩ | ⟨e, -, path, hpath, he⟩ := readChapters_cases w.files paths
  · obtain ⟨outcomes, log, houtcomes, hconvert⟩ := convertAll_eq hstill htexts
    obtain ⟨results, hresults, hlength, hdocuments, hfailures⟩ :=
      houtcomes.collect_ok (houtcomes.firstUnreported?_eq_none_iff.mpr hall)
    obtain ⟨made, dir, hgrown, hopens, hwrite⟩ := haccepts.writeDocuments_ok hdocuments
    rw [h.runBatch_eq, hread]
    dsimp only
    rw [hconvert, hresults]
    dsimp only
    rw [hwrite, Report.after_after]
    dsimp only
    rw [summarize_eq, hlength, hfailures]
    generalize reportLines paths.length output (failed w c paths) = lines
    refine ⟨made, dir, hgrown, hopens, rfl, fun hrender => ?_, fun hrender => ?_⟩
    · obtain ⟨hfault, hshown⟩ := renderLines_ok hrender
      refine ⟨by rw [Report.after_ending, hfault, Option.elim_none], fun line hline => ?_⟩
      obtain ⟨shown, hmem, heq⟩ := hshown line hline
      exact ⟨shown, Report.mem_log_after _ _ hmem, heq⟩
    · rw [Report.after_ending, renderLines_fault hrender, Option.elim_some]
  · -- 読めないファイルの失敗は示せない
    have := hall path hpath (.file e) (by rw [fileOutcome, he])
    cases this

/-- **示せない失敗に終わる章があれば、命令は、そのような章の失敗で、何も書かずに止まる。** -/
theorem runBatch_crashes (h : Starts w s c output paths) (hstill : Still c.read now w.clock)
    (hcrash : ¬ AllReported w c paths) :
    (runBatch w s).files = w.files ∧
      ∃ path ∈ paths, ∃ e, fileOutcome w c path = .error e ∧ e.isReported = false ∧
        (runBatch w s).ending = e.ending := by
  rw [h.runBatch_eq]
  obtain ⟨texts, hread, htexts⟩ | ⟨e, hread, path, hpath, he⟩ := readChapters_cases w.files paths
  · obtain ⟨outcomes, log, houtcomes, hconvert⟩ := convertAll_eq hstill htexts
    rw [hread]
    dsimp only
    rw [hconvert, collect]
    cases hfirst : firstUnreported? outcomes with
    | none => exact absurd (houtcomes.firstUnreported?_eq_none_iff.mp hfirst) hcrash
    | some run =>
      obtain ⟨path, hpath, hfile⟩ := houtcomes.exists_of_firstUnreported? hfirst
      exact ⟨rfl, path, hpath, _, hfile, rfl, rfl⟩
  · rw [hread]
    exact ⟨rfl, path, hpath, .file e, by rw [fileOutcome, he], rfl, rfl⟩

end Tategaki.Command
