import Mathlib.Data.List.Dedup
import Mathlib.Data.List.Pairwise
import Tategaki.Proofs.Command.Batch

/-!
# 文書の行方

文書の名前はファイルの語幹から作る。語幹が互いに異なれば、どの章の文書も残り、章の失敗はほかの章に及ばない
（`runBatch_isolated`）。ただし、示せない失敗に終わる章が一つでもあれば、命令は何も書かずに止まる
（`runBatch_undecodable`）。

同じ語幹の章があれば、後の章の文書だけが残る（`runBatch_deposits`）。末尾だけが違うファイルは、どちらも変換できたと
示されるのに、先の章の文書は失われる（`runBatch_overwrites`）。
-/

namespace Tategaki.Command

open Chapter Scanner

variable {τ : Type} {w : World τ} {s : BatchSettings} {c : Converter τ} {output : FilePath}
  {paths : List FilePath} {now : Number}

/-! ## 備え付けの規則での変換 -/

theorem exists_ok_of_isSome {ε α : Type} {result : Except ε α}
    (h : result.toOption.isSome = true) : ∃ a, result = .ok a := by
  cases result with
  | error e => cases h
  | ok a => exact ⟨a, rfl⟩

theorem eq_ok_of_toOption_eq {ε α : Type} {result : Except ε α} {a : α}
    (h : result.toOption = some a) : result = .ok a := by
  cases result with
  | error e => cases h
  | ok b =>
    cases h
    rfl

/-- 何も指定しなければ、備え付けの規則と既定の上限で変換する。 -/
theorem readyEngine_default (w : World τ) :
    (readyEngine w {}).outcome
      = .ok { registry := .bundled {}, limits := {}, read := w.read, lone := w.lone
              room := w.room } := by
  have hok : (Registry.registerGroups Bundled.groups (.empty {})).1.toOption.isSome = true := by
    decide +kernel
  have hsize : ((Registry.bundled {}).size == 0) = false := by decide +kernel
  have hready : (registerLoaded { groups := Bundled.groups } {}).outcome
      = .ok (Registry.bundled {}) := by
    unfold registerLoaded Registry.bundled
    dsimp only
    generalize Registry.registerGroups Bundled.groups (.empty {}) = result at hok ⊢
    obtain ⟨rules | rules, registry⟩ := result
    · cases hok
    · rfl
  unfold readyEngine readyRules
  rw [limits_default]
  dsimp only
  rw [List.isEmpty_nil, if_pos rfl, hready]
  dsimp only
  rw [Converter.create, hsize]
  rfl

/-- ディレクトリ `ch` の、名前と中身。 -/
def chapterWorld (files : List (String × Bytes)) : World SteadyClock where
  files := { entries := files.map fun (name, bytes) => (["ch", name], .file bytes) }
  read := SteadyClock.read
  clock := {}

/-- ディレクトリ `ch` を、何も指定せずに変換する。 -/
def chapterSettings : BatchSettings := { input := "ch".toList }

/-- ディレクトリ `ch` の直下の道筋。 -/
def chapterPath (name : String) : FilePath := ⟨"", ["ch", name]⟩

/-- ディレクトリ `ch` の直下のファイルの道筋。 -/
def chapterPaths (files : List (String × Bytes)) : List FilePath :=
  files.map fun file => chapterPath file.1

/-- ディレクトリ `ch` を変換できて、書き出すディレクトリを作れる。 -/
structure SetUp (files : List (String × Bytes)) : Prop where
  starts : Starts (chapterWorld files) chapterSettings Converter.bundled (chapterPath "xhtml")
    (chapterPaths files)
  accepts : Accepts (chapterWorld files).files (chapterPath "xhtml") (chapterPaths files)
  still : Still Converter.bundled.read (.int 0) (chapterWorld files).clock

/-- 変換できるかどうかを、木を調べて決める。 -/
def isSetUp (files : List (String × Bytes)) : Bool :=
  let w := chapterWorld files
  w.expand? chapterSettings.input == some ⟨"", ["ch"]⟩
    && w.files.isDirectoryAt ⟨"", ["ch"]⟩
    && chapterFiles w.files ⟨"", ["ch"]⟩ == chapterPaths files
    && !(chapterPaths files).isEmpty
    && w.lone.isNone
    && (w.files.makeDirectory (chapterPath "xhtml")).toOption.any fun made =>
      (stylesheetName :: (chapterPaths files).map documentName).all fun name =>
        !made.isDirectoryAt ((chapterPath "xhtml").append ⟨"", [name]⟩)

theorem setUp_of_isSetUp {files : List (String × Bytes)} (h : isSetUp files = true) :
    SetUp files := by
  simp only [isSetUp, Bool.and_eq_true, beq_iff_eq, Bool.not_eq_true',
    List.isEmpty_eq_false_iff] at h
  obtain ⟨⟨⟨⟨⟨hinput, hdir⟩, hpaths⟩, hne⟩, hlone⟩, hmade⟩ := h
  obtain ⟨made, hmade, hnames⟩ := (Option.any_eq_true _ _).mp hmade
  have hready : (readyEngine (chapterWorld files) {}).outcome = .ok Converter.bundled := by
    rw [readyEngine_default, Option.isNone_iff_eq_none.mp hlone]
    rfl
  refine ⟨⟨⟨_, hinput, hdir, hpaths, rfl⟩, hne, rfl, hready⟩,
    ⟨rfl, made, eq_ok_of_toOption_eq hmade, ?_⟩, still_of_fixed (SteadyClock.read_still 0)⟩
  simpa using hnames

/-- 章 `a.html` の中身。 -/
def goodText : Text := "<p>x</p>".toList

/-- 章 `a.html` は変換できる。 -/
theorem fileOutcome_good {files : List (String × Bytes)}
    (h : readChapter (chapterWorld files).files (chapterPath "a.html") = .ok goodText) :
    ∃ document, fileOutcome (chapterWorld files) Converter.bundled (chapterPath "a.html")
      = .ok document := by
  have hgood : (Converter.bundled.outcomeOf {} (chapterOf (chapterPath "a.html") goodText)
      ).toOption.isSome = true := by decide +kernel
  obtain ⟨document, hdocument⟩ := exists_ok_of_isSome hgood
  refine ⟨document, ?_⟩
  unfold fileOutcome
  rw [h]
  dsimp only
  rw [show (chapterWorld files).clock = {} from rfl, hdocument]
  rfl

/-! ## 章どうしの独立 -/

/-- 書いた後、変換できた章の文書の場所には、その名前の最後の文書がある。 -/
theorem contentAt_document {made : FileTree} {dir : Place}
    (hopens : made.Opens output dir (written w c paths)) {path : FilePath} {document : Text}
    (hlast : (converted w c paths).findRev? (·.1 == documentName path)
      = some (documentName path, document)) :
    (made.putFiles dir (written w c paths)).contentAt (documentPath output path)
      = some (Utf8.encode document) := by
  have hname := (documentName_ne path).1
  rw [show documentPath output path = output.append ⟨"", [documentName path]⟩ from rfl,
    FileTree.contentAt_putFiles hopens hname, written, List.findRev?, hlast]
  rfl

/-- 後に同じ語幹の変換できた章がなければ、最後の文書は、その章の文書である。 -/
theorem findRev?_converted {before after : List FilePath} {path : FilePath} {document : Text}
    (hdocument : fileOutcome w c path = .ok document)
    (hafter : ∀ later ∈ after, later.stem = path.stem → ∀ d, fileOutcome w c later ≠ .ok d) :
    (converted w c (before ++ path :: after)).findRev? (·.1 == documentName path)
      = some (documentName path, document) := by
  have hnone : (converted w c after).reverse.find? (·.1 == documentName path) = none := by
    refine List.find?_eq_none.mpr ?_
    rintro ⟨name, d⟩ hd hname
    obtain ⟨later, hlater, rfl, hok⟩ := mem_converted.mp (List.mem_reverse.mp hd)
    exact hafter later hlater (documentName_inj.mp (eq_of_beq hname)) d hok
  have hsplit : converted w c (before ++ path :: after)
      = converted w c before ++ (documentName path, document) :: converted w c after := by
    rw [← converted_of_ok hdocument]
    simp [converted]
  rw [List.findRev?_eq_find?_reverse, hsplit]
  simp [List.find?_append, hnone]

/--
**語幹が互いに異なり、どの章の失敗も示せるなら、章の失敗はほかの章に及ばない。**

それだけで変換できる章は、どれも文書になる。できない章があれば、命令は一で終わり、その章を示す。示せない失敗に
終わる章があれば、命令はその失敗で止まり、何も書かない。
-/
theorem runBatch_isolated (h : Starts w s c output paths) (hstill : Still c.read now w.clock)
    (haccepts : Accepts w.files output paths) (hstems : (paths.map (·.stem)).Nodup) :
    (AllReported w c paths →
      (∀ path ∈ paths, ∀ document, fileOutcome w c path = .ok document →
        (runBatch w s).files.contentAt (documentPath output path)
          = some (Utf8.encode document)) ∧
      ((∀ line ∈ reportLines paths.length output (failed w c paths),
          (Styled.render line).isSome) →
        ((∃ path ∈ paths, ∃ e, fileOutcome w c path = .error e) →
          (runBatch w s).ending = .code 1) ∧
        ((∀ path ∈ paths, ∃ document, fileOutcome w c path = .ok document) →
          (runBatch w s).ending = .code 0) ∧
        ∀ path ∈ paths, ∀ e, fileOutcome w c path = .error (.chapter e) →
          ∃ line ∈ (runBatch w s).log,
            Styled.render (failureLine path.stem.toList e) = some line)) ∧
    (¬ AllReported w c paths →
      (runBatch w s).files = w.files ∧
        ∃ path ∈ paths, ∃ e, fileOutcome w c path = .error e ∧ e.isReported = false ∧
          (runBatch w s).ending = e.ending) := by
  refine ⟨fun hall => ?_, fun hcrash => runBatch_crashes h hstill hcrash⟩
  obtain ⟨made, dir, -, hopens, hfiles, hreport, -⟩ := runBatch_written h hstill haccepts hall
  refine ⟨?_, fun hrender => ?_⟩
  · intro path hpath document hdocument
    obtain ⟨before, after, rfl⟩ := List.append_of_mem hpath
    rw [hfiles]
    refine contentAt_document hopens (findRev?_converted hdocument ?_)
    -- 語幹が互いに異なるので、後に同じ語幹の章はない
    intro later hlater hstem
    rw [List.map_append, List.map_cons] at hstems
    have hnotin := (List.nodup_cons.mp (List.nodup_append.mp hstems).2.1).1
    exact absurd (List.mem_map.mpr ⟨later, hlater, hstem⟩) hnotin
  · obtain ⟨hending, hshown⟩ := hreport hrender
    refine ⟨?_, ?_, ?_⟩
    · rintro ⟨path, hpath, e, he⟩
      obtain ⟨e', rfl⟩ := exists_chapter_of_isReported he (hall path hpath e he)
      have hne : (failed w c paths).isEmpty = false :=
        List.isEmpty_eq_false_iff_exists_mem.mpr ⟨_, mem_failed hpath he⟩
      rw [hending, hne, if_neg Bool.false_ne_true]
    · intro hok
      have hempty : failed w c paths = [] := by
        refine List.filterMap_eq_nil_iff.mpr fun path hpath => ?_
        obtain ⟨document, hdocument⟩ := hok path hpath
        rw [hdocument]
      rw [hending, hempty, List.isEmpty_nil, if_pos rfl]
    · intro path hpath e he
      exact hshown _ (List.mem_cons_of_mem _ (List.mem_map.mpr ⟨_, mem_failed hpath he, rfl⟩))

/-- 変換できる章と、空の章がある。 -/
def mixedFiles : List (String × Bytes) :=
  [("a.html", Utf8.encode goodText), ("b.htm", [])]

/-- 空の章が失敗しても、もう一つの章は文書になり、命令は一で終わる。 -/
theorem runBatch_isolated_mixed :
    SetUp mixedFiles ∧ ((chapterPaths mixedFiles).map (·.stem)).Nodup ∧
      AllReported (chapterWorld mixedFiles) Converter.bundled (chapterPaths mixedFiles) ∧
      (∃ document, fileOutcome (chapterWorld mixedFiles) Converter.bundled (chapterPath "a.html")
          = .ok document ∧
        (runBatch (chapterWorld mixedFiles) chapterSettings).files.contentAt
          (documentPath (chapterPath "xhtml") (chapterPath "a.html"))
            = some (Utf8.encode document)) ∧
      fileOutcome (chapterWorld mixedFiles) Converter.bundled (chapterPath "b.htm")
        = .error (.chapter .emptyHtml) ∧
      (runBatch (chapterWorld mixedFiles) chapterSettings).ending = .code 1 ∧
      ∃ line ∈ (runBatch (chapterWorld mixedFiles) chapterSettings).log,
        Styled.render (failureLine "b".toList .emptyHtml) = some line := by
  have hsetUp : SetUp mixedFiles := setUp_of_isSetUp (by decide +kernel)
  have hpaths : chapterPaths mixedFiles = [chapterPath "a.html", chapterPath "b.htm"] := rfl
  have hstems : ((chapterPaths mixedFiles).map (·.stem)).Nodup := by decide +kernel
  obtain ⟨document, hgood⟩ := fileOutcome_good
    (show readChapter (chapterWorld mixedFiles).files (chapterPath "a.html") = .ok goodText from rfl)
  have hbad : fileOutcome (chapterWorld mixedFiles) Converter.bundled (chapterPath "b.htm")
      = .error (.chapter .emptyHtml) := rfl
  have hall : AllReported (chapterWorld mixedFiles) Converter.bundled
      (chapterPaths mixedFiles) := by
    intro path hpath e he
    rw [hpaths, List.mem_pair] at hpath
    rcases hpath with rfl | rfl
    · rw [hgood] at he
      cases he
    · rw [hbad] at he
      cases he
      rfl
  have hfailed : failed (chapterWorld mixedFiles) Converter.bundled (chapterPaths mixedFiles)
      = [((chapterPath "b.htm").stem.toList, .emptyHtml)] := by
    rw [hpaths, failed_of_ok hgood, failed_of_error hbad]
    rfl
  have hrender : (reportLines (chapterPaths mixedFiles).length (chapterPath "xhtml")
      [((chapterPath "b.htm").stem.toList, .emptyHtml)]).all
        (fun line => (Styled.render line).isSome) = true := by decide +kernel
  rw [← hfailed] at hrender
  obtain ⟨hwritten, hreported⟩ :=
    (runBatch_isolated hsetUp.starts hsetUp.still hsetUp.accepts hstems).1 hall
  obtain ⟨hone, -, hline⟩ := hreported (List.all_eq_true.mp hrender)
  exact ⟨hsetUp, hstems, hall,
    ⟨document, hgood, hwritten _ List.mem_cons_self document hgood⟩, hbad,
    hone ⟨_, List.mem_cons_of_mem _ List.mem_cons_self, _, hbad⟩,
    hline _ (List.mem_cons_of_mem _ List.mem_cons_self) _ hbad⟩

/-- 変換できる章と、読めないファイルがある。 -/
def undecodableFiles : List (String × Bytes) :=
  [("a.html", Utf8.encode goodText), ("b.html", [0xff])]

/-- 読めないファイルが一つあると、それだけなら変換できる章の文書も書かれず、命令は番号を返さずに止まる。 -/
theorem runBatch_undecodable :
    SetUp undecodableFiles ∧ ((chapterPaths undecodableFiles).map (·.stem)).Nodup ∧
      (∃ document, fileOutcome (chapterWorld undecodableFiles) Converter.bundled
        (chapterPath "a.html") = .ok document) ∧
      (runBatch (chapterWorld undecodableFiles) chapterSettings).files.contentAt
        (documentPath (chapterPath "xhtml") (chapterPath "a.html")) = none ∧
      (runBatch (chapterWorld undecodableFiles) chapterSettings).ending ≠ .code 1 := by
  have hsetUp : SetUp undecodableFiles := setUp_of_isSetUp (by decide +kernel)
  have hcrash : ¬ AllReported (chapterWorld undecodableFiles) Converter.bundled
      (chapterPaths undecodableFiles) := by
    intro hall
    exact Bool.false_ne_true (hall (chapterPath "b.html") (by decide) _ rfl)
  obtain ⟨hfiles, path, -, e, -, he, hending⟩ :=
    runBatch_crashes hsetUp.starts hsetUp.still hcrash
  refine ⟨hsetUp, by decide +kernel, fileOutcome_good rfl, ?_, ?_⟩
  · rw [hfiles]
    decide +kernel
  · rw [hending, Fault.ending, he, if_neg Bool.false_ne_true]
    intro hcode
    cases hcode

/-! ## 同じ名前の文書 -/

/-- 変換できた章の語幹が互いに異なる。 -/
def DistinctStems (w : World τ) (c : Converter τ) (paths : List FilePath) : Prop :=
  paths.Pairwise fun path other => ∀ d d', fileOutcome w c path = .ok d →
    fileOutcome w c other = .ok d' → path.stem ≠ other.stem

/-- 書かれた文書の名前。 -/
def documentNames (w : World τ) (c : Converter τ) (paths : List FilePath) : List String :=
  ((converted w c paths).map (·.1)).dedup

theorem nodup_converted_iff :
    ((converted w c paths).map (·.1)).Nodup ↔ DistinctStems w c paths := by
  unfold converted DistinctStems
  rw [List.map_filterMap, List.Nodup, List.pairwise_filterMap]
  refine List.Pairwise.iff fun path other => ?_
  cases hpath : fileOutcome w c path with
  | error e => simp
  | ok d =>
    cases hother : fileOutcome w c other with
    | error e => simp
    | ok d' => simp [documentName_inj]

/-- 変換できた章と、できなかった章を合わせると、すべての章になる。 -/
theorem length_converted (hall : AllReported w c paths) :
    (converted w c paths).length + (failed w c paths).length = paths.length := by
  induction paths with
  | nil => rfl
  | cons path rest ih =>
    have hrest := ih fun x hx => hall x (List.mem_cons_of_mem path hx)
    cases hpath : fileOutcome w c path with
    | ok document =>
      rw [converted_of_ok hpath, failed_of_ok hpath, List.length_cons, List.length_cons]
      omega
    | error e =>
      obtain ⟨e', rfl⟩ :=
        exists_chapter_of_isReported hpath (hall path List.mem_cons_self e hpath)
      rw [converted_of_error hpath, failed_of_error hpath, List.length_cons, List.length_cons]
      omega

/-- 命令が書き出すディレクトリに残すものと、その数の報告。 -/
structure Deposits (w : World τ) (s : BatchSettings) (c : Converter τ) (output : FilePath)
    (paths : List FilePath) : Prop where
  /-- 後に同じ語幹の変換できた章がなければ、章の文書が残る。 -/
  last : ∀ before path after document, paths = before ++ path :: after →
    fileOutcome w c path = .ok document →
    (∀ later ∈ after, later.stem = path.stem → ∀ d, fileOutcome w c later ≠ .ok d) →
    (runBatch w s).files.contentAt (documentPath output path) = some (Utf8.encode document)
  /-- 語幹が互いに異なれば、変換できた章はどれも、ほかの章と違う場所に、自分の文書を持つ。 -/
  own : DistinctStems w c paths → ∀ path ∈ paths, ∀ document,
    fileOutcome w c path = .ok document →
    (runBatch w s).files.contentAt (documentPath output path) = some (Utf8.encode document) ∧
      ∀ other ∈ paths, other ≠ path → ∀ d, fileOutcome w c other = .ok d →
        documentPath output other ≠ documentPath output path
  /-- 文書の数が、変換できたと示す章の数に等しいのは、語幹が互いに異なるときに限る。 -/
  count : (documentNames w c paths).length = paths.length - (failed w c paths).length ↔
    DistinctStems w c paths
  /-- どの行の札も消せれば、変換できた章の数を示す。 -/
  report : (∀ line ∈ reportLines paths.length output (failed w c paths),
      (Styled.render line).isSome) →
    ∃ shown ∈ (runBatch w s).log,
      Styled.render (summaryLine paths.length (failed w c paths).length output) = some shown
  /-- 様式と文書のほかのファイルは変わらない。 -/
  frame : ∃ dir, (runBatch w s).files.resolve output = some dir ∧ ∀ place,
    (∀ name ∈ stylesheetName :: documentNames w c paths, place ≠ dir ++ [name]) →
      (runBatch w s).files.bytes? place = w.files.bytes? place

/-- **どの章の失敗も示せるなら、文書は名前ごとに一つだけ残り、ほかのファイルは変わらない。** -/
theorem runBatch_deposits (h : Starts w s c output paths) (hstill : Still c.read now w.clock)
    (haccepts : Accepts w.files output paths) (hall : AllReported w c paths) :
    Deposits w s c output paths := by
  obtain ⟨made, dir, hgrown, hopens, hfiles, hreport, -⟩ :=
    runBatch_written h hstill haccepts hall
  have hlast : ∀ before path after document, paths = before ++ path :: after →
      fileOutcome w c path = .ok document →
      (∀ later ∈ after, later.stem = path.stem → ∀ d, fileOutcome w c later ≠ .ok d) →
      (runBatch w s).files.contentAt (documentPath output path)
        = some (Utf8.encode document) := by
    rintro before path after document rfl hdocument hafter
    rw [hfiles]
    exact contentAt_document hopens (findRev?_converted hdocument hafter)
  refine ⟨hlast, ?_, ?_, fun hrender => (hreport hrender).2 _ List.mem_cons_self, ?_⟩
  · intro hdistinct path hpath document hdocument
    constructor
    · obtain ⟨before, after, hsplit⟩ := List.append_of_mem hpath
      refine hlast before path after document hsplit hdocument fun later hlater hstem d hd => ?_
      rw [hsplit] at hdistinct
      have hafter := (List.pairwise_cons.mp (List.pairwise_append.mp hdistinct).2.1).1
      exact hafter later hlater document d hdocument hd hstem.symm
    · intro other hother hne d hd hsame
      have hsymm : Std.Symm fun path other : FilePath => ∀ d d', fileOutcome w c path = .ok d →
          fileOutcome w c other = .ok d' → path.stem ≠ other.stem :=
        ⟨fun _ _ h d d' hd hd' => (h d' d hd' hd).symm⟩
      refine List.Pairwise.forall hdistinct hother hpath hne d document hd hdocument ?_
      rw [documentPath, documentPath] at hsame
      simpa [FilePath.append] using hsame
  · have htotal := length_converted hall
    rw [documentNames, ← nodup_converted_iff, ← List.dedup_eq_self]
    constructor
    · intro hlength
      refine (List.dedup_sublist _).eq_of_length ?_
      rw [hlength, List.length_map]
      omega
    · intro heq
      rw [heq, List.length_map]
      omega
  · refine ⟨dir, ?_, fun place hplace => ?_⟩
    · rw [hfiles]
      exact (FileTree.writeEach_under hopens).2.resolves
    · have hother : ∀ d ∈ written w c paths, place ≠ dir ++ [d.1] := by
        intro d hd
        refine hplace d.1 ?_
        rcases List.mem_cons.mp hd with rfl | hd
        · exact List.mem_cons_self
        · exact List.mem_cons_of_mem _ (List.mem_dedup.mpr (List.mem_map_of_mem hd))
      rw [hfiles, FileTree.bytes?, FileTree.lookup_putFiles_of_ne _ _ hother]
      exact hgrown.files place

/-- 末尾だけが違う二つのファイルがある。 -/
def twinFiles : List (String × Bytes) :=
  [("a.html", Utf8.encode goodText), ("a.txt", Utf8.encode "y".toList)]

theorem chapterPaths_twinFiles :
    chapterPaths twinFiles = [chapterPath "a.html"] ++ chapterPath "a.txt" :: [] := rfl

/-- 二つの章は、それぞれ変換でき、違う文書になる。 -/
theorem twinFiles_converted : ∃ document document',
    fileOutcome (chapterWorld twinFiles) Converter.bundled (chapterPath "a.html") = .ok document ∧
      fileOutcome (chapterWorld twinFiles) Converter.bundled (chapterPath "a.txt")
        = .ok document' ∧ Utf8.encode document' ≠ Utf8.encode document := by
  have hboth : (fileOutcome (chapterWorld twinFiles) Converter.bundled
      (chapterPath "a.html")).toOption.any (fun document =>
        (fileOutcome (chapterWorld twinFiles) Converter.bundled
          (chapterPath "a.txt")).toOption.any fun document' =>
            Utf8.encode document' != Utf8.encode document) = true := by decide +kernel
  obtain ⟨document, hfirst, hboth⟩ := (Option.any_eq_true _ _).mp hboth
  obtain ⟨document', hsecond, hne⟩ := (Option.any_eq_true _ _).mp hboth
  exact ⟨document, document', eq_ok_of_toOption_eq hfirst, eq_ok_of_toOption_eq hsecond,
    by simpa using hne⟩

theorem allReported_twinFiles :
    AllReported (chapterWorld twinFiles) Converter.bundled (chapterPaths twinFiles) := by
  obtain ⟨document, document', hfirst, hsecond, -⟩ := twinFiles_converted
  intro path hpath e he
  rcases List.mem_pair.mp hpath with rfl | rfl
  · rw [hfirst] at he
    cases he
  · rw [hsecond] at he
    cases he

/-- 同じ語幹の二章のうち、後の章の文書が残る。 -/
theorem runBatch_deposits_twin :
    SetUp twinFiles ∧
      AllReported (chapterWorld twinFiles) Converter.bundled (chapterPaths twinFiles) ∧
      Deposits (chapterWorld twinFiles) chapterSettings Converter.bundled (chapterPath "xhtml")
        (chapterPaths twinFiles) := by
  have hsetUp : SetUp twinFiles := setUp_of_isSetUp (by decide +kernel)
  exact ⟨hsetUp, allReported_twinFiles,
    runBatch_deposits hsetUp.starts hsetUp.still hsetUp.accepts allReported_twinFiles⟩

/-- 末尾だけが違う二つの章は、どちらも変換できたと示されるのに、先の章の文書は残らない。 -/
theorem runBatch_overwrites :
    SetUp twinFiles ∧
      (∀ path ∈ chapterPaths twinFiles, ∃ text,
        readChapter (chapterWorld twinFiles).files path = .ok text) ∧
      (runBatch (chapterWorld twinFiles) chapterSettings).ending = .code 0 ∧
      "Converted 2/2 chapter(s) into ch/xhtml".toList
        ∈ (runBatch (chapterWorld twinFiles) chapterSettings).log ∧
      ∃ document, fileOutcome (chapterWorld twinFiles) Converter.bundled (chapterPath "a.html")
          = .ok document ∧
        (runBatch (chapterWorld twinFiles) chapterSettings).files.contentAt
          (documentPath (chapterPath "xhtml") (chapterPath "a.html"))
            ≠ some (Utf8.encode document) := by
  have hsetUp : SetUp twinFiles := setUp_of_isSetUp (by decide +kernel)
  obtain ⟨document, document', hfirst, hsecond, hne⟩ := twinFiles_converted
  obtain ⟨made, dir, -, hopens, hfiles, hreport, -⟩ :=
    runBatch_written hsetUp.starts hsetUp.still hsetUp.accepts allReported_twinFiles
  have hfailed : failed (chapterWorld twinFiles) Converter.bundled (chapterPaths twinFiles)
      = [] := by
    rw [chapterPaths_twinFiles, List.cons_append, List.nil_append, failed_of_ok hfirst,
      failed_of_ok hsecond]
    rfl
  have hrender : (reportLines (chapterPaths twinFiles).length (chapterPath "xhtml") []).all
      (fun line => (Styled.render line).isSome) = true := by decide +kernel
  have hsummary : Styled.render (summaryLine (chapterPaths twinFiles).length 0
      (chapterPath "xhtml")) = some "Converted 2/2 chapter(s) into ch/xhtml".toList := by
    decide +kernel
  rw [hfailed] at hreport
  obtain ⟨hending, hshown⟩ := hreport (List.all_eq_true.mp hrender)
  obtain ⟨shown, hmem, hline⟩ := hshown _ List.mem_cons_self
  rw [List.length_nil, hsummary] at hline
  cases hline
  refine ⟨hsetUp, ?_, hending, hmem, document, hfirst, ?_⟩
  · intro path hpath
    rcases List.mem_pair.mp hpath with rfl | rfl <;> exact ⟨_, rfl⟩
  · -- 先の章の場所には、後の章の文書がある
    have hlast : (converted (chapterWorld twinFiles) Converter.bundled
        (chapterPaths twinFiles)).findRev? (·.1 == documentName (chapterPath "a.txt"))
          = some (documentName (chapterPath "a.txt"), document') := by
      rw [chapterPaths_twinFiles]
      exact findRev?_converted hsecond (by simp)
    have hcontent := contentAt_document hopens hlast
    rw [hfiles, show documentPath (chapterPath "xhtml") (chapterPath "a.html")
      = documentPath (chapterPath "xhtml") (chapterPath "a.txt") by decide +kernel, hcontent]
    simpa using hne

end Tategaki.Command
