import Mathlib.Data.List.Forall2
import Tategaki.Proofs.Files.Listing
import Tategaki.Proofs.Files.Tree
import Tategaki.Proofs.Rule.Dropping
import Tategaki.Rule.Load

/-!
# 規則の置き場の読み取り

置き場の `.json` のファイルは、名前の順に一つずつ読まれる。どのファイルも読めれば、語幹を名前とする組が同じ順に並ぶ。読めない
ファイルがあれば、その最初のもので止まる（`RuleGroup.loadDirectory_blames`）。

止まるときの失敗は、そのファイルの語幹を `source` に持つ規則の誤りか、規則の誤りとしては集められない中断である
（`LoadError.Blames`）。中断は、文字として読めないバイト列、桁の多すぎる整数、倍精度に収まらない優先順位、読み取りを
止める定義のどれかがあるときに限る（`RuleGroup.Breaks`）。
-/

namespace Tategaki

open Json Surrogate

/-- 組 `name` の規則の誤りとして示されるか、条件 `P` に適う中断である。 -/
inductive LoadError.Blames (name : String) (P : Interruption → Prop) : LoadError → Prop
  | rule {e : RuleError} (h : e.source = some name) : Blames name P (.rule e)
  | interrupted {i : Interruption} (h : P i) : Blames name P (.interrupted i)

theorem LoadError.Blames.mono {name : String} {P Q : Interruption → Prop} {e : LoadError}
    (h : e.Blames name P) (himp : ∀ i, P i → Q i) : e.Blames name Q := by
  cases h with
  | rule h => exact .rule h
  | interrupted h => exact .interrupted (himp _ h)

namespace RuleGroup

/-! ## 組 -/

theorem readEntries_fails (name : String) (skip : Bool) (entries : List Json) :
    FailsWith (LoadError.Blames name fun i => ∃ value ∈ entries, Stops name value i)
      (readEntries name skip entries).1 := by
  induction entries with
  | nil => exact failsWith_ok _
  | cons value rest ih =>
    have hrest : FailsWith
        (LoadError.Blames name fun i => ∃ v ∈ value :: rest, Stops name v i)
        (readEntries name skip rest).1 :=
      ih.mono fun e he => he.mono fun i ⟨v, hv, h⟩ => ⟨v, List.mem_cons_of_mem value hv, h⟩
    unfold readEntries
    split
    · exact fun e he => hrest e (error_of_map_error he)
    · next e he =>
      split
      · exact hrest
      · cases readEntry_fails value name _ he with
        | rule hsource => exact failsWith_error (.rule (source_withSource hsource))
    · next i hi =>
      cases readEntry_fails value name _ hi with
      | interrupted h => exact failsWith_error (.interrupted ⟨value, List.mem_cons_self, h⟩)

/-- 組の読み取りを止めるデータと、その事情。 -/
inductive Halts (name : String) : Json → Interruption → Prop
  /-- 読み取りを止める定義がある。 -/
  | entry {fields : List (String × Json)} {entries : List Json} {value : Json} {i : Interruption}
      (hentries : get fields "patterns" = .arr entries) (hvalue : value ∈ entries)
      (h : Stops name value i) : Halts name (.obj fields) i
  /-- 優先順位の基準が、倍精度に収まらない整数である。 -/
  | priority {fields : List (String × Json)} {base : Number}
      (hbase : (get fields "basePriority").number? = some base) (h : base.toBinary64? = none) :
      Halts name (.obj fields) (.overflow hugeIntegerText)

/-- **組を読めないのは、組の名前を持つ規則の誤りか、`Halts` に挙げた中断のためである。** -/
theorem parse_fails (data : Json) (name : String) (skip : Bool) :
    FailsWith (LoadError.Blames name (Halts name data)) (parse data name skip).1 := by
  unfold parse
  split
  · next fields =>
    split
    · exact failsWith_error (.rule rfl)
    · next base hbase =>
      split
      · next entries hentries =>
        split
        · next e warnings hread =>
          have hfails := readEntries_fails name skip entries e (by rw [hread])
          exact failsWith_error (hfails.mono fun i ⟨v, hv, h⟩ => .entry hentries hv h)
        · split
          · next hrange => exact failsWith_error (.interrupted (.priority hbase hrange))
          · exact failsWith_ok _
      · exact failsWith_error (.rule rfl)
  · exact failsWith_error (.rule rfl)

/-- 読めた組は、与えた名前を持つ。 -/
theorem name_of_parse {data : Json} {name : String} {skip : Bool} {g : RuleGroup}
    (h : (parse data name skip).1 = .ok g) : g.name = name := by
  unfold parse at h
  repeat' split at h
  all_goals cases h
  rfl

/-! ## ファイル -/

/-- ファイルの中身を、組 `name` として読む。 -/
def ofBytes (lone : Block) (bytes : Bytes) (name : String) (skip : Bool) :
    Except LoadError RuleGroup × List String :=
  match Utf8.decode bytes with
  | .ok text => ofText lone (Utf8.unifyLineEnds text) name skip
  | .error e => (.error (.interrupted (.undecodable e.message)), [])

/-- 規則の誤りとしては集められない中断を起こす中身と、その事情。 -/
inductive Breaks (lone : Block) (name : String) (bytes : Bytes) : Interruption → Prop
  /-- 文字として読めない。 -/
  | undecodable {e : Utf8.DecodeError} (h : Utf8.decode bytes = .error e) :
      Breaks lone name bytes (.undecodable e.message)
  /-- 整数の桁が多すぎる。 -/
  | digits {text : Text} {count : Nat} (ht : Utf8.decode bytes = .ok text)
      (h : Json.parse lone (Utf8.unifyLineEnds text) = .error (.tooManyDigits count)) :
      Breaks lone name bytes (.badValue (tooManyDigitsText count))
  /-- データが組の読み取りを止める。 -/
  | data {text : Text} {value : Json} {i : Interruption} (ht : Utf8.decode bytes = .ok text)
      (hd : Json.parse lone (Utf8.unifyLineEnds text) = .ok value) (h : Halts name value i) :
      Breaks lone name bytes i

/-- **ファイルを読めないのは、組の名前を持つ規則の誤りか、`Breaks` に挙げた中断のためである。** -/
theorem ofBytes_fails (lone : Block) (bytes : Bytes) (name : String) (skip : Bool) :
    FailsWith (LoadError.Blames name (Breaks lone name bytes))
      (ofBytes lone bytes name skip).1 := by
  unfold ofBytes
  split
  · next text ht =>
    unfold ofText
    split
    · next data hd => exact (parse_fails data name skip).mono fun e he => he.mono fun i => .data ht hd
    · exact failsWith_error (.rule rfl)
    · next hdigits => exact failsWith_error (.interrupted (.digits ht hdigits))
  · next he => exact failsWith_error (.interrupted (.undecodable he))

theorem name_of_ofBytes {lone : Block} {bytes : Bytes} {name : String} {skip : Bool} {g : RuleGroup}
    (h : (ofBytes lone bytes name skip).1 = .ok g) : g.name = name := by
  unfold ofBytes at h
  split at h
  · unfold ofText at h
    split at h
    · exact name_of_parse h
    · cases h
    · cases h
  · cases h

/-! ## 置き場 -/

/-- 置き場のファイルから読む組の名前。 -/
def groupName (file : String × Bytes) : String := (FilePath.splitName file.1).1

/-- ファイルから読んだ組である。 -/
def IsReadFrom (lone : Block) (skip : Bool) (file : String × Bytes) (g : RuleGroup) : Prop :=
  g.name = groupName file ∧ (ofBytes lone file.2 (groupName file) skip).1 = .ok g

section Directory

variable {lone : Block} {t : FileTree} {p : FilePath} {dir : Place} {skip : Bool}

/-- 置き場のファイルを一つ読み、残りに進む。 -/
theorem loadFiles_cons (hplace : t.resolve p = some dir) (hdir : t.isDirectory dir = true)
    {file : String × Bytes} (hname : file.1 ≠ "..")
    (hfile : t.bytes? (dir ++ [file.1]) = some file.2) (rest : List String) :
    loadFiles lone t p skip (file.1 :: rest) = match ofBytes lone file.2 (groupName file) skip with
      | (.error e, warnings) => { warnings, error := some e }
      | (.ok g, warnings) =>
        let report := loadFiles lone t p skip rest
        { report with groups := g :: report.groups, warnings := warnings ++ report.warnings } := by
  have hstem : (p.append ⟨"", [file.1]⟩).stem = groupName file := by
    show (FilePath.splitName ((p.parts ++ [file.1]).getLastD "")).1 = _
    rw [List.getLastD_concat]
    rfl
  rw [loadFiles, FileTree.readText, FileTree.resolve_under hplace hdir hname]
  dsimp only
  rw [hfile, hstem, ofBytes]
  dsimp only
  cases Utf8.decode file.2 <;> rfl

/-- **どのファイルも読めるか、読めない最初のファイルで止まる。** -/
theorem loadFiles_cases (hplace : t.resolve p = some dir) (hdir : t.isDirectory dir = true) :
    ∀ {files : List (String × Bytes)},
      (∀ file ∈ files, file.1 ≠ ".." ∧ t.bytes? (dir ++ [file.1]) = some file.2) →
      ((loadFiles lone t p skip (files.map (·.1))).error = none ∧
        List.Forall₂ (IsReadFrom lone skip) files
          (loadFiles lone t p skip (files.map (·.1))).groups) ∨
      ∃ before file after e, files = before ++ file :: after ∧
        List.Forall₂ (IsReadFrom lone skip) before
          (loadFiles lone t p skip (files.map (·.1))).groups ∧
        (loadFiles lone t p skip (files.map (·.1))).error = some e ∧
        e.Blames (groupName file) (Breaks lone (groupName file) file.2)
  | [], _ => .inl ⟨rfl, .nil⟩
  | file :: rest, h => by
    obtain ⟨hname, hfile⟩ := h file List.mem_cons_self
    rw [List.map_cons, loadFiles_cons hplace hdir hname hfile]
    have hfails := ofBytes_fails lone file.2 (groupName file) skip
    have hnamed : ∀ g, (ofBytes lone file.2 (groupName file) skip).1 = .ok g →
        IsReadFrom lone skip file g := fun g hg => ⟨name_of_ofBytes hg, hg⟩
    generalize ofBytes lone file.2 (groupName file) skip = answer at hfails hnamed ⊢
    obtain ⟨result, warnings⟩ := answer
    cases result with
    | error e => exact .inr ⟨[], file, rest, e, rfl, .nil, rfl, hfails e rfl⟩
    | ok g =>
      -- 読めた組は残りの組の前に付き、失敗は残りの失敗がそのまま現れる
      rcases loadFiles_cases hplace hdir fun x hx => h x (List.mem_cons_of_mem file hx) with
        ⟨hnone, hgroups⟩ | ⟨before, failed, after, e, rfl, hgroups, herror, hblames⟩
      · exact .inl ⟨hnone, .cons (hnamed g rfl) hgroups⟩
      · exact .inr ⟨file :: before, failed, after, e, rfl, .cons (hnamed g rfl) hgroups, herror,
          hblames⟩

/--
**置き場の `.json` のファイルは、名前の順に読まれる。**

ファイルがなければ、置き場を示す規則の誤りになる。どのファイルも読めれば、語幹を名前とする組が同じ順に並ぶ。そうでなければ
読めない最初のファイルで止まり、失敗は、その語幹を `source` に持つ規則の誤りか、`Breaks` に挙げた中断である。
-/
theorem loadDirectory_blames (lone : Block) (hplace : t.resolve p = some dir)
    (hdir : t.isDirectory dir = true) (hfiles : t.HoldsFiles dir ".json") (skip : Bool) :
    ∃ files, t.Lists dir ".json" files ∧
      (files = [] ∧
          loadDirectory lone t p skip = directoryFailure (.noFiles p.toString) p.toString ∨
        files ≠ [] ∧ (loadDirectory lone t p skip).error = none ∧
          List.Forall₂ (IsReadFrom lone skip) files (loadDirectory lone t p skip).groups ∨
        ∃ before file after e, files = before ++ file :: after ∧
          List.Forall₂ (IsReadFrom lone skip) before (loadDirectory lone t p skip).groups ∧
          (loadDirectory lone t p skip).error = some e ∧
          e.Blames (groupName file) (Breaks lone (groupName file) file.2)) := by
  obtain ⟨files, hlists, hnames⟩ := FileTree.exists_lists hfiles
  have hat : t.isDirectoryAt p = true := by
    rw [FileTree.isDirectoryAt, hplace]
    exact hdir
  have hload : loadDirectory lone t p skip = if (files.map (·.1)).isEmpty
      then directoryFailure (.noFiles p.toString) p.toString
      else loadFiles lone t p skip (files.map (·.1)) := by
    rw [loadDirectory, FileTree.childrenAt, hplace, hat, ← hnames]
    rfl
  refine ⟨files, hlists, ?_⟩
  rw [hload]
  cases files with
  | nil => exact .inl ⟨rfl, rfl⟩
  | cons first rest =>
    refine .inr ((loadFiles_cases hplace hdir fun file hfile => ?_).imp_left fun h =>
      ⟨List.cons_ne_nil first rest, h⟩)
    obtain ⟨hsuffix, hbytes⟩ := (hlists.mem_iff file.1 file.2).mp hfile
    refine ⟨fun hup => ?_, hbytes⟩
    rw [hup] at hsuffix
    exact absurd hsuffix (by decide +kernel)

end Directory

/-- 置き場 `rules` にファイルのある木。 -/
def rulesTree (files : List (String × Bytes)) : FileTree where
  entries := files.map fun file => (["rules", file.1], .file file.2)

/-- 空の組と、途中で終わるデータ。 -/
def brokenRules : List (String × Bytes) :=
  [("b.json", Utf8.encode "[".toList),
    ("a.json", Utf8.encode "\x7b\"basePriority\":1,\"patterns\":[]\x7d".toList)]

/-- 途中で終わるデータは、その語幹を持つ規則の誤りになる。 -/
theorem loadDirectory_blames_broken :
    (rulesTree brokenRules).resolve ⟨"", ["rules"]⟩ = some ["rules"] ∧
      (rulesTree brokenRules).isDirectory ["rules"] = true ∧
      (rulesTree brokenRules).HoldsFiles ["rules"] ".json" ∧
      ∃ files, (rulesTree brokenRules).Lists ["rules"] ".json" files ∧
        ∃ before file after e, files = before ++ file :: after ∧
          List.Forall₂ (IsReadFrom .first false) before
            (loadDirectory .first (rulesTree brokenRules) ⟨"", ["rules"]⟩ false).groups ∧
          (loadDirectory .first (rulesTree brokenRules) ⟨"", ["rules"]⟩ false).error
            = some (.rule e) ∧
          e.source = some (groupName file) := by
  have hplace : (rulesTree brokenRules).resolve ⟨"", ["rules"]⟩ = some ["rules"] := by
    decide +kernel
  have hdir : (rulesTree brokenRules).isDirectory ["rules"] = true := by decide +kernel
  have hfiles : (rulesTree brokenRules).HoldsFiles ["rules"] ".json" := by
    decide +kernel
  have herror : (loadDirectory .first (rulesTree brokenRules) ⟨"", ["rules"]⟩ false).error
      = some (.rule {
        cause := .fileUnreadable "b" "Expecting value: line 1 column 2 (char 1)"
        source := some "b" }) := by decide +kernel
  refine ⟨hplace, hdir, hfiles, ?_⟩
  obtain ⟨files, hlists, ⟨-, hnone⟩ | ⟨-, hnone, -⟩ | ⟨before, file, after, e, hsplit, hgroups, he,
    hblames⟩⟩ := loadDirectory_blames .first hplace hdir hfiles false
  · rw [hnone] at herror
    exact absurd herror (by decide +kernel)
  · rw [hnone] at herror
    cases herror
  · cases he.symm.trans herror
    cases hblames with
    | rule hsource => exact ⟨files, hlists, before, file, after, _, hsplit, hgroups, he, hsource⟩

/-- 文字として読めないファイルがあると、規則の誤りとしては集められない中断で止まる。 -/
theorem loadDirectory_undecodable :
    (rulesTree [("bad.json", [0xff])]).resolve ⟨"", ["rules"]⟩ = some ["rules"] ∧
      (rulesTree [("bad.json", [0xff])]).isDirectory ["rules"] = true ∧
      (rulesTree [("bad.json", [0xff])]).HoldsFiles ["rules"] ".json" ∧
      (loadDirectory .first (rulesTree [("bad.json", [0xff])]) ⟨"", ["rules"]⟩ false).error
        = some (.interrupted (.undecodable
          "'utf-8' codec can't decode byte 0xff in position 0: invalid start byte")) := by
  decide +kernel

end RuleGroup

end Tategaki
