import Mathlib.Data.List.Basic
import Tategaki.Files.Tree

/-!
# ファイルの木への書き込み

書き込みが変えるのは、書いた場所だけである。ディレクトリはディレクトリのままなので、道筋の辿り方も変わらない
（`walk_mono`）。ディレクトリを作っても、ファイルは一つも変わらない（`makeDirectory_ok`）。

一つのディレクトリの直下にファイルを順に書くと、どの名前のファイルにも、その名前で最後に書いたものが残る
（`writeEach_under`）。同じ名前で先に書いたものは失われる。
-/

namespace Tategaki.FileTree

/-! ## 置いた木 -/

/-- 置くことで増える場所は、置いた場所だけである。 -/
theorem any_put (t : FileTree) (place : Place) (entry : FileEntry) (p : Place → Bool) :
    ((t.put place entry).entries.any fun e => p e.1)
      = ((t.entries.any fun e => p e.1) || p place) := by
  unfold put
  split
  · next h =>
    obtain ⟨found, hfound, hplace⟩ := List.any_eq_true.mp h
    have hkeys : ∀ e : Place × FileEntry, (if e.1 == place then (place, entry) else e).1 = e.1 := by
      intro e
      split
      · next he => exact (eq_of_beq he).symm
      · rfl
    simp only [List.any_map, Function.comp_def, hkeys]
    cases hp : p place with
    | false => simp
    | true =>
      rw [Bool.or_true, List.any_eq_true]
      exact ⟨found, hfound, by rw [eq_of_beq hplace, hp]⟩
  · simp

@[simp] theorem work_put (t : FileTree) (place : Place) (entry : FileEntry) :
    (t.put place entry).work = t.work := by
  unfold put
  split <;> rfl

/-- ディレクトリに置いたのでなければ、ディレクトリはディレクトリのままである。 -/
theorem isDirectory_put {t : FileTree} {place other : Place} {entry : FileEntry}
    (h : t.isDirectory other = true) (hplace : entry = .directory ∨ t.isDirectory place = false) :
    (t.put place entry).isDirectory other = true := by
  by_cases heq : other = place
  · subst heq
    rcases hplace with rfl | hplace
    · simp [isDirectory, lookup_put]
    · rw [h] at hplace
      cases hplace
  · unfold isDirectory at h ⊢
    rw [any_put t place entry fun q => other.length < q.length && q.take other.length == other,
      lookup_put_of_ne t entry heq]
    simp only [Bool.or_eq_true] at h ⊢
    exact h.imp_right .inl

/-- ディレクトリでない場所は、その下に何かを置かない限り、ディレクトリにならない。 -/
theorem not_isDirectory_put {t : FileTree} {place other : Place} {bytes : Bytes}
    (h : t.isDirectory other = false) (hlength : place.length ≤ other.length) :
    (t.put place (.file bytes)).isDirectory other = false := by
  unfold isDirectory at h ⊢
  simp only [Bool.or_eq_false_iff] at h
  rw [any_put t place _ fun q => other.length < q.length && q.take other.length == other,
    h.1.1, h.2]
  by_cases heq : other = place
  · simp [heq, lookup_put]
  · simp [lookup_put_of_ne t _ heq, h.1.2, Nat.not_lt.mpr hlength]

/-! ## 辿り方 -/

theorem walk_cons {t : FileTree} {place : Place} (h : t.isDirectory place = true) (part : String)
    (rest : List String) : t.walk place (part :: rest)
      = t.walk (if part == ".." then place.dropLast else place ++ [part]) rest := by
  rw [walk, if_neg (by simp [h])]
  split <;> rfl

/-- 道筋は、途中で区切って辿れる。 -/
theorem walk_append (t : FileTree) (place : Place) (first second : List String) :
    t.walk place (first ++ second) = (t.walk place first).bind fun p => t.walk p second := by
  induction first generalizing place with
  | nil => rfl
  | cons part rest ih =>
    rw [List.cons_append, walk, walk]
    split
    · rfl
    · split <;> exact ih _

/-- ディレクトリがなくならなければ、辿れた道筋は同じように辿れる。 -/
theorem walk_mono {t t' : FileTree} (h : ∀ p, t.isDirectory p = true → t'.isDirectory p = true) :
    ∀ {parts : List String} {place stop : Place}, t.walk place parts = some stop →
      t'.walk place parts = some stop
  | [], _, _, hwalk => hwalk
  | part :: rest, place, stop, hwalk => by
    by_cases hdir : t.isDirectory place = true
    · rw [walk_cons hdir] at hwalk
      rw [walk_cons (h place hdir), walk_mono h hwalk]
    · rw [walk, if_pos (by simpa using hdir)] at hwalk
      cases hwalk

/-- ディレクトリの直下の名前の場所。 -/
theorem resolve_under {t : FileTree} {p : FilePath} {dir : Place} {name : String}
    (hdir : t.resolve p = some dir) (h : t.isDirectory dir = true) (hname : name ≠ "..") :
    t.resolve (p.append ⟨"", [name]⟩) = some (dir ++ [name]) := by
  have hwalk : t.walk (t.startOf p) (p.parts ++ [name]) = some (dir ++ [name]) := by
    rw [walk_append, show t.walk (t.startOf p) p.parts = some dir from hdir]
    simp [walk, h, hname]
  exact hwalk

/-! ## ディレクトリを作る -/

/-- ディレクトリを作っただけの木。ディレクトリは増えるだけで、ファイルは変わらない。 -/
structure Grown (t t' : FileTree) : Prop where
  work : t'.work = t.work
  directories : ∀ p, t.isDirectory p = true → t'.isDirectory p = true
  files : ∀ p, t'.bytes? p = t.bytes? p

theorem Grown.refl (t : FileTree) : Grown t t := ⟨rfl, fun _ h => h, fun _ => rfl⟩

theorem Grown.trans {t t' t'' : FileTree} (h : Grown t t') (h' : Grown t' t'') : Grown t t'' :=
  ⟨h'.work.trans h.work, fun p hp => h'.directories p (h.directories p hp),
    fun p => (h'.files p).trans (h.files p)⟩

/-- ファイルのない場所をディレクトリにする。 -/
theorem grown_put {t : FileTree} {place : Place} (h : t.bytes? place = none) :
    Grown t (t.put place .directory) where
  work := work_put t place _
  directories p hp := isDirectory_put hp (.inl rfl)
  files p := by
    by_cases heq : p = place
    · subst heq
      rw [h]
      simp [bytes?, lookup_put]
    · simp [bytes?, lookup_put_of_ne t _ heq]

/-- なければ作ったディレクトリは、ディレクトリである。 -/
theorem grown_ensure {t : FileTree} {place : Place} (h : t.bytes? place = none) :
    Grown t (if t.isDirectory place then t else t.put place .directory) ∧
      (if t.isDirectory place then t else t.put place .directory).isDirectory place = true := by
  split
  · next hdir => exact ⟨.refl t, hdir⟩
  · exact ⟨grown_put h, by simp [isDirectory, lookup_put]⟩

/-- **ディレクトリを作れたら、道筋はディレクトリを指し、ファイルは一つも変わらない。** -/
theorem makeFrom_ok {shown : String} : ∀ {parts : List String} {place : Place} {t t' : FileTree},
    t.isDirectory place = true → t.makeFrom shown place parts = .ok t' →
      Grown t t' ∧ ∃ dir, t'.walk place parts = some dir ∧ t'.isDirectory dir = true
  | [], place, t, t', hplace, h => by
    rw [makeFrom, if_pos hplace] at h
    cases h
    exact ⟨.refl t, place, rfl, hplace⟩
  | part :: rest, place, t, t', hplace, h => by
    rw [makeFrom] at h
    generalize hnext : (if part == ".." then place.dropLast else place ++ [part]) = next at h
    split at h
    · split at h <;> cases h
    · next hnone =>
      obtain ⟨hgrown, hmade⟩ := grown_ensure (Option.not_isSome_iff_eq_none.mp hnone)
      obtain ⟨hrest, dir, hwalk, hdir⟩ := makeFrom_ok hmade h
      refine ⟨hgrown.trans hrest, dir, ?_, hdir⟩
      rw [walk_cons (hrest.directories _ (hgrown.directories _ hplace)), hnext, hwalk]

theorem makeDirectory_ok {t t' : FileTree} {p : FilePath} (hwork : t.isDirectory t.work = true)
    (h : t.makeDirectory p = .ok t') :
    Grown t t' ∧ ∃ dir, t'.resolve p = some dir ∧ t'.isDirectory dir = true := by
  have hstart : t.isDirectory (t.startOf p) = true := by
    unfold startOf
    split
    · exact hwork
    · rfl
  obtain ⟨hgrown, dir, hwalk, hdir⟩ := makeFrom_ok hstart h
  refine ⟨hgrown, dir, ?_, hdir⟩
  rw [resolve, startOf, hgrown.work]
  exact hwalk

/-! ## ファイルを順に書く -/

/-- 道筋のファイルの中身。 -/
def contentAt (t : FileTree) (p : FilePath) : Option Bytes := (t.resolve p).bind t.bytes?

/-- ディレクトリの直下に、ファイルを順に置く。 -/
def putFiles (t : FileTree) (dir : Place) (documents : List (String × Text)) : FileTree :=
  documents.foldl (fun t d => t.put (dir ++ [d.1]) (.file (Utf8.encode d.2))) t

@[simp] theorem putFiles_cons (t : FileTree) (dir : Place) (d : String × Text)
    (rest : List (String × Text)) :
    t.putFiles dir (d :: rest)
      = (t.put (dir ++ [d.1]) (.file (Utf8.encode d.2))).putFiles dir rest := rfl

/-- **置いた名前には、その名前で最後に置いたものがある。** -/
theorem bytes?_putFiles {dir : Place} (name : String) :
    ∀ (documents : List (String × Text)) (t : FileTree),
      (t.putFiles dir documents).bytes? (dir ++ [name])
        = ((documents.findRev? (·.1 == name)).map (Utf8.encode ·.2)).or
            (t.bytes? (dir ++ [name]))
  | [], t => rfl
  | d :: rest, t => by
    rw [putFiles_cons, bytes?_putFiles name rest, List.findRev?]
    by_cases hname : d.1 = name
    · subst hname
      cases rest.findRev? (·.1 == d.1) <;> simp [bytes?, lookup_put]
    · have hne : dir ++ [name] ≠ dir ++ [d.1] := by simpa using Ne.symm hname
      cases rest.findRev? (·.1 == name) <;> simp [bytes?, lookup_put_of_ne t _ hne, hname]

/-- **置かなかった場所は、変わらない。** -/
theorem lookup_putFiles_of_ne {dir other : Place} : ∀ (documents : List (String × Text))
    (t : FileTree), (∀ d ∈ documents, other ≠ dir ++ [d.1]) →
      (t.putFiles dir documents).lookup other = t.lookup other
  | [], _, _ => rfl
  | d :: rest, t, h => by
    rw [putFiles_cons, lookup_putFiles_of_ne rest _ fun x hx => h x (List.mem_cons_of_mem d hx),
      lookup_put_of_ne t _ (h d List.mem_cons_self)]

section Under

variable {p : FilePath} {dir : Place}

/-- ディレクトリの直下の、ディレクトリでない名前に書ける。 -/
structure Opens (t : FileTree) (p : FilePath) (dir : Place) (documents : List (String × Text)) :
    Prop where
  resolves : t.resolve p = some dir
  directory : t.isDirectory dir = true
  names : ∀ d ∈ documents, d.1 ≠ ".." ∧ t.isDirectory (dir ++ [d.1]) = false

/-- 一つ書いた後も、残りを書ける。 -/
theorem Opens.tail {t : FileTree} {d : String × Text} {rest : List (String × Text)}
    (h : t.Opens p dir (d :: rest)) :
    (t.put (dir ++ [d.1]) (.file (Utf8.encode d.2))).Opens p dir rest := by
  have hd := (h.names d List.mem_cons_self).2
  have hmono : ∀ q, t.isDirectory q = true →
      (t.put (dir ++ [d.1]) (.file (Utf8.encode d.2))).isDirectory q = true :=
    fun q hq => isDirectory_put hq (.inr hd)
  refine ⟨?_, hmono dir h.directory, ?_⟩
  · have hwalk := walk_mono hmono h.resolves
    rw [resolve, startOf, work_put]
    exact hwalk
  · intro x hx
    obtain ⟨hname, hx⟩ := h.names x (List.mem_cons_of_mem d hx)
    exact ⟨hname, not_isDirectory_put hx (by simp)⟩

/-- **ディレクトリの直下にファイルを順に書くことは、順に置くことである。** -/
theorem writeEach_under : ∀ {documents : List (String × Text)} {t : FileTree},
    t.Opens p dir documents →
      t.writeEach (documents.map fun d => (p.append ⟨"", [d.1]⟩, d.2))
          = (none, t.putFiles dir documents) ∧
        (t.putFiles dir documents).Opens p dir []
  | [], t, h => ⟨rfl, h⟩
  | d :: rest, t, h => by
    obtain ⟨hname, hd⟩ := h.names d List.mem_cons_self
    have hwrite : t.writeText (p.append ⟨"", [d.1]⟩) d.2
        = .ok (t.put (dir ++ [d.1]) (.file (Utf8.encode d.2))) := by
      rw [writeText, resolve_under h.resolves h.directory hname]
      simp [hd]
    obtain ⟨hrest, hopens⟩ := writeEach_under h.tail
    refine ⟨?_, hopens⟩
    rw [List.map_cons, writeEach, hwrite]
    exact hrest

/-- **書いた後、ディレクトリの直下の名前には、その名前で最後に書いたものがある。** -/
theorem contentAt_putFiles {documents : List (String × Text)} {t : FileTree}
    (h : t.Opens p dir documents) {name : String} (hname : name ≠ "..") :
    (t.putFiles dir documents).contentAt (p.append ⟨"", [name]⟩)
      = ((documents.findRev? (·.1 == name)).map (Utf8.encode ·.2)).or
          (t.contentAt (p.append ⟨"", [name]⟩)) := by
  have hafter := (writeEach_under h).2
  rw [contentAt, contentAt, resolve_under h.resolves h.directory hname,
    resolve_under hafter.resolves hafter.directory hname]
  exact bytes?_putFiles name documents t

end Under

end Tategaki.FileTree
