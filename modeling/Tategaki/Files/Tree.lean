import Tategaki.Files.Path
import Tategaki.Text.Utf8

/-!
# ファイルの木

見えるファイルの全体を値として持つ。ファイルは場所（根からの名前の列）とバイト列の対で、途中の
ディレクトリは書かれていなくてもある。相対の道筋は作業の場所から辿る。読み書きはこの値の上で
行われ、外の世界とのやり取りは最初に読み込み、最後に書き戻すところだけになる。
-/

namespace Tategaki

/-- 場所にあるもの。 -/
inductive FileEntry where
  | file (bytes : Bytes)
  | directory
  deriving DecidableEq, Repr

/-- 根からの名前の列。 -/
abbrev Place := List String

/-- ファイルの木。 -/
structure FileTree where
  entries : List (Place × FileEntry) := []
  /-- 作業の場所。 -/
  work : Place := []
  deriving DecidableEq, Repr

/-- 読み書きの失敗。 -/
inductive FileError where
  | isDirectory (path : String)
  | notFound (path : String)
  | notDirectory (path : String)
  | fileExists (path : String)
  | undecodable (e : Utf8.DecodeError)
  deriving DecidableEq, Repr

/-- 失敗の文面。 -/
def FileError.message : FileError → String
  | isDirectory path => "[Errno 21] Is a directory: " ++ String.ofList (Text.quoted path.toList)
  | notFound path =>
    "[Errno 2] No such file or directory: " ++ String.ofList (Text.quoted path.toList)
  | notDirectory path => "[Errno 20] Not a directory: " ++ String.ofList (Text.quoted path.toList)
  | fileExists path => "[Errno 17] File exists: " ++ String.ofList (Text.quoted path.toList)
  | undecodable e => e.message

namespace FileTree

/-! ## 調べる -/

/-- 場所に書かれたもの。 -/
def lookup (t : FileTree) (place : Place) : Option FileEntry :=
  (t.entries.find? (·.1 == place)).map (·.2)

/-- ディレクトリか。下に何かがある場所も含む。 -/
def isDirectory (t : FileTree) (place : Place) : Bool :=
  place.isEmpty || t.lookup place == some .directory
    || t.entries.any fun e => place.length < e.1.length && e.1.take place.length == place

/-- ファイルの中身。 -/
def bytes? (t : FileTree) (place : Place) : Option Bytes :=
  match t.lookup place with
  | some (.file bytes) => some bytes
  | _ => none

/-- 道筋を辿り始める場所。 -/
def startOf (t : FileTree) (p : FilePath) : Place := if p.root.isEmpty then t.work else []

/-- 道筋の部分を順に辿る。先へも一つ上へも、今いるところがディレクトリのときだけ行ける。根の
一つ上は根である。 -/
def walk (t : FileTree) : Place → List String → Option Place
  | place, [] => some place
  | place, part :: rest =>
    if !t.isDirectory place then none
    else if part == ".." then walk t place.dropLast rest
    else walk t (place ++ [part]) rest

/-- 道筋の場所。 -/
def resolve (t : FileTree) (p : FilePath) : Option Place := t.walk (t.startOf p) p.parts

/-- 道筋がディレクトリを指すか。 -/
def isDirectoryAt (t : FileTree) (p : FilePath) : Bool :=
  match t.resolve p with
  | some place => t.isDirectory place
  | none => false

/-- 道筋がファイルを指すか。 -/
def isFileAt (t : FileTree) (p : FilePath) : Bool :=
  match t.resolve p with
  | some place => (t.bytes? place).isSome
  | none => false

/-- 道筋に何かがあるか。 -/
def existsAt (t : FileTree) (p : FilePath) : Bool := t.isDirectoryAt p || t.isFileAt p

/-- 名前を順に加える。すでにあれば加えない。 -/
def insertName (name : String) : List String → List String
  | [] => [name]
  | x :: rest =>
    if x == name then x :: rest
    else if Text.before name x then name :: x :: rest
    else x :: insertName name rest

/-- ディレクトリの直下の名前を、code point の順に並べる。 -/
def children (t : FileTree) (place : Place) : List String :=
  (t.entries.filterMap fun e =>
    if e.1.take place.length == place then (e.1.drop place.length).head? else none).foldl
    (fun names name => insertName name names) []

/-- 道筋の直下の名前。 -/
def childrenAt (t : FileTree) (p : FilePath) : List String :=
  match t.resolve p with
  | some place => t.children place
  | none => []

/-! ## 読む -/

/-- ファイルを文字列として読む。改行の書き方は揃える。 -/
def readText (t : FileTree) (p : FilePath) : Except FileError Text :=
  match t.resolve p with
  | none => .error (.notFound p.toString)
  | some place =>
    match t.bytes? place with
    | some bytes =>
      match Utf8.decode bytes with
      | .ok s => .ok (Utf8.unifyLineEnds s)
      | .error e => .error (.undecodable e)
    | none =>
      if t.isDirectory place then .error (.isDirectory p.toString)
      else .error (.notFound p.toString)

/-- ファイルの名前と、読めるファイルの文。 -/
def texts (t : FileTree) : List Text :=
  t.entries.flatMap fun e =>
    let names := e.1.map (·.toList)
    match e.2 with
    | .file bytes => names ++ (Utf8.decode bytes).toOption.toList
    | .directory => names

/-! ## 書く -/

/-- 場所にあるものを置き換える。なければ加える。 -/
def put (t : FileTree) (place : Place) (entry : FileEntry) : FileTree :=
  if t.entries.any (·.1 == place) then
    { t with entries := t.entries.map fun e => if e.1 == place then (place, entry) else e }
  else { t with entries := t.entries ++ [(place, entry)] }

/-- 道筋の部分を順に辿り、ないディレクトリを作る。 -/
def makeFrom (t : FileTree) (shown : String) : Place → List String → Except FileError FileTree
  | place, [] => .ok (if t.isDirectory place then t else t.put place .directory)
  | place, part :: rest =>
    let next := if part == ".." then place.dropLast else place ++ [part]
    if (t.bytes? next).isSome then
      if rest.isEmpty then .error (.fileExists shown) else .error (.notDirectory shown)
    else makeFrom (if t.isDirectory next then t else t.put next .directory) shown next rest

/-- ディレクトリを、途中のものも含めて作る。すでにあればそのままにする。 -/
def makeDirectory (t : FileTree) (p : FilePath) : Except FileError FileTree :=
  t.makeFrom p.toString (t.startOf p) p.parts

/-- 文字列を書く。 -/
def writeText (t : FileTree) (p : FilePath) (text : Text) : Except FileError FileTree :=
  match t.resolve p with
  | none => .error (.notFound p.toString)
  | some place =>
    if t.isDirectory place then .error (.isDirectory p.toString)
    else .ok (t.put place (.file (Utf8.encode text)))

/-- 文字列を順に書く。書けないものがあればそこで止まり、それまでに書いたものは残る。 -/
def writeEach (t : FileTree) : List (FilePath × Text) → Option FileError × FileTree
  | [] => (none, t)
  | (p, text) :: rest =>
    match t.writeText p text with
    | .error e => (some e, t)
    | .ok t => writeEach t rest

/-- 置き換えた列の中で、置き換えたものが最初に見つかる。 -/
theorem find?_replace (entries : List (Place × FileEntry)) (place : Place) (entry : FileEntry)
    (h : entries.any (·.1 == place) = true) :
    (entries.map fun e => if e.1 == place then (place, entry) else e).find? (·.1 == place)
      = some (place, entry) := by
  induction entries with
  | nil => cases h
  | cons x rest ih =>
    by_cases hx : (x.1 == place) = true
    · simp only [List.map_cons, hx, if_pos]
      exact List.find?_cons_of_pos (by simp)
    · simp only [List.any_cons, Bool.or_eq_true] at h
      simp only [List.map_cons, hx]
      rw [List.find?_cons_of_neg (by simpa using hx)]
      exact ih (h.resolve_left hx)

/-- 置いたものは、その場所で見つかる。 -/
theorem lookup_put (t : FileTree) (place : Place) (entry : FileEntry) :
    (t.put place entry).lookup place = some entry := by
  unfold put lookup
  split
  · rename_i h
    rw [find?_replace t.entries place entry h]
    rfl
  · rename_i h
    have hnone : t.entries.find? (·.1 == place) = none := by
      rw [List.find?_eq_none]
      intro e he hp
      exact h (List.any_eq_true.mpr ⟨e, he, hp⟩)
    simp [List.find?_append, hnone]

/-- 置き換えても、ほかの場所で見つかるものは変わらない。 -/
theorem find?_replace_of_ne (entries : List (Place × FileEntry)) {place other : Place}
    (entry : FileEntry) (h : other ≠ place) :
    (entries.map fun e => if e.1 == place then (place, entry) else e).find? (·.1 == other)
      = entries.find? (·.1 == other) := by
  induction entries with
  | nil => rfl
  | cons x rest ih =>
    have hp : (place == other) = false := by simpa using Ne.symm h
    rw [List.map_cons, List.find?_cons, List.find?_cons, ih]
    by_cases hx : (x.1 == place) = true
    · have hxo : (x.1 == other) = false := by rw [eq_of_beq hx]; exact hp
      rw [if_pos hx, hxo, hp]
    · rw [if_neg hx]

/-- 置いても、ほかの場所のものは変わらない。 -/
theorem lookup_put_of_ne (t : FileTree) {place other : Place} (entry : FileEntry)
    (h : other ≠ place) : (t.put place entry).lookup other = t.lookup other := by
  unfold put lookup
  split
  · rw [find?_replace_of_ne t.entries entry h]
  · have hp : (place == other) = false := by simpa using Ne.symm h
    simp [List.find?_append, hp]

end FileTree

end Tategaki
