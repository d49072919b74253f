import Tategaki.Command.Dispatch

/-!
# 命令行の入口

語の指す場所のまわりを読み込んでファイルの木を作り、命令を実行し、変わったものを書き戻して、報告を
書く。命令の働きはすべて値の上で決まり、ここにあるのは外の世界とのやり取りだけである。時計は止めて
あるので、経過時間の上限には届かない。
-/

namespace Tategaki.Entry

open Command

/-! ## 読み込む -/

/-- 場所の綴り。 -/
def spell (place : Place) : String := "/" ++ String.intercalate "/" place

/-- 道筋の場所。 -/
def placeOf (work : Place) (path : FilePath) : Place :=
  path.parts.foldl (fun place part => if part == ".." then place.dropLast else place ++ [part])
    (if path.root.isEmpty then work else [])

/-- 語が指すかもしれない道筋。 -/
def pathsIn {τ : Type} (w : World τ) (word : String) : List FilePath :=
  let (name, value) := splitAssignment word.toList
  [word.toList, name.drop 2, value.getD []].filterMap w.expand?

/-- 場所にあるものと、ディレクトリなら直下の名前。 -/
def entryAt (place : Place) : IO (Option (FileEntry × List String)) := do
  try
    let real ← IO.FS.realPath (spell place)
    if ← real.isDir then
      let inside ← real.readDir
      return some (.directory, inside.toList.map (·.fileName))
    else
      let bytes ← IO.FS.readBinFile real
      return some (.file bytes.toList, [])
  catch _ => return none

/-- 場所にあるものを木に加える。 -/
def loadOne (files : FileTree) (place : Place) : IO FileTree := do
  match ← entryAt place with
  | some (entry, _) => return files.put place entry
  | none => return files

/-- 場所と、その直下にあるものを木に加える。 -/
def loadNear (files : FileTree) (place : Place) : IO FileTree := do
  match ← entryAt place with
  | some (entry, names) =>
    let mut files := files.put place entry
    for name in names do
      files ← loadOne files (place ++ [name])
    return files
  | none => return files

/-- 語の指す場所のまわりの木。途中のディレクトリと、隣の様式も読む。 -/
def loadAround {τ : Type} (w : World τ) (words : List String) : IO FileTree := do
  let mut files := w.files
  for word in words do
    for path in pathsIn w word do
      let place := placeOf files.work path
      for depth in List.range place.length do
        let above := place.take depth
        if (files.lookup above).isNone then
          if let some (.directory, _) ← entryAt above then
            files := files.put above .directory
      files ← loadNear files place
      files ← loadNear files (place ++ ["xhtml"])
      files ← loadOne files (place.dropLast ++ [Chapter.stylesheetName])
  return files

/-! ## 書き戻す -/

/-- 変わったものを書く。 -/
def writeBack (before after : FileTree) : IO Unit := do
  for (place, entry) in after.entries do
    if before.lookup place != some entry then
      match entry with
      | .directory => IO.FS.createDirAll (spell place)
      | .file bytes => IO.FS.writeBinFile (spell place) ⟨bytes.toArray⟩

/-- 行を書く。 -/
def putLines (stream : IO.FS.Stream) (lines : List Text) : IO Unit := do
  for line in lines do
    stream.putStrLn (String.ofList line)

/-- 報告を書き、終わりの番号を返す。 -/
def announce (report : Report) : IO UInt32 := do
  let output ← IO.getStdout
  let log ← IO.getStderr
  putLines log (report.warnings.map (·.toList))
  putLines log report.log
  output.putStr (String.ofList report.output)
  putLines output (report.table.elim [] Table.render)
  output.flush
  match report.ending with
  | .code n => return n.toUInt32
  | .message text =>
    log.putStrLn text
    return 1
  | .crash kind text =>
    log.putStrLn (kind ++ ": " ++ text)
    return 1

/-! ## 実行する -/

/-- まわりを読み、命令行を実行し、書き戻す。 -/
def start (words : List String) : IO UInt32 := do
  let work := FilePath.ofString (← IO.currentDir).toString
  let home ← IO.getEnv "HOME"
  let bare : World SteadyClock :=
    { files := { entries := [(work.parts, .directory)], work := work.parts }
      home, read := SteadyClock.read, clock := {}, room := some Scanner.usualRoom }
  let files ← loadAround bare words
  let report := Command.run { bare with files } words
  writeBack files report.files
  announce report

end Tategaki.Entry

/-- 命令行を実行する。 -/
def main (words : List String) : IO UInt32 := Tategaki.Entry.start words
