import Tategaki.Chapter.Document
import Tategaki.Chapter.Typeset
import Tategaki.Markup.Sanitize
import Tategaki.Scanner.Stack

/-!
# 章の変換

章の印付けと題名から、縦組みの文書を作る。印付けを整え、題名を見出しとして先頭に置き、木を組んで
書き出し、雛形に入れて検める。

章ごとに新しい文脈と適用回数の枠を使うので、一つの変換器で何章でも変換できる。枠を渡せば、その枠を
使い、使った後の枠を返す。登録簿の枠は使わない。
-/

namespace Tategaki.Chapter

open Markup Surrogate

/-! ## 失敗 -/

/-- 変換の失敗。 -/
inductive ConvertError where
  | emptyHtml
  | titleNotText (kind : String)
  | scan (e : ScanError)
  /-- 走査の枠を積む場所がない。 -/
  | exhausted
  | unreadable (e : ReadError)
  | malformed (p : Position)
  /-- 文書に、規則の書いた代用符号位置がある。 -/
  | unencodable (run : LoneRun)
  deriving DecidableEq, Repr

namespace ConvertError

/-- 失敗の文面。 -/
def message : ConvertError → String
  | emptyHtml => "HTML content is empty"
  | titleNotText kind => s!"Chapter title must be a string, got {kind}"
  | scan e => e.message
  | exhausted => "XHTML conversion failed: " ++ StackError.exhausted.message
  | unreadable e => "XHTML conversion failed: " ++ e.report
  | malformed p =>
    let line := p.line
    let column := p.column
    "Generated XHTML is not well-formed: not well-formed (invalid token): "
      ++ s!"line {line}, column {column}"
  | unencodable run => run.message

/-- 章の失敗として報告できるか。できないものは、変換の全体を止める。 -/
def isReported : ConvertError → Bool
  | unencodable _ => false
  | _ => true

end ConvertError

/-! ## 変換器 -/

/-- 章の変換器。 -/
structure Converter (τ : Type) where
  registry : Registry
  limits : Limits
  stylesheet : String := stylesheetName
  read : ReadClock τ
  /-- 規則の文字列で、対にならない代用符号の代わりをする区画。どの規則も代用符号を持たなければ、代わりは
  いらない。 -/
  lone : Option Block := none
  /-- 走査の枠を積める段数。`none` は、いくらでも積めることを表す。 -/
  room : Option Nat := none

/-- 変換の結果。 -/
structure Conversion (τ : Type) where
  outcome : Except ConvertError Text
  /-- 使った後の枠。 -/
  budget : Budget
  clock : τ
  /-- 勝ちの記録。新しい順に並ぶ。 -/
  wins : List Win := []

/-- 確かめた依頼。 -/
structure Request where
  html : Text
  title : Text
  deriving DecidableEq, Repr

/-- 題名がないときの題名。 -/
def defaultTitle : Text := "Chapter".toList

/-- 依頼を確かめる。題名は両端の空白を落とし、空なら既定の題名にする。 -/
def readRequest (html title : Json) : Except ConvertError Request :=
  match html with
  | .str s =>
    if (Unicode.strip s.toList).isEmpty then .error .emptyHtml
    else
      match title with
      | .null => .ok ⟨s.toList, defaultTitle⟩
      | .str t =>
        let t := Unicode.strip t.toList
        .ok ⟨s.toList, if t.isEmpty then defaultTitle else t⟩
      | v => .error (.titleNotText v.kindName)
  | _ => .error .emptyHtml

/-- 見出しを先頭に置く。 -/
def withHeading (title : Text) (tree : Fragment) : Fragment :=
  .element "h1" [] (.text title .nil) tree

/-- 文書を検める。代用符号位置があれば符号化できず、書けない文字があれば読み直せない。 -/
def verify (block : Option Block) (document : Text) : Except ConvertError Text :=
  match block.bind fun b => b.firstRun? 0 document with
  | some run => .error (.unencodable run)
  | none =>
    match forbiddenAt? {} document with
    | some p => .error (.malformed p)
    | none => .ok document

namespace Converter

variable {τ : Type}

/-- 変換器を作る。登録簿を渡さないか、渡した登録簿が空なら、備え付けの規則を使う。 -/
def create (registry : Option Registry) (limits : Option Limits) (stylesheet : String)
    (read : ReadClock τ) (lone : Option Block := none) (room : Option Nat := none) :
    Converter τ :=
  let bundled := Registry.bundled (limits.getD {})
  let registry := match registry with
    | some r => if r.size == 0 then bundled else r
    | none => bundled
  { registry, limits := limits.getD registry.limits, stylesheet, read, lone, room }

/-- 走査の枠を積める一番の深さ。 -/
def deepest (c : Converter τ) : Option Int := c.room.map Int.ofNat

/-- 変換器の走査器。枠を積めるところまでを走査する。 -/
def scanner (c : Converter τ) : Scanner τ :=
  (Scanner.ofRegistry c.registry c.limits c.read).within c.deepest

/-- 積める段数は、走査を始める枠の深さを妨げない。 -/
theorem scanner_depth_nonneg {c : Converter τ} (h : 0 ≤ c.limits.maxDepth.value) :
    0 ≤ c.scanner.limits.maxDepth.value := by
  show 0 ≤ (c.limits.within (c.room.map Int.ofNat)).maxDepth.value
  cases c.room with
  | none => rwa [Option.map_none, Limits.within_none]
  | some n =>
    rw [Option.map_some]
    by_cases hle : c.limits.maxDepth.value ≤ Int.ofNat n
    · rwa [Limits.within_of_le hle]
    · rw [Limits.within_of_lt (Int.not_le.mp hle)]
      exact Int.natCast_nonneg n

@[simp] theorem scanner_timeout (c : Converter τ) :
    c.scanner.limits.timeout = c.limits.timeout := Limits.within_timeout _ _

/-- 走査の失敗を、変換の失敗として見る。 -/
def stopped (c : Converter τ) (e : ScanError) : ConvertError :=
  match StackError.ofScan c.limits c.deepest e with
  | .scan e => .scan e
  | .exhausted => .exhausted

/-- 章ごとの新しい枠。 -/
def newBudget (c : Converter τ) : Budget := { ceiling := c.limits.maxIterations }

/-- 確かめた依頼から、検める前の文書を作る。 -/
def draft (c : Converter τ) (ctx : Context) (request : Request) (st : ScanState τ) :
    Except ConvertError Text × ScanState τ :=
  match sanitize request.html with
  | .error e => (.error (.unreadable e), st)
  | .ok sanitized =>
    match Markup.read sanitized with
    | .error e => (.error (.unreadable e), st)
    | .ok tree =>
      let done := process c.scanner ctx (withHeading request.title tree) st
      match done.error with
      | some e => (.error (c.stopped e), done.state)
      | none =>
        let document : Document := ⟨request.title, c.stylesheet.toList, write done.tree⟩
        (.ok document.render, done.state)

/-- 確かめた依頼から文書を作り、検める。 -/
def compose (c : Converter τ) (ctx : Context) (request : Request) (st : ScanState τ) :
    Except ConvertError Text × ScanState τ :=
  let (document, st) := c.draft ctx request st
  (document.bind (verify c.lone), st)

/-- 章を変換する。 -/
def convert (c : Converter τ) (html title : Json) (budget : Option Budget) (clock : τ) :
    Conversion τ :=
  let budget := budget.getD c.newBudget
  match readRequest html title with
  | .error e => { outcome := .error e, budget, clock }
  | .ok request =>
    let start : ScanState τ := { own := some budget, shared := c.registry.budget, clock }
    let (ctx, st) := c.scanner.newContext start
    let (outcome, st) := c.compose ctx request st
    { outcome, budget := st.own.getD budget, clock := st.clock, wins := st.wins }

/-! ## 何章もの変換 -/

/-- 章を順に変換する。章ごとに新しい枠を使う。 -/
def convertEach (c : Converter τ) : List (Json × Json) → τ → List (Conversion τ)
  | [], _ => []
  | (html, title) :: rest, clock =>
    let done := c.convert html title none clock
    done :: convertEach c rest done.clock

/-- 章を順に変換する。一つの枠を使い回す。 -/
def convertShared (c : Converter τ) : List (Json × Json) → Budget → τ → List (Conversion τ)
  | [], _, _ => []
  | (html, title) :: rest, budget, clock =>
    let done := c.convert html title (some budget) clock
    done :: convertShared c rest done.budget done.clock

end Converter

/-- 一章の結果。 -/
structure ChapterResult where
  index : Nat
  title : Json
  outcome : Except ConvertError Text

/-- 何章もの変換の失敗。 -/
inductive BatchError where
  | noWorkers
  | unencodable (run : LoneRun)
  deriving DecidableEq, Repr

/-- 失敗の文面。 -/
def BatchError.message : BatchError → String
  | noWorkers => "max_workers must be greater than 0"
  | unencodable run => run.message

/-- 章として報告できない失敗のうち、最初のもの。 -/
def firstUnreported? (results : List (Except ConvertError Text)) : Option LoneRun :=
  results.findSome? fun
    | .error (.unencodable run) => some run
    | _ => none

/-- 章ごとの結果をまとめる。 -/
def collect (titles : List Json) (results : List (Except ConvertError Text)) :
    Except BatchError (List ChapterResult) :=
  match firstUnreported? results with
  | some run => .error (.unencodable run)
  | none =>
    .ok ((titles.zip results).zipIdx.map fun ((title, outcome), index) => ⟨index, title, outcome⟩)

/-- 何章もまとめて変換する。結果は章の順に並び、失敗した章はその結果に失敗を持つ。`workers` は
同時に働く手の数で、結果は変えない。 -/
def Converter.convertChapters {τ : Type} (c : Converter τ) (workers : Option Int)
    (chapters : List (Json × Json)) (clock : τ) : Except BatchError (List ChapterResult) :=
  if workers.any (· < 1) then .error .noWorkers
  else collect (chapters.map (·.2)) ((c.convertEach chapters clock).map (·.outcome))

end Tategaki.Chapter
