import Tategaki.Clock
import Tategaki.Rule.Registry

/-!
# 走査

文字列を左から右へ辿り、各位置で規則を順に試す。位置からちょうど始まる、空でない合い方を持つ
最初の規則が勝ち、その規則の段が作った節で置き換わる。勝ちの間の文字列はそのまま出る。

## 枠（フレーム）

段が組の文字列の走査を求めると、その文字列を新しい枠として、一段深いところで走査する。
位置はすべて、一番外側の文字列での位置に直して記録する。

## 区間

勝った区間は記録され、後からその中に位置が来たら、そこは読み飛ばされて出力もされない。
枠全体を覆う区間は、その枠を作った勝ちそのものなので、飛ばさない。

## 停止性

枠の深さは上限で、枠の中の位置は文字列の長さで抑えられる。深さの上限を一つ越えた枠は、始まりの
検めで必ず失敗する。

## 失敗

失敗しても、それまでに記録した区間、使った枠、時計の進みは残る。
-/

namespace Tategaki

/-! ## 区間 -/

/-- 規則が読んだ区間 `[start, stop)`。 -/
structure ProcessedRange where
  start : Int
  stop : Int
  patternName : String
  deriving DecidableEq, Repr

namespace ProcessedRange

/-- 位置が区間に入るか。 -/
def contains (r : ProcessedRange) (p : Int) : Bool := r.start ≤ p && p < r.stop

theorem contains_iff {r : ProcessedRange} {p : Int} :
    r.contains p = true ↔ r.start ≤ p ∧ p < r.stop := by
  simp only [contains, Bool.and_eq_true, decide_eq_true_eq]

/-- 枠全体を覆うか。 -/
def covers (r : ProcessedRange) (frameStart frameStop : Int) : Bool :=
  r.start ≤ frameStart && frameStop ≤ r.stop

theorem covers_iff {r : ProcessedRange} {frameStart frameStop : Int} :
    r.covers frameStart frameStop = true ↔ r.start ≤ frameStart ∧ frameStop ≤ r.stop := by
  simp only [covers, Bool.and_eq_true, decide_eq_true_eq]

/-- 位置を塞ぐ最初の区間。枠全体を覆うものは除く。 -/
def blocking? (ranges : List ProcessedRange) (p frameStart frameStop : Int) :
    Option ProcessedRange :=
  ranges.find? fun r => r.contains p && !r.covers frameStart frameStop

end ProcessedRange

/-! ## 失敗 -/

/-- 走査の失敗。 -/
inductive ScanError where
  | timeout (elapsed : Number) (limit : Seconds)
  | tooDeep (depth : Int) (limit : Whole) (chain : List String)
  | budget (e : BudgetExceeded)
  | transform (e : TransformError)
  deriving DecidableEq, Repr

/-- 失敗の文面。 -/
def ScanError.message : ScanError → String
  | timeout elapsed limit =>
    let spent := elapsed.fixed 2
    let allowed := limit.text
    s!"Processing timed out after {spent}s (limit {allowed}s)"
  | tooDeep depth limit chain =>
    let allowed := limit.text
    let joined := String.intercalate " > " chain
    let path := if joined.isEmpty then "(root)" else joined
    s!"Recursion depth {depth} exceeds {allowed}: {path}"
  | budget e => e.message
  | transform e => e.message

/-! ## 文脈と状態 -/

/-- 枠の文脈。深さと、始めた時刻と、ここに至る規則の名前。 -/
structure Context where
  depth : Int := 0
  startTime : Number
  chain : List String := []
  deriving DecidableEq, Repr

/-- 規則の中の一段深い文脈。 -/
def Context.child (c : Context) (name : String) : Context :=
  { c with depth := c.depth + 1, chain := c.chain ++ [name] }

/-- 勝ちの記録。 -/
structure Win where
  patternName : String
  matched : Text
  position : Int
  depth : Int
  deriving DecidableEq, Repr

/-- 走査の状態。 -/
structure ScanState (τ : Type) where
  /-- 記録した区間。古い順に並ぶ。 -/
  ranges : List ProcessedRange := []
  /-- 文脈の枠。なければ登録簿の枠を使う。 -/
  own : Option Budget := none
  /-- 登録簿の枠。 -/
  shared : Budget
  /-- 時計。 -/
  clock : τ
  /-- 時計を読んだ回数。 -/
  reads : Nat := 0
  /-- 勝ちの記録。新しい順に並ぶ。 -/
  wins : List Win := []

namespace ScanState

variable {τ : Type}

/-- 時計を読む。 -/
def readClock (read : ReadClock τ) (st : ScanState τ) : Number × ScanState τ :=
  let (now, clock) := read st.clock
  (now, { st with clock, reads := st.reads + 1 })

/-- 効いている枠。 -/
def budget (st : ScanState τ) : Budget := st.own.getD st.shared

/-- 効いている枠を一つ使う。断られたら状態は変わらない。 -/
def charge (st : ScanState τ) (name : String) : Except BudgetExceeded (ScanState τ) :=
  match st.own with
  | some b => (b.charge (some name)).map fun b => { st with own := some b }
  | none => (st.shared.charge (some name)).map fun b => { st with shared := b }

/-- 勝ちと、その区間を記録する。 -/
def record (st : ScanState τ) (range : ProcessedRange) (win : Win) : ScanState τ :=
  { st with ranges := st.ranges ++ [range], wins := win :: st.wins }

@[simp] theorem record_ranges (st : ScanState τ) (range : ProcessedRange) (win : Win) :
    (st.record range win).ranges = st.ranges ++ [range] := rfl

end ScanState

/-! ## 走査器 -/

/-- 走査器。規則は試す順に並ぶ。 -/
structure Scanner (τ : Type) where
  rules : List Rule
  limits : Limits
  read : ReadClock τ

namespace Scanner

variable {τ : Type}

/-- 登録簿の規則で走査するもの。 -/
def ofRegistry (r : Registry) (limits : Limits) (read : ReadClock τ) : Scanner τ :=
  ⟨r.activeRules, limits, read⟩

/-- 結果と、そのときの状態。 -/
abbrev Result (τ α : Type) := Except ScanError α × ScanState τ

/-- 新しい文脈。時計を一度読む。 -/
def newContext (sc : Scanner τ) (st : ScanState τ) : Context × ScanState τ :=
  let (now, st) := st.readClock sc.read
  ({ startTime := now }, st)

/-- 経過時間と深さを検める。 -/
def validate (sc : Scanner τ) (ctx : Context) (st : ScanState τ) :
    Option ScanError × ScanState τ :=
  let (now, st) := st.readClock sc.read
  let elapsed := now.sub ctx.startTime
  if sc.limits.timeout.value.lt elapsed then (some (.timeout elapsed sc.limits.timeout), st)
  else if sc.limits.maxDepth.value < ctx.depth then
    (some (.tooDeep ctx.depth sc.limits.maxDepth ctx.chain), st)
  else (none, st)

/-- 位置で勝つ規則と、その合い方。 -/
def winner? (rules : List Rule) (input : Array Char) (position : Nat) :
    Option (Rule × Regex.Match) :=
  rules.findSome? fun r => (r.matchAt input position).map (r, ·)

/-- `[start, stop)` の文字列の節。空なら何も出さない。 -/
def gap (text : Text) (start stop : Nat) : List Node :=
  if start < stop then [.text (Text.slice text start stop)] else []

/-- 走査する一つの枠。 -/
structure Frame where
  ctx : Context
  text : Text
  /-- 照合に使う、同じ文字列。 -/
  input : Array Char
  /-- 一番外側の文字列での始まりの位置。 -/
  offset : Int

/-- 枠の中を `position` から走査する。`last` はまだ出していない文字列の始まり。 -/
def loop (sc : Scanner τ) (frame : Frame) (rescan : String → Rescan (ScanState τ) ScanError) :
    Nat → Nat → Nat → ScanState τ → Result τ (List Node)
  | 0, _, last, st => (.ok (gap frame.text last frame.text.length), st)
  | fuel + 1, position, last, st =>
    if position < frame.text.length then
      match sc.validate frame.ctx st with
      | (some e, st) => (.error e, st)
      | (none, st) =>
        let stop := frame.offset + frame.text.length
        match ProcessedRange.blocking? st.ranges (frame.offset + position) frame.offset stop with
        | some range =>
          let consumed := max (range.start - frame.offset).toNat last
          let next := min (range.stop - frame.offset).toNat frame.text.length
          match loop sc frame rescan fuel next next st with
          | (.ok rest, st) => (.ok (gap frame.text last consumed ++ rest), st)
          | (.error e, st) => (.error e, st)
        | none =>
          match winner? sc.rules frame.input position with
          | none => loop sc frame rescan fuel (position + 1) last st
          | some (rule, found) =>
            let range : ProcessedRange :=
              ⟨frame.offset + found.start, frame.offset + found.stop, rule.name⟩
            let matched := Text.slice frame.text found.start found.stop
            let st := st.record range
              ⟨rule.name, matched, frame.offset + found.start, frame.ctx.depth⟩
            match st.charge rule.name with
            | .error e => (.error (.budget e), st)
            | .ok st =>
              match rule.process frame.text found (some (rescan rule.name)) .transform st with
              | (.error e, st) => (.error e, st)
              | (.ok produced, st) =>
                match loop sc frame rescan fuel found.stop found.stop st with
                | (.ok rest, st) =>
                  (.ok (gap frame.text last found.start ++ produced ++ rest), st)
                | (.error e, st) => (.error e, st)
    else (.ok (gap frame.text last frame.text.length), st)

/-- 枠を走査する。`levels` はこれより深くできる段数に一を足したもの。 -/
def scanFrame (sc : Scanner τ) :
    Nat → Context → Text → Int → ScanState τ → Result τ (List Node)
  | 0, ctx, _, _, st =>
    match sc.validate ctx st with
    | (some e, st) => (.error e, st)
    | (none, st) => (.ok [], st)
  | levels + 1, ctx, text, offset, st =>
    match sc.validate ctx st with
    | (some e, st) => (.error e, st)
    | (none, st) =>
      let rescan (name : String) : Rescan (ScanState τ) ScanError := fun segment start st =>
        scanFrame sc levels (ctx.child name) segment (offset + start) st
      loop sc ⟨ctx, text, text.toArray, offset⟩ rescan text.length 0 0 st

/-- 深さ `depth` から始めたときの `scanFrame` の段数。 -/
def levels (limits : Limits) (depth : Int) : Nat := (limits.maxDepth.value - depth + 1).toNat

/-- 一番外側の文字列の `offset` から始まる文字列を走査する。 -/
def scanAt (sc : Scanner τ) (ctx : Context) (text : Text) (offset : Int) (st : ScanState τ) :
    Result τ (List Node) :=
  sc.scanFrame (levels sc.limits ctx.depth) ctx text offset st

/-- 文字列全体を走査する。 -/
def scan (sc : Scanner τ) (ctx : Context) (text : Text) (st : ScanState τ) :
    Result τ (List Node) :=
  sc.scanAt ctx text 0 st

end Scanner

end Tategaki
