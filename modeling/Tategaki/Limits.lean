import Tategaki.Json.Basic

/-!
# 処理の上限

入れ子の深さ、一回の変換で規則を適用できる回数、経過時間の三つを制限する。値は設定に書かれた
種類のまま文面に現れるので、`true` と書かれた上限（1 として働く）や、整数と小数の違いを保つ。
-/

namespace Tategaki

/-- 整数の設定値。真と書かれたものは 1 として働く。 -/
inductive Whole where
  | number (n : Int)
  | yes
  deriving DecidableEq, Repr

namespace Whole

/-- 値。 -/
def value : Whole → Int
  | number n => n
  | yes => 1

/-- 書かれたとおりの表記。 -/
def text : Whole → String
  | number n => toString n
  | yes => "True"

end Whole

/-- 秒数の設定値。 -/
inductive Seconds where
  | number (x : Number)
  | yes
  deriving DecidableEq, Repr

namespace Seconds

/-- 値。 -/
def value : Seconds → Number
  | number x => x
  | yes => .int 1

/-- 書かれたとおりの表記。 -/
def text : Seconds → String
  | number x => x.text
  | yes => "True"

end Seconds

/-- 処理の上限。 -/
structure Limits where
  /-- 走査を入れ子にできる深さ。 -/
  maxDepth : Whole := .number 10
  /-- 規則を適用できる回数。 -/
  maxIterations : Whole := .number 1000
  /-- 経過時間の上限。 -/
  timeout : Seconds := .number (.float (Binary64.ofInt 10))
  deriving DecidableEq, Repr

/-- 上限の設定の誤り。 -/
inductive LimitsError where
  | depth
  | iterations
  | timeout
  deriving DecidableEq, Repr

/-- 誤りの文面。 -/
def LimitsError.message : LimitsError → String
  | depth => "max_recursion_depth must be a positive integer."
  | iterations => "max_pattern_iterations must be a positive integer."
  | timeout => "pattern_timeout must be a positive number of seconds."

namespace Limits

/-- 正の整数の設定値。`null` なら既定値を使う。 -/
def readWhole (fallback : Whole) : Json → Option Whole
  | .null => some fallback
  | .int n => if 1 ≤ n then some (.number n) else none
  | .bool true => some .yes
  | _ => none

/-- 正の秒数の設定値。`null` なら既定値を使う。 -/
def readSeconds (fallback : Seconds) : Json → Option Seconds
  | .null => some fallback
  | .int n => if 1 ≤ n then some (.number (.int n)) else none
  | .float x => if (Number.float x).isNonpositive then none else some (.number (.float x))
  | .bool true => some .yes
  | _ => none

/-- 設定の項目から上限を作る。知らない項目は無視する。 -/
def ofFields (fields : List (String × Json)) : Except LimitsError Limits :=
  let base : Limits := {}
  match readWhole base.maxDepth (Json.get fields "max_recursion_depth"),
      readWhole base.maxIterations (Json.get fields "max_pattern_iterations"),
      readSeconds base.timeout (Json.get fields "pattern_timeout") with
  | some d, some i, some t => .ok ⟨d, i, t⟩
  | none, _, _ => .error .depth
  | some _, none, _ => .error .iterations
  | some _, some _, none => .error .timeout

/-- 整数の設定値として読めたものは正である。 -/
theorem one_le_readWhole {fallback w : Whole} {v : Json} (hf : 1 ≤ fallback.value)
    (h : readWhole fallback v = some w) : 1 ≤ w.value := by
  unfold readWhole at h
  split at h
  · simp_all
  · rename_i n
    split at h
    · cases h; simpa [Whole.value]
    · cases h
  · cases h; simp [Whole.value]
  · cases h

end Limits

end Tategaki
