import Tategaki.Scanner

/-!
# 枠を積む場所

入れ子の走査は、呼び出しとして積まれる。積む場所には限りがあり、深さの上限がそれより大きいと、上限に達する前に
場所がなくなる。そのとき走査は、深さの失敗としてではなく、積めないという失敗で止まる。

一段の走査には五つの呼び出しが積まれるので、千まで積める処理系なら二百段に満たない。正確な段数は、走査を始める
までに積まれている呼び出しの数で変わるので、入れ子にできる段数を値として渡す。

場所が足りるかどうかは、深さの上限を入る段数まで縮めて走査すると分かる。縮めた上限のために止まれば、その枠を積む
場所がなかったのである。
-/

namespace Tategaki

/-- 深さの上限を、枠を積める一番の深さまで縮める。`none` は、いくらでも積めることを表す。 -/
def Limits.within (limits : Limits) : Option Int → Limits
  | none => limits
  | some deepest =>
    if limits.maxDepth.value ≤ deepest then limits else { limits with maxDepth := .number deepest }

namespace Limits

@[simp] theorem within_none (limits : Limits) : limits.within none = limits := rfl

theorem within_of_le {limits : Limits} {deepest : Int} (h : limits.maxDepth.value ≤ deepest) :
    limits.within (some deepest) = limits := if_pos h

theorem within_of_lt {limits : Limits} {deepest : Int} (h : deepest < limits.maxDepth.value) :
    limits.within (some deepest) = { limits with maxDepth := .number deepest } :=
  if_neg (Int.not_le.mpr h)

@[simp] theorem within_timeout (limits : Limits) (deepest : Option Int) :
    (limits.within deepest).timeout = limits.timeout := by
  cases deepest with
  | none => rfl
  | some deepest =>
    by_cases h : limits.maxDepth.value ≤ deepest
    · rw [within_of_le h]
    · rw [within_of_lt (Int.not_le.mp h)]

end Limits

/-- 積む場所に限りがある走査の失敗。 -/
inductive StackError where
  | scan (e : ScanError)
  /-- 枠を積む場所がない。 -/
  | exhausted
  deriving DecidableEq, Repr

namespace StackError

/-- 失敗の文面。 -/
def message : StackError → String
  | scan e => e.message
  | exhausted => "maximum recursion depth exceeded"

/-- 縮めた上限での失敗を読む。縮めたために深すぎたのなら、積む場所がなかったのである。 -/
def ofScan (limits : Limits) (deepest : Option Int) : ScanError → StackError
  | .tooDeep depth limit chain =>
    if deepest.any (· < limits.maxDepth.value) then exhausted
    else scan (.tooDeep depth limit chain)
  | e => scan e

end StackError

namespace Scanner

variable {τ : Type}

/-- 呼び出しを千まで積める処理系で、浅いところから始めた走査に入る段数。 -/
def usualRoom : Nat := 197

/-- 枠を積める深さまでを走査するもの。 -/
def within (sc : Scanner τ) (deepest : Option Int) : Scanner τ :=
  { sc with limits := sc.limits.within deepest }

@[simp] theorem within_rules (sc : Scanner τ) (deepest : Option Int) :
    (sc.within deepest).rules = sc.rules := rfl

/-- 始めの枠の下に `room` 段まで積めるところで、文字列全体を走査する。 -/
def scanWithin (sc : Scanner τ) (room : Option Nat) (ctx : Context) (text : Text)
    (st : ScanState τ) : Except StackError (List Node) × ScanState τ :=
  let deepest := room.map fun n : Nat => ctx.depth + (n : Int)
  let (result, st) := (sc.within deepest).scan ctx text st
  (result.mapError (StackError.ofScan sc.limits deepest), st)

end Scanner

end Tategaki
