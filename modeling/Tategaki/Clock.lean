import Tategaki.Number.Basic

/-!
# 時計

走査は時計を読む手続きだけを知っている。手続きは内部の状態を受け取り、時刻と次の状態を返す。
ここに置くのは、読むたびに決まった量だけ進む時計である。
-/

namespace Tategaki

/-- 時計を読む手続き。 -/
abbrev ReadClock (τ : Type) := τ → Number × τ

/-- 読むたびに `step` だけ進む時計。 -/
structure SteadyClock where
  now : Number := .int 0
  step : Number := .int 0
  deriving DecidableEq, Repr

namespace SteadyClock

/-- 今の時刻を読む。読んだ後で進む。 -/
def read : ReadClock SteadyClock := fun c => (c.now, { c with now := c.now.add c.step })

/-- 針を動かす。 -/
def advance (c : SteadyClock) (by_ : Number) : SteadyClock := { c with now := c.now.add by_ }

/-- 整数の時刻で歩みが零なら、読んでも時刻は変わらない。 -/
theorem read_still (n : Int) : read ⟨.int n, .int 0⟩ = (.int n, ⟨.int n, .int 0⟩) := by
  simp [read, Number.add]

end SteadyClock

end Tategaki
