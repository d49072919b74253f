import Tategaki.Unicode.Blank

/-!
# 文字列の切り分け

組版の対象になる文字列は文字の並び（`Text`）として扱い、位置と長さは文字の個数で数える。
名前や文面は `String` のままにする。
-/

namespace Tategaki

/-- 文字の並び。 -/
abbrev Text := List Char

namespace Text

/-- 先頭が `sep` と一致すれば、その後ろを返す。 -/
def dropLead? : Text → Text → Option Text
  | [], s => some s
  | _ :: _, [] => none
  | x :: sep, c :: s => if x == c then dropLead? sep s else none

theorem dropLead?_eq_some_iff {sep s rest : Text} :
    dropLead? sep s = some rest ↔ s = sep ++ rest := by
  induction sep generalizing s with
  | nil => simp [dropLead?, eq_comm]
  | cons x sep ih =>
    cases s with
    | nil => simp [dropLead?]
    | cons c s =>
      by_cases h : x = c
      · simp [dropLead?, h, ih]
      · simp [dropLead?, h, Ne.symm h]

/-- `sep` が現れるたびに切る。重なりは左から取る。`sep` は空でない。 -/
def splitOn (sep : Text) (s : Text) : List Text := go s.length [] s
where
  /-- `piece` は読みかけの一片を逆順に持つ。 -/
  go : Nat → Text → Text → List Text
    | 0, piece, s => [piece.reverse ++ s]
    | _ + 1, piece, [] => [piece.reverse]
    | fuel + 1, piece, c :: s =>
      match dropLead? sep (c :: s) with
      | some rest => piece.reverse :: go fuel [] rest
      | none => go fuel (c :: piece) s

/-- 間に `sep` を挟んでつなぐ。 -/
def join (sep : Text) (parts : List Text) : Text := sep.intercalate parts

/-- `[start, stop)` の部分。 -/
def slice (s : Text) (start stop : Nat) : Text := (s.take stop).drop start

theorem slice_length (s : Text) (start stop : Nat) :
    (slice s start stop).length = min stop s.length - start := by simp [slice]

/-- 続く二つの部分をつなぐ。 -/
theorem slice_append_slice (s : Text) {a b c : Nat} (hab : a ≤ b) (hbc : b ≤ c) :
    slice s a b ++ slice s b c = slice s a c := by
  have htake : s.take b = (s.take c).take b := by rw [List.take_take, Nat.min_eq_left hbc]
  have hdrop : (s.take c).drop b = ((s.take c).drop a).drop (b - a) := by
    rw [List.drop_drop, Nat.add_sub_cancel' hab]
  unfold slice
  rw [htake, List.drop_take, hdrop, List.take_append_drop]

/-- 末尾までの部分は、先頭を除いたものである。 -/
@[simp] theorem slice_length_right (s : Text) (start : Nat) :
    slice s start s.length = s.drop start := by simp [slice]

/-- 部分にある文字は、その範囲のどこかにある。 -/
theorem mem_slice_iff {s : Text} {start stop : Nat} {c : Char} :
    c ∈ slice s start stop ↔ ∃ p, start ≤ p ∧ p < stop ∧ s[p]? = some c := by
  unfold slice
  rw [List.mem_iff_getElem?]
  constructor
  · rintro ⟨i, hi⟩
    rw [List.getElem?_drop, List.getElem?_take] at hi
    split at hi
    · exact ⟨start + i, by omega, by assumption, hi⟩
    · cases hi
  · rintro ⟨p, hstart, hstop, hp⟩
    refine ⟨p - start, ?_⟩
    rw [List.getElem?_drop, Nat.add_sub_cancel' hstart, List.getElem?_take, if_pos hstop, hp]

/-- `old` をすべて `new` に替える。`old` は空でない。 -/
def replaceAll (old new : Text) (s : Text) : Text := join new (splitOn old s)

/-- 位置を、1 から数えた行と桁に直す。 -/
def lineColumn (s : Text) (position : Nat) : Nat × Nat :=
  let passed := s.take position
  (passed.count '\n' + 1, (passed.reverse.takeWhile (· != '\n')).length + 1)

/-- 名前を並べるときの順。code point の列を辞書式に比べる。 -/
def before (a b : String) : Bool := a.toList.map Char.toNat < b.toList.map Char.toNat

end Text

end Tategaki
