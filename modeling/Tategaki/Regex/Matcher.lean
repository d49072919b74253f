import Tategaki.Regex.Basic

/-!
# 正規表現の照合

後戻りによる照合。木を左から辿り、残りの照合を継続として渡す。継続が失敗すれば次の合い方を
試すので、見つかるのは優先順位の最も高い合い方である。

## 繰り返し

下限までは無条件に本体を繰り返し、その先は優先の向きに従って、もう一度繰り返すか先へ進むかを
選ぶ。本体が何も読まずに終わったら、それ以上は繰り返さない。だから回数は、下限に残りの文字数を
足したもので抑えられる。本体が一文字の条件なら、続く文字を数えてから先へ進む位置を選ぶ。

## 組

組は開いた位置と閉じた位置を別々に覚え、両方が揃って順になっているときに値を持つ。
-/

namespace Tategaki.Regex

open Unicode

/-- 組の開いた位置と閉じた位置。 -/
structure Mark where
  opened : Option Nat := none
  closed : Option Nat := none
  deriving DecidableEq, Repr

namespace Mark

/-- 組が読んだ区間。 -/
def span? : Mark → Option (Nat × Nat)
  | ⟨some a, some b⟩ => if a ≤ b then some (a, b) else none
  | _ => none

theorem span?_le {m : Mark} {a b : Nat} (h : m.span? = some (a, b)) : a ≤ b := by
  unfold span? at h
  split at h
  · split at h
    · cases h; assumption
    · cases h
  · cases h

end Mark

/-- 照合の途中の状態。位置と、組の並び（一番の組が先頭）。 -/
structure Spot where
  position : Nat
  marks : List Mark
  deriving DecidableEq, Repr

namespace Spot

/-- `n` 文字進む。 -/
def advance (s : Spot) (n : Nat) : Spot := { s with position := s.position + n }

/-- 組の印。 -/
def mark (s : Spot) (number : Nat) : Mark := s.marks.getD (number - 1) {}

/-- 組を開く。 -/
def openGroup (s : Spot) (number : Nat) : Spot :=
  { s with marks := s.marks.set (number - 1) { s.mark number with opened := some s.position } }

/-- 組を閉じる。 -/
def closeGroup (s : Spot) (number : Nat) : Spot :=
  { s with marks := s.marks.set (number - 1) { s.mark number with closed := some s.position } }

/-- 組が読んだ区間。 -/
def span? (s : Spot) (number : Nat) : Option (Nat × Nat) := (s.mark number).span?

@[simp] theorem advance_position (s : Spot) (n : Nat) :
    (s.advance n).position = s.position + n := rfl

@[simp] theorem openGroup_position (s : Spot) (number : Nat) :
    (s.openGroup number).position = s.position := rfl

@[simp] theorem closeGroup_position (s : Spot) (number : Nat) :
    (s.closeGroup number).position = s.position := rfl

end Spot

/-! ## 位置の条件 -/

/-- 語をなす文字か。 -/
def wordAt (input : Array Char) (ascii : Bool) (p : Nat) : Bool :=
  match input[p]? with
  | some c => if ascii then CategoryKind.word.holdsAscii c.toNat else isWord c
  | none => false

/-- 位置の前の文字が語をなすか。 -/
def wordBefore (input : Array Char) (ascii : Bool) (p : Nat) : Bool :=
  0 < p && wordAt input ascii (p - 1)

/-- 位置が条件を満たすか。文字のない文字列には、語の境界も境界でないところもない。 -/
def Anchor.holds (input : Array Char) (p : Nat) : Anchor → Bool
  | textStart => p == 0
  | lineStart => p == 0 || input[p - 1]? == some '\n'
  | textEnd => p == input.size || (p + 1 == input.size && input[p]? == some '\n')
  | lineEnd => p == input.size || input[p]? == some '\n'
  | veryEnd => p == input.size
  | boundary negated ascii =>
    input.size != 0 && (wordBefore input ascii p != wordAt input ascii p) != negated

/-! ## 一文字の繰り返し -/

/-- `p` から続けて条件に合う文字の個数。多くても `limit` まで数える。 -/
def runLength (input : Array Char) (t : CharTest) : Nat → Nat → Nat
  | 0, _ => 0
  | limit + 1, p =>
    match input[p]? with
    | some c => if t.matches? c then runLength input t limit (p + 1) + 1 else 0
    | none => 0

theorem runLength_le_limit (input : Array Char) (t : CharTest) (limit p : Nat) :
    runLength input t limit p ≤ limit := by
  induction limit generalizing p with
  | zero => simp [runLength]
  | succ limit ih =>
    simp only [runLength]
    split
    · split
      · have := ih (p + 1); omega
      · omega
    · omega

/-- 数えた文字は、すべて条件に合う。 -/
theorem matches?_of_lt_runLength {input : Array Char} {t : CharTest} {limit p i : Nat}
    (h : i < runLength input t limit p) :
    ∃ c, input[p + i]? = some c ∧ t.matches? c = true := by
  induction limit generalizing p i with
  | zero => simp [runLength] at h
  | succ limit ih =>
    simp only [runLength] at h
    split at h
    · rename_i c hc
      split at h
      · rename_i ht
        cases i with
        | zero => exact ⟨c, by simpa using hc, ht⟩
        | succ i =>
          obtain ⟨d, hd, htd⟩ := ih (p := p + 1) (i := i) (by omega)
          exact ⟨d, by rw [← hd]; congr 1; omega, htd⟩
      · simp at h
    · simp at h

/-- 読む文字数を多い方から順に試す。`count` から `least` まで。 -/
def tryDown (s : Spot) (k : Spot → Option Spot) (least : Nat) : Nat → Option Spot
  | 0 => if least == 0 then k s else none
  | count + 1 =>
    if count + 1 < least then none
    else match k (s.advance (count + 1)) with
      | some r => some r
      | none => tryDown s k least count

/-- 読む文字数を少ない方から順に試す。`n` から始めて、あと `more` 通り試す。 -/
def tryUp (s : Spot) (k : Spot → Option Spot) (n : Nat) : Nat → Option Spot
  | 0 => none
  | more + 1 =>
    match k (s.advance n) with
    | some r => some r
    | none => tryUp s k (n + 1) more

/-- 一文字の条件の繰り返し。 -/
def runLoop (input : Array Char) (t : CharTest) (greedy : Bool) (least : Nat) (most : Option Nat)
    (s : Spot) (k : Spot → Option Spot) : Option Spot :=
  let room := input.size - s.position
  let limit := match most with
    | some m => min m room
    | none => room
  let count := runLength input t limit s.position
  if count < least then none
  else if greedy then tryDown s k least count
  else tryUp s k least (count - least + 1)

/-! ## 一般の繰り返し -/

/-- もう一度繰り返せるか。 -/
def mayRepeat (most : Option Nat) (count : Nat) : Bool :=
  match most with
  | some m => count < m
  | none => true

/-- 本体の繰り返し。`last` は前の任意の繰り返しが始まった位置。 -/
def iterate (body : Spot → (Spot → Option Spot) → Option Spot) (greedy : Bool) (least : Nat)
    (most : Option Nat) (k : Spot → Option Spot) : Nat → Nat → Option Nat → Spot → Option Spot
  | 0, _, _, _ => none
  | fuel + 1, count, last, s =>
    if count < least then
      body s fun t => iterate body greedy least most k fuel (count + 1) last t
    else
      let again (_ : Unit) : Option Spot :=
        if mayRepeat most count && last != some s.position then
          body s fun t =>
            iterate body greedy least most k fuel (count + 1) (some s.position) t
        else none
      if greedy then
        match again () with
        | some r => some r
        | none => k s
      else
        match k s with
        | some r => some r
        | none => again ()

/-! ## 組への参照 -/

/-- 読まれた文字列がもう一度現れるか。 -/
def sameText (input : Array Char) (f : Folding) : Nat → Nat → Nat → Bool
  | 0, _, _ => true
  | count + 1, p, q =>
    match input[p]?, input[q]? with
    | some c, some d =>
      f.lowered c.toNat == f.lowered d.toNat && sameText input f count (p + 1) (q + 1)
    | _, _ => false

/-! ## 照合 -/

/-- 木を `s` から照合し、継続が成功する最初の合い方を返す。 -/
@[simp] def Expr.run (input : Array Char) : Expr → Spot → (Spot → Option Spot) → Option Spot
  | empty, s, k => k s
  | test t, s, k =>
    match input[s.position]? with
    | some c => if t.matches? c then k (s.advance 1) else none
    | none => none
  | anchor a, s, k => if a.holds input s.position then k s else none
  | seq first second, s, k => first.run input s fun t => second.run input t k
  | alt left right, s, k =>
    match left.run input s k with
    | some r => some r
    | none => right.run input s k
  | group number body, s, k => body.run input (s.openGroup number) fun t => k (t.closeGroup number)
  | loop greedy least most (test t), s, k => runLoop input t greedy least most s k
  | loop greedy least most body, s, k =>
    iterate (fun t next => body.run input t next) greedy least most k
      (least + (input.size - s.position) + 3) 0 none s
  | atomic body, s, k =>
    match body.run input s some with
    | some t => k t
    | none => none
  | lookAhead negated body, s, k =>
    match body.run input s some with
    | some t => if negated then none else k { t with position := s.position }
    | none => if negated then k s else none
  | lookBehind negated low _ body, s, k =>
    if s.position < low then if negated then k s else none
    else
      match body.run input { s with position := s.position - low } some with
      | some t => if negated then none else k { t with position := s.position }
      | none => if negated then k s else none
  | backref number f, s, k =>
    match s.span? number with
    | some (a, b) =>
      if sameText input f (b - a) a s.position then k (s.advance (b - a)) else none
    | none => none
  | ifGroup number present absent, s, k =>
    if (s.span? number).isSome then present.run input s k else absent.run input s k

/-- 照合の結果。組の区間は一番の組から順に並ぶ。 -/
structure Match where
  start : Nat
  stop : Nat
  groups : List (Option (Nat × Nat))
  deriving DecidableEq, Repr

namespace Match

/-- 組の区間。零番は全体である。合わなかった組と、ない組は `none`。 -/
def span? (m : Match) (number : Nat) : Option (Nat × Nat) :=
  if number == 0 then some (m.start, m.stop) else (m.groups[number - 1]?).join

/-- 読んだ文字がないか。 -/
def isEmpty (m : Match) : Bool := m.stop == m.start

end Match

namespace Pattern

/-- 照合を始める状態。 -/
def startAt (p : Pattern) (position : Nat) : Spot := ⟨position, List.replicate p.groupCount {}⟩

/-- ちょうど `position` から照合する。`advancing` なら、何も読まない合い方を除く。
位置が末尾を越えていれば末尾とする。 -/
def matchAt (p : Pattern) (input : Array Char) (position : Nat) (advancing : Bool) :
    Option Match :=
  let start := min position input.size
  let accepted (s : Spot) : Option Spot :=
    if advancing && s.position == start then none else some s
  (p.expr.run input (p.startAt start) accepted).map fun s =>
    ⟨start, s.position, s.marks.map Mark.span?⟩

/-- 照合は指定した位置から始まる。 -/
theorem matchAt_start {p : Pattern} {input : Array Char} {position : Nat} {advancing : Bool}
    {m : Match} (h : p.matchAt input position advancing = some m) :
    m.start = min position input.size := by
  simp only [matchAt, Option.map_eq_some_iff] at h
  obtain ⟨s, -, rfl⟩ := h
  rfl

/-- `position` から右へ、最初に合うところを探す。`advancing` は最初の位置にだけ掛かる。 -/
def searchLoop (p : Pattern) (input : Array Char) : Nat → Nat → Bool → Option Match
  | 0, _, _ => none
  | more + 1, position, advancing =>
    match p.matchAt input position advancing with
    | some m => some m
    | none => searchLoop p input more (position + 1) false

/-- 最も左の合うところを探す。 -/
def search (p : Pattern) (input : Array Char) (position : Nat) (advancing : Bool) :
    Option Match :=
  p.searchLoop input (input.size + 1 - position) position advancing

end Pattern

end Tategaki.Regex
