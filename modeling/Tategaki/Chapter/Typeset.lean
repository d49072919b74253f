import Tategaki.Markup.Fragment
import Tategaki.Scanner

/-!
# 章の木の組版

章の木を文書の順に辿り、地の文を走査の結果で置き換える。段落には字下げを入れる。読み仮名の要素は
書かれたままにし、注釈などにも触れない。

走査が失敗すると、そこで止まる。それまでに置き換えた部分はそのまま残り、後ろは元のままである。
-/

namespace Tategaki.Chapter

open Markup

/-! ## 字下げと置き換え -/

/-- 字下げに使う、和字の空白。 -/
def indentMark : Char := Char.ofNat 0x3000

/-- 書かれたままにする要素の名前。 -/
def readingNames : List String := ["rt", "rp"]

/-- 字下げを入れる要素の名前。 -/
def paragraphNames : List String := ["p"]

/-- 文字列に字下げを入れる。すでに空白で始まるものはそのままにする。 -/
def indentText : Text → Text
  | [] => [indentMark]
  | c :: s => if Unicode.isBlank c then c :: s else indentMark :: c :: s

/-- 段落の中身に字下げを入れる。空でない文字列で始まらなければ、新しい文字列を先頭に置く。 -/
def indent : Fragment → Fragment
  | .text (c :: s) rest => .text (indentText (c :: s)) rest
  | f => .text [indentMark] f

/-- 行内の節を、並びの先頭に置く。 -/
def place (n : Node) (rest : Fragment) : Fragment :=
  match n with
  | .text s => .text s rest
  | .grouped s cssClass =>
    .element "span" [⟨"class", cssClass.toList⟩] (.text s .nil) rest

/-- 行内の節の列を、並びの先頭に置く。 -/
def placeAll (nodes : List Node) (rest : Fragment) : Fragment := nodes.foldr place rest

@[simp] theorem placeAll_nil (rest : Fragment) : placeAll [] rest = rest := rfl

@[simp] theorem placeAll_cons (n : Node) (nodes : List Node) (rest : Fragment) :
    placeAll (n :: nodes) rest = place n (placeAll nodes rest) := rfl

/-! ## 辿る -/

/-- 辿ったところまで。 -/
structure Progress (τ : Type) where
  tree : Fragment
  error : Option ScanError := none
  state : ScanState τ

variable {τ : Type}

/-- 木の形を変える。 -/
def Progress.map (f : Fragment → Fragment) (p : Progress τ) : Progress τ :=
  { p with tree := f p.tree }

/-- 一つの文字列を、新しい区間の記録で走査する。章の文脈の区間は、そのまま残る。 -/
def scanLeaf (sc : Scanner τ) (ctx : Context) (s : Text) (st : ScanState τ) :
    Scanner.Result τ (List Node) :=
  let (result, done) := sc.scan ctx s { st with ranges := [] }
  (result, { done with ranges := st.ranges })

/-- 一つの文字列を走査し、うまくいけば続ける。 -/
def typesetText (sc : Scanner τ) (ctx : Context) (s : Text) (rest : Fragment)
    (next : ScanState τ → Progress τ) (st : ScanState τ) : Progress τ :=
  match scanLeaf sc ctx s st with
  | (.error e, st) => ⟨.text s rest, some e, st⟩
  | (.ok nodes, st) => (next st).map (placeAll (Node.mergeTexts nodes))

/-- 字下げが要れば、それを先に走査する。 -/
def typesetIndent (sc : Scanner τ) (ctx : Context) (lead : Bool) (f : Fragment)
    (next : ScanState τ → Progress τ) (st : ScanState τ) : Progress τ :=
  if lead then typesetText sc ctx [indentMark] f next st else next st

/-- 並びを辿る。`lead` は、段落の中身の先頭にいることを表す。 -/
def typeset (sc : Scanner τ) (ctx : Context) : Fragment → Bool → ScanState τ → Progress τ
  | .nil, lead, st => typesetIndent sc ctx lead .nil (fun st => ⟨.nil, none, st⟩) st
  | .text [] rest, lead, st =>
    typesetIndent sc ctx lead (.text [] rest)
      (fun st => (typeset sc ctx rest false st).map (.text [])) st
  | .text (c :: s) rest, lead, st =>
    let s := if lead then indentText (c :: s) else c :: s
    typesetText sc ctx s rest (fun st => typeset sc ctx rest false st) st
  | .special kind s rest, lead, st =>
    typesetIndent sc ctx lead (.special kind s rest)
      (fun st => (typeset sc ctx rest false st).map (.special kind s)) st
  | .element name attributes content rest, lead, st =>
    typesetIndent sc ctx lead (.element name attributes content rest)
      (fun st =>
        if readingNames.contains name then
          (typeset sc ctx rest false st).map (.element name attributes content)
        else
          let inner := typeset sc ctx content (paragraphNames.contains name) st
          match inner.error with
          | some _ => inner.map fun content => .element name attributes content rest
          | none =>
            (typeset sc ctx rest false inner.state).map
              (.element name attributes inner.tree)) st

/-- 章の木を組む。 -/
def process (sc : Scanner τ) (ctx : Context) (tree : Fragment) (st : ScanState τ) : Progress τ :=
  typeset sc ctx tree false st

/-- 空でない先頭の文字列に入れた字下げは、空白で始まる。 -/
theorem indentText_head (s : Text) : ∃ c rest, indentText s = c :: rest ∧ Unicode.isBlank c := by
  cases s with
  | nil => exact ⟨indentMark, [], rfl, by decide⟩
  | cons c rest =>
    by_cases h : Unicode.isBlank c = true
    · exact ⟨c, rest, by simp [indentText, h], h⟩
    · exact ⟨indentMark, c :: rest, by simp [indentText, h], by decide⟩

end Tategaki.Chapter
