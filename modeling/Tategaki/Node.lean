import Tategaki.Text.Basic

/-!
# 行内の節

走査の結果は節の並びである。節は、そのままの文字列か、縦書きの中で正立させる短い一組
（縦中横）のどちらか。隣り合う文字列は `mergeTexts` で一つにまとまる。
-/

namespace Tategaki

/-- 縦中横の既定のクラス名。 -/
def uprightClass : String := "tcy"

/-- 行内の節。 -/
inductive Node where
  | text (content : Text)
  | grouped (content : Text) (cssClass : String)
  deriving DecidableEq, Repr

namespace Node

/-- 節の文字列。 -/
def content : Node → Text
  | text s => s
  | grouped s _ => s

/-- 節の並びの文字列。 -/
def contents (nodes : List Node) : Text := nodes.flatMap content

@[simp] theorem contents_nil : contents [] = [] := rfl

@[simp] theorem contents_cons (n : Node) (ns : List Node) :
    contents (n :: ns) = n.content ++ contents ns := rfl

@[simp] theorem contents_append (a b : List Node) :
    contents (a ++ b) = contents a ++ contents b := by simp [contents]

/-- 並びの先頭に節を加える。空の文字列は捨て、文字列どうしはつなぐ。 -/
def prepend : Node → List Node → List Node
  | text [], ns => ns
  | text s, text t :: ns => text (s ++ t) :: ns
  | n, ns => n :: ns

/-- 空の文字列を除き、隣り合う文字列を一つにまとめる。 -/
def mergeTexts (nodes : List Node) : List Node := nodes.foldr prepend []

@[simp] theorem mergeTexts_nil : mergeTexts [] = [] := rfl

@[simp] theorem mergeTexts_cons (n : Node) (ns : List Node) :
    mergeTexts (n :: ns) = prepend n (mergeTexts ns) := rfl

/-- 節を加えても文字列は変わらない。 -/
@[simp] theorem contents_prepend (n : Node) (ns : List Node) :
    contents (prepend n ns) = n.content ++ contents ns := by
  unfold prepend
  split <;> simp [content]

/-- まとめても文字列は変わらない。 -/
@[simp] theorem contents_mergeTexts (nodes : List Node) :
    contents (mergeTexts nodes) = contents nodes := by
  induction nodes with
  | nil => rfl
  | cons n ns ih => simp [ih]

end Node

end Tategaki
