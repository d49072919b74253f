import Tategaki.Text.Utf8

/-!
# 章の文書

組み上がった本文を、題名と様式を添えた一つの文書にする。文書は宣言で始まり、ほかの宣言は取り除かれる。
書き上げた文書は、使えない文字が混ざっていないかを検める。
-/

namespace Tategaki.Chapter

/-! ## 雛形 -/

/-- 一文字を、属性にも書ける形にする。 -/
def escapeChar : Char → Text
  | '&' => "&amp;".toList
  | '<' => "&lt;".toList
  | '>' => "&gt;".toList
  | '"' => "&quot;".toList
  | '\'' => "&#x27;".toList
  | c => [c]

/-- 文字列を、属性にも書ける形にする。 -/
def escape (s : Text) : Text := s.flatMap escapeChar

/-- 書き直した文字列に、印や引用符は現れない。 -/
theorem escape_no_mark (s : Text) :
    ∀ c ∈ escape s, c ≠ '<' ∧ c ≠ '>' ∧ c ≠ '"' ∧ c ≠ '\'' := by
  intro c hc
  obtain ⟨d, _, hd⟩ := List.mem_flatMap.mp hc
  have literal (t : Text)
      (ht : t.all (fun x => x != '<' && x != '>' && x != '"' && x != '\'') = true)
      (hd : c ∈ t) : c ≠ '<' ∧ c ≠ '>' ∧ c ≠ '"' ∧ c ≠ '\'' := by
    have := List.all_eq_true.mp ht c hd
    simpa [and_assoc] using this
  unfold escapeChar at hd
  split at hd
  · exact literal _ (by decide) hd
  · exact literal _ (by decide) hd
  · exact literal _ (by decide) hd
  · exact literal _ (by decide) hd
  · exact literal _ (by decide) hd
  · rename_i h1 h2 h3 h4 _
    rw [List.mem_singleton] at hd
    subst hd
    exact ⟨h2, h3, h4, by assumption⟩

/-- 文書の宣言。 -/
def xmlDeclaration : Text := "<?xml version=\"1.0\" encoding=\"UTF-8\"?>".toList

/-- 様式を書いたファイルの名前。 -/
def stylesheetName : String := "style.css"

/-- 文書の言語。 -/
def language : String := "ja"

/-- 文書の部品。 -/
structure Document where
  title : Text
  stylesheet : Text
  /-- 書き出した本文。 -/
  body : Text
  deriving DecidableEq, Repr

namespace Document

/-- 題名の手前まで。 -/
def head : Text :=
  ("\n<!DOCTYPE html>\n"
    ++ "<html xmlns=\"http://www.w3.org/1999/xhtml\" "
    ++ "xmlns:epub=\"http://www.idpf.org/2007/ops\" xml:lang=\"" ++ language ++ "\">\n"
    ++ "  <head>\n    <title>").toList

/-- 題名と様式の間。 -/
def middle : Text :=
  ("</title>\n    <meta charset=\"UTF-8\" />\n"
    ++ "    <link rel=\"stylesheet\" type=\"text/css\" href=\"").toList

/-- 様式と本文の間。 -/
def bodyStart : Text := "\" />\n  </head>\n  <body>\n".toList

/-- 本文の後ろ。 -/
def foot : Text := "\n  </body>\n</html>\n".toList

/-- 雛形を埋める。 -/
def fill (d : Document) : Text :=
  xmlDeclaration ++ head ++ escape d.title ++ middle ++ escape d.stylesheet ++ bodyStart ++ d.body
    ++ foot

/-- 先頭の宣言と、後に続く空白を取り除く。 -/
def dropDeclaration? (s : Text) : Option Text :=
  match Text.dropLead? "<?xml".toList s with
  | none => none
  | some rest =>
    let inside := rest.takeWhile (· != '>')
    if inside.getLast? == some '?' && inside.length < rest.length then
      some ((rest.drop (inside.length + 1)).dropWhile Unicode.isBlank)
    else none

/-- 宣言をすべて取り除く。 -/
def stripDeclarations : Nat → Text → Text
  | 0, s => s
  | _ + 1, [] => []
  | fuel + 1, c :: s =>
    match dropDeclaration? (c :: s) with
    | some rest => stripDeclarations fuel rest
    | none => c :: stripDeclarations fuel s

/-- 文書を書き出す。 -/
def render (d : Document) : Text :=
  let filled := d.fill
  xmlDeclaration ++ '\n' :: stripDeclarations filled.length filled

end Document

/-! ## 検め -/

/-- 文書に書けない文字か。 -/
def isForbidden (c : Char) : Bool :=
  let n := c.toNat
  n ≤ 0x08 || n == 0x0B || n == 0x0C || (0x0E ≤ n && n ≤ 0x1F) || n == 0xFFFE || n == 0xFFFF

/-- 文書の中の場所。行は 1 から、桁は 0 から数える。 -/
structure Position where
  line : Nat := 1
  column : Nat := 0
  deriving DecidableEq, Repr

/-- 書けない最初の文字の場所。`\r\n` は一つの行末である。 -/
def forbiddenAt? : Position → Text → Option Position
  | _, [] => none
  | p, '\r' :: '\n' :: s => forbiddenAt? ⟨p.line + 1, 0⟩ s
  | p, c :: s =>
    if isForbidden c then some p
    else if c == '\n' || c == '\r' then forbiddenAt? ⟨p.line + 1, 0⟩ s
    else forbiddenAt? ⟨p.line, p.column + 1⟩ s

/-- 書けない文字がなければ、検めは通る。 -/
theorem forbiddenAt?_none (p : Position) (s : Text) (h : ∀ c ∈ s, isForbidden c = false) :
    forbiddenAt? p s = none := by
  fun_induction forbiddenAt? p s with
  | case1 => rfl
  | case2 p s ih => exact ih fun c hc => h c (by simp [hc])
  | case3 p c s _ hc =>
    have := h c (by simp)
    simp [hc] at this
  | case4 p c s _ _ _ ih => exact ih fun d hd => h d (by simp [hd])
  | case5 p c s _ _ _ ih => exact ih fun d hd => h d (by simp [hd])

end Tategaki.Chapter
