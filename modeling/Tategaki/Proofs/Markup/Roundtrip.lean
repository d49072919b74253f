import Tategaki.Markup.Reader
import Tategaki.Markup.Writer
import Tategaki.Proofs.Markup.Lexer

/-!
# 書き出した木の読み直し

整った木（`Tidy`）を書き出して読むと、元の木に戻る（`read_write`）。文字列の中の印付けや参照に見えるものも、
文字のまま残る。

## 二段に分かれる

* **字句。** 書き出した文字列は、閉じられていない印も書きかけの参照も含まないので、初めの段階だけで読み終わる
  （`Lexer.Lexes`）。参照は一つずつ別の出来事になるので、文字列は何個かの出来事に分かれる。
* **組み立て。** 分かれた地の文は、次の印でつながって一つの文字列に戻る。木を読むと、開いている要素の中身に木が
  そのまま加わる（`Reader.Appends`）。
-/

namespace Tategaki.Markup

open Unicode

/-! ## 初めの段階だけで読み終わる文字列 -/

namespace Lexer

/-- 地の文の一続きを終わらせない文字か。 -/
def isPlain (c : Char) : Bool := !(c == '<' || c == '&')

/-- 地の文の続きでない文字列。 -/
def Breaks (s : Text) : Prop := s.takeWhile isPlain = []

theorem breaks_nil : Breaks [] := rfl

theorem breaks_mark (s : Text) : Breaks ('<' :: s) := rfl

/-- 初めの段階だけで読み終わる文字列と、その出来事の列。 -/
inductive Lexes : Text → List Event → Prop
  | nil : Lexes [] []
  | mark {s rest : Text} {found later : List Event}
      (hm : markup s = .ok (some (found, rest))) (h : Lexes rest later) :
      Lexes ('<' :: s) (found ++ later)
  | reference {s rest text : Text} {later : List Event}
      (hr : reference s = .ok (.found text rest)) (hlen : rest.length ≤ s.length)
      (h : Lexes rest later) : Lexes ('&' :: s) (.text text :: later)
  | run {run rest : Text} {later : List Event} (hne : run ≠ [])
      (hrun : ∀ c ∈ run, isPlain c = true) (hrest : Breaks rest) (h : Lexes rest later) :
      Lexes (run ++ rest) (.text run :: later)

/-- 読み終わるまでに要る段数は、文字列の長さで足りる。 -/
theorem Lexes.events_eq {s : Text} {found : List Event} (h : Lexes s found) :
    ∀ fuel, s.length < fuel → events fuel false s = .ok found := by
  induction h with
  | nil =>
    intro fuel hfuel
    obtain ⟨fuel, rfl⟩ := Nat.exists_eq_succ_of_ne_zero (Nat.ne_of_gt hfuel)
    rfl
  | @mark s rest found later hm _ ih =>
    intro fuel hfuel
    obtain ⟨fuel, rfl⟩ := Nat.exists_eq_succ_of_ne_zero (Nat.ne_zero_of_lt hfuel)
    have hlen := (markup_suffix hm).length_le
    rw [events, hm]
    show (do return found ++ (← events fuel false rest)) = _
    rw [ih fuel (by simp only [List.length_cons] at hfuel; omega)]
    rfl
  | @reference s rest text later hr hlen _ ih =>
    intro fuel hfuel
    obtain ⟨fuel, rfl⟩ := Nat.exists_eq_succ_of_ne_zero (Nat.ne_zero_of_lt hfuel)
    rw [events, hr]
    show (do return Event.text text :: (← events fuel false rest)) = _
    rw [ih fuel (by simp only [List.length_cons] at hfuel; omega)]
    rfl
  | @run run rest later hne hrun hrest _ ih =>
    intro fuel hfuel
    obtain ⟨fuel, rfl⟩ := Nat.exists_eq_succ_of_ne_zero (Nat.ne_zero_of_lt hfuel)
    obtain ⟨c, tail, rfl⟩ := List.exists_cons_of_ne_nil hne
    have hc := hrun c (by simp)
    have hmark : c ≠ '<' ∧ c ≠ '&' := by simpa [isPlain] using hc
    have htake : (c :: (tail ++ rest)).takeWhile (fun c => !(c == '<' || c == '&'))
        = c :: tail := by
      have hall : (c :: tail ++ rest).takeWhile isPlain = c :: tail ++ rest.takeWhile isPlain :=
        List.takeWhile_append_of_pos hrun
      rw [hrest, List.append_nil] at hall
      exact hall
    rw [List.cons_append, events]
    · rw [htake]
      have hdrop : (c :: (tail ++ rest)).drop (c :: tail).length = rest := by
        rw [← List.cons_append, List.drop_left]
      rw [hdrop, ih fuel (by simp only [List.length_append, List.length_cons] at hfuel; omega)]
      rfl
    · exact hmark.1
    · exact hmark.2

/-- 初めの段階だけで読み終わるなら、それが読み取りの結果である。 -/
theorem Lexes.read_eq {s : Text} {found : List Event} (h : Lexes s found) :
    read s = .ok found := h.events_eq (s.length + 2) (by omega)

/-- 地の文を前に置く。空なら、出来事は増えない。 -/
theorem Lexes.prepend {run rest : Text} {later : List Event} (hrun : ∀ c ∈ run, isPlain c = true)
    (hrest : Breaks rest) (h : Lexes rest later) :
    ∃ texts : List Text, texts.flatten = run ∧
      Lexes (run ++ rest) (texts.map .text ++ later) := by
  by_cases hne : run = []
  · subst hne
    exact ⟨[], rfl, h⟩
  · exact ⟨[run], by simp, .run hne hrun hrest h⟩

/-! ## 文字列 -/

/-- 閉じた名前の参照は、それが表す文字になる。 -/
theorem reference_named (c : Char) (tail : Text) {value : Text} (hc : isAsciiLetter c = true)
    (hall : (c :: tail).all isReferenceChar = true)
    (hvalue : Entity.named? (String.ofList (c :: tail)) = some value) (rest : Text) :
    reference (c :: tail ++ ';' :: rest) = .ok (.found value rest) := by
  have htake : (c :: tail ++ ';' :: rest).takeWhile isReferenceChar = c :: tail := by
    have hsemicolon : isReferenceChar ';' = false := by decide
    rw [List.takeWhile_append_of_pos (List.all_eq_true.mp hall), List.takeWhile_cons,
      if_neg (by rw [hsemicolon]; exact Bool.false_ne_true), List.append_nil]
  have hname : referenceName? (c :: tail ++ ';' :: rest) = some (c :: tail) := by
    unfold referenceName?
    dsimp only
    rw [htake, if_pos (by simp)]
  have hfound : namedReference (c :: tail ++ ';' :: rest) = .found value rest := by
    unfold namedReference
    rw [hname]
    dsimp only
    rw [hvalue, List.drop_left]
    rfl
  have hne : c ≠ '#' := by
    rintro rfl
    exact absurd hc (by decide)
  rw [List.cons_append, reference]
  · rw [if_pos hc, ← List.cons_append, hfound]
  · exact hne

/-- 参照で書く文字か。 -/
def IsEscaped (c : Char) : Prop := c = '<' ∨ c = '&' ∨ c = '>'

instance : DecidablePred IsEscaped := fun _ => inferInstanceAs (Decidable (_ ∨ _))

/-- 参照で書かない文字は、そのまま地の文になる。 -/
theorem escapeChar_of_not_isEscaped {c : Char} (h : ¬ IsEscaped c) :
    Writer.escapeChar c = [c] ∧ isPlain c = true := by
  simp only [IsEscaped, not_or] at h
  obtain ⟨hlt, hamp, hgt⟩ := h
  refine ⟨?_, by simp [isPlain, hlt, hamp]⟩
  unfold Writer.escapeChar
  split
  · exact absurd rfl hamp
  · exact absurd rfl hlt
  · exact absurd rfl hgt
  · rfl

/-- 参照で書いた文字は、参照として読める。 -/
theorem lexes_escapeChar {c : Char} {rest : Text} {later : List Event} (hc : IsEscaped c)
    (h : Lexes rest later) : Breaks (Writer.escapeChar c ++ rest) ∧
      Lexes (Writer.escapeChar c ++ rest) (.text [c] :: later) := by
  have hlen : ∀ name : Text, rest.length ≤ (name ++ ';' :: rest).length := fun name => by
    rw [List.length_append, List.length_cons]
    omega
  rcases hc with rfl | rfl | rfl
  · exact ⟨rfl, .reference (reference_named 'l' ['t'] (by decide) (by decide)
      (by decide +kernel) rest) (hlen ['l', 't']) h⟩
  · exact ⟨rfl, .reference (reference_named 'a' ['m', 'p'] (by decide) (by decide)
      (by decide +kernel) rest) (hlen ['a', 'm', 'p']) h⟩
  · exact ⟨rfl, .reference (reference_named 'g' ['t'] (by decide) (by decide)
      (by decide +kernel) rest) (hlen ['g', 't']) h⟩

/-- **書き出した文字列は、つなぐと元の文字列になる地の文として読める。** -/
theorem lexes_escape {rest : Text} {later : List Event} (hrest : Breaks rest)
    (h : Lexes rest later) (s : Text) : ∃ texts : List Text, texts.flatten = s ∧
      Lexes (Writer.escape s ++ rest) (texts.map .text ++ later) := by
  -- まだ出来事にしていない地の文を前に付けた形で、文字列についての帰納法による
  have key : ∀ run : Text, (∀ c ∈ run, isPlain c = true) → ∃ texts : List Text,
      texts.flatten = run ++ s ∧
        Lexes (run ++ (Writer.escape s ++ rest)) (texts.map .text ++ later) := by
    induction s with
    | nil =>
      intro run hrun
      rw [List.append_nil]
      exact h.prepend hrun hrest
    | cons c s ih =>
      intro run hrun
      have hcons : Writer.escape (c :: s) ++ rest
          = Writer.escapeChar c ++ (Writer.escape s ++ rest) := by
        rw [← List.append_assoc]
        rfl
      rw [hcons]
      by_cases hc : IsEscaped c
      · obtain ⟨texts, htexts, hlexes⟩ := ih [] (by simp)
        obtain ⟨hbreaks, hmark⟩ := lexes_escapeChar hc hlexes
        obtain ⟨before, hbefore, hall⟩ := hmark.prepend hrun hbreaks
        refine ⟨before ++ [c] :: texts, ?_, ?_⟩
        · rw [List.flatten_append, List.flatten_cons, hbefore, htexts]
          rfl
        · rw [List.map_append, List.map_cons, List.append_assoc]
          exact hall
      · obtain ⟨hsame, hplain⟩ := escapeChar_of_not_isEscaped hc
        have hlonger : ∀ d ∈ run ++ [c], isPlain d = true := by
          intro d hd
          rcases List.mem_append.mp hd with hd | hd
          · exact hrun d hd
          · rwa [List.mem_singleton.mp hd]
        obtain ⟨texts, htexts, hlexes⟩ := ih (run ++ [c]) hlonger
        refine ⟨texts, by rw [htexts, List.append_assoc]; rfl, ?_⟩
        rwa [hsame, ← List.append_assoc]
  exact key [] (by simp)

/-! ## 印 -/

/-- 名前に使える文字か。 -/
def isNamePart (c : Char) : Bool := isAsciiLetter c || Reference.isDigit c

theorem isNamePart_ne {c d : Char} (hc : isNamePart c = true) (hd : isNamePart d = false) :
    c ≠ d := by
  rintro rfl
  rw [hc] at hd
  cases hd

/-- 名前の文字は、名前を終わらせない。 -/
theorem not_endsName {c : Char} (hc : isNamePart c = true) : endsName c = false := by
  have hne : ∀ d, isNamePart d = false → c ≠ d := fun _ => isNamePart_ne hc
  simp [endsName, hne '\t' (by decide), hne '\n' (by decide), hne '\r' (by decide),
    hne '\x0c' (by decide), hne ' ' (by decide), hne '/' (by decide), hne '>' (by decide),
    hne '\x00' (by decide)]

/-- 書いた名前がそのまま読め、中身も普通に読む要素か。 -/
def IsTidyName (name : String) : Prop :=
  (name.toList.head?.any isAsciiLetter ∧ name.toList.all isNamePart) ∧
    foldName name.toList = name ∧ isVoid name = false ∧ rawNames.contains name = false ∧
    Reader.preservingNames.contains name = false

instance : DecidablePred IsTidyName := fun _ => inferInstanceAs (Decidable ((_ ∧ _) ∧ _ ∧ _ ∧ _ ∧ _))

theorem IsTidyName.exists_cons {name : String} (h : IsTidyName name) :
    ∃ c tail, name.toList = c :: tail ∧ isAsciiLetter c = true := by
  obtain ⟨⟨hhead, -⟩, -⟩ := h
  cases hname : name.toList with
  | nil =>
    rw [hname] at hhead
    cases hhead
  | cons c tail =>
    rw [hname] at hhead
    exact ⟨c, tail, rfl, by simpa using hhead⟩

/-- 要素の始まりは、印として読める。 -/
theorem markup_opening {name : String} (h : IsTidyName name) (rest : Text) :
    markup (name.toList ++ '>' :: rest) = .ok (some ([.start name [] false], rest)) := by
  obtain ⟨c, tail, hname, hc⟩ := h.exists_cons
  obtain ⟨⟨-, hall⟩, hfold, -, hraw, -⟩ := h
  have hpart := List.all_eq_true.mp hall
  have htake : (name.toList ++ '>' :: rest).takeWhile (!endsName ·) = name.toList := by
    rw [List.takeWhile_append_of_pos fun d hd => by rw [not_endsName (hpart d hd)]; rfl]
    simp [endsName]
  have hgaps : ∀ last : Char, skipGaps last ('>' :: rest) = (last, '>' :: rest) := by
    intro last
    rw [skipGaps, if_neg (by decide), if_neg (by decide)]
  have hattributes : ∀ last : Char,
      attributes ('>' :: rest).length.succ last ('>' :: rest) = ([], '>' :: rest) := by
    intro last
    rw [attributes, if_pos (by simp)]
  have htag : startTag (name.toList ++ '>' :: rest) = .ok (.tag name [] false rest) := by
    unfold startTag
    dsimp only
    rw [htake, List.drop_left, hgaps]
    dsimp only
    rw [hattributes]
    dsimp only
    rw [hfold]
    rfl
  have hafter : afterStart name [] false rest = ([.start name [] false], rest) := by
    unfold afterStart
    rw [hraw]
    rfl
  rw [hname, List.cons_append] at htag ⊢
  have hne : ∀ d, isAsciiLetter d = false → c ≠ d := by
    rintro d hd rfl
    rw [hc] at hd
    cases hd
  rw [markup]
  · rw [if_pos hc, htag]
    dsimp only
    rw [hafter]
  · exact hne '/' (by decide)
  · exact hne '?' (by decide)
  · exact hne '!' (by decide)

/-- 要素の終わりは、印として読める。 -/
theorem markup_closing {name : String} (h : IsTidyName name) (rest : Text) :
    markup ('/' :: (name.toList ++ '>' :: rest)) = .ok (some ([.stop name], rest)) := by
  obtain ⟨c, tail, hname, hc⟩ := h.exists_cons
  obtain ⟨⟨-, hall⟩, hfold, -⟩ := h
  have hpart := List.all_eq_true.mp hall
  have hblank : isBlank c = false := by
    refine Bool.eq_false_iff.mpr fun hblank => ?_
    simp only [isAsciiLetter, isAsciiCased, isBlank, Bool.or_eq_true, Bool.and_eq_true,
      decide_eq_true_eq, beq_iff_eq] at hc hblank
    omega
  have hspaced : (name.toList ++ '>' :: rest).dropWhile isBlank = name.toList ++ '>' :: rest := by
    rw [hname, List.cons_append, List.dropWhile_cons, if_neg (by rw [hblank]; exact Bool.false_ne_true)]
  have htake : (name.toList ++ '>' :: rest).takeWhile (fun c =>
      isAsciiLetter c || Reference.isDigit c || c == '-' || c == '.' || c == ':' || c == '_')
        = name.toList := by
    rw [List.takeWhile_append_of_pos fun d hd => by
      have hd := hpart d hd
      rw [isNamePart] at hd
      simp [hd]]
    simp [isAsciiLetter, isAsciiCased, Reference.isDigit]
  have hclose : spacedClose ('>' :: rest) = some rest := rfl
  have hend : endTag (name.toList ++ '>' :: rest) = some ([.stop name], rest) := by
    unfold endTag
    dsimp only
    rw [hspaced, htake, List.drop_left, hclose, hname]
    dsimp only
    rw [if_pos hc, ← hname, hfold]
  show Except.ok (endTag (name.toList ++ '>' :: rest)) = _
  rw [hend]

end Lexer

/-! ## 整った木 -/

/-- 地の文で始まるか。 -/
def Fragment.beginsText : Fragment → Bool
  | .text _ _ => true
  | _ => false

/-- 書き出したとおりに読み直せる木。文字列は空でも隣り合ってもおらず、空白だけなら改行か空白の一つである。
要素に属性はない。 -/
def Tidy : Fragment → Prop
  | .nil => True
  | .text s rest => s ≠ [] ∧ Reader.collapse s = s ∧ rest.beginsText = false ∧ Tidy rest
  | .special _ _ _ => False
  | .element name attributes content rest =>
    Lexer.IsTidyName name ∧ attributes = [] ∧ Tidy content ∧ Tidy rest

theorem Fragment.reverseOnto_reverseOnto (f g h : Fragment) :
    (f.reverseOnto g).reverseOnto h = g.reverseOnto (f ++ h) := by
  induction f generalizing g with
  | nil => rfl
  | text s rest ih => exact ih _
  | special kind s rest ih => exact ih _
  | element name attributes content rest _ ih => exact ih _

/-- 逆順にした並びを逆順にすると、元に戻る。 -/
theorem Fragment.reverse_reverseOnto_nil (f : Fragment) : (f.reverseOnto .nil).reverse = f := by
  rw [reverse, reverseOnto_reverseOnto, reverseOnto, append_nil]

namespace Reader

namespace State

/-- 一番内側の要素の中身に、木を加える。 -/
def push (st : State) (f : Fragment) : State :=
  { st with builder := { st.builder with content := f.reverseOnto st.builder.content } }

/-- 自分で閉じた要素も、空白を残す要素もないところ。 -/
structure Ordinary (st : State) : Prop where
  selfClosed : st.selfClosed = []
  preserves : st.preserves = false

theorem flush_pending (st : State) : st.flush.pending = none := by
  unfold flush
  split
  · next h => exact h
  · rfl

theorem flush_of_pending {st : State} (h : st.pending = none) : st.flush = st := by
  unfold flush
  rw [h]

theorem ordinary_flush {st : State} : st.flush.Ordinary ↔ st.Ordinary := by
  have hclosed : st.flush.selfClosed = st.selfClosed := by
    unfold flush
    split <;> rfl
  have hpreserves : st.flush.preserves = st.preserves := by
    unfold flush
    split <;> rfl
  constructor
  · rintro ⟨h, h'⟩
    exact ⟨hclosed ▸ h, hpreserves ▸ h'⟩
  · rintro ⟨h, h'⟩
    exact ⟨hclosed.trans h, hpreserves.trans h'⟩

theorem Ordinary.push {st : State} (h : st.Ordinary) (f : Fragment) : (st.push f).Ordinary :=
  ⟨h.selfClosed, h.preserves⟩

/-- 続く地の文は、つながって溜まる。 -/
theorem foldl_texts {texts : List Text} (hne : texts ≠ []) (st : State) :
    (texts.map Event.text).foldl step st
      = { st with pending := some ((st.pending.getD []) ++ texts.flatten) } := by
  induction texts generalizing st with
  | nil => exact absurd rfl hne
  | cons s texts ih =>
    by_cases hnil : texts = []
    · subst hnil
      simp [step]
    · rw [List.map_cons, List.foldl_cons, ih hnil]
      simp [step]

end State

open State

/-- 木を書き出した出来事を読むと、開いている要素の中身に木が加わる。溜まっている地の文は、木が地の文で
始まるなら、あってはならない。 -/
def Appends (f : Fragment) (found : List Event) : Prop :=
  ∀ st : State, st.Ordinary → (st.pending = none ∨ f.beginsText = false) →
    (found.foldl step st).flush = st.flush.push f

theorem Appends.ordinary {f : Fragment} {found : List Event} (h : Appends f found) {st : State}
    (hst : st.Ordinary) (hpending : st.pending = none ∨ f.beginsText = false) :
    (found.foldl step st).Ordinary := by
  rw [← ordinary_flush, h st hst hpending]
  exact (ordinary_flush.mpr hst).push f

theorem appends_nil : Appends .nil [] := fun _ _ _ => rfl

theorem appends_text {s : Text} {rest : Fragment} {texts : List Text} {later : List Event}
    (hs : s ≠ []) (hcollapse : collapse s = s) (hbegins : rest.beginsText = false)
    (htexts : texts.flatten = s) (h : Appends rest later) :
    Appends (.text s rest) (texts.map .text ++ later) := by
  intro st hst hpending
  have hpending : st.pending = none := by simpa [Fragment.beginsText] using hpending
  have hne : texts ≠ [] := by
    rintro rfl
    exact hs htexts.symm
  have hfold : (texts.map Event.text).foldl step st = { st with pending := some s } := by
    rw [foldl_texts hne, hpending, htexts]
    rfl
  have hflush : ({ st with pending := some s } : State).flush = st.push (.text s .nil) := by
    have hshaped : ({ st with pending := some s } : State).shaped s = s := by
      have hpreserves : ({ st with pending := some s } : State).preserves = false := hst.preserves
      rw [shaped, hpreserves]
      exact hcollapse
    unfold flush
    dsimp only
    rw [hshaped, push, hpending]
    rfl
  have hrest := h { st with pending := some s } ⟨hst.selfClosed, hst.preserves⟩ (.inr hbegins)
  rw [List.foldl_append, hfold, hrest, hflush, flush_of_pending hpending]
  rfl

/-- 要素を開いたところ。 -/
def State.opened (st : State) (name : String) : State :=
  { st with builder := st.builder.openElement name [] }

theorem State.Ordinary.opened {st : State} (h : st.Ordinary) {name : String}
    (hname : preservingNames.contains name = false) : (st.opened name).Ordinary := by
  refine ⟨h.selfClosed, ?_⟩
  have hpreserves := h.preserves
  simp only [State.preserves, State.opened, Builder.openElement, Builder.isOpen, List.any_cons,
    List.any_eq_false, Bool.or_eq_true, not_or] at hpreserves ⊢
  intro other hother
  refine ⟨fun heq => ?_, hpreserves other hother⟩
  rw [beq_iff_eq] at heq
  rw [heq, List.contains_iff_mem.mpr hother] at hname
  cases hname

/-- 開いた要素に中身を加えて閉じると、要素が加わる。 -/
theorem closeThrough_opened (b : Builder) (name : String) (content : Fragment) :
    ({ b.openElement name [] with content := content.reverseOnto .nil } : Builder).closeThrough name
      = { b with content := .element name [] content b.content } := by
  have hfind : (b.openElement name []).frames.findIdx? (·.name == name) = some 0 := by
    simp [Builder.openElement, List.findIdx?_cons]
  unfold Builder.closeThrough
  dsimp only
  rw [hfind]
  show Builder.mk b.frames (.element name [] (content.reverseOnto .nil).reverse b.content) = _
  rw [Fragment.reverse_reverseOnto_nil]

theorem appends_element {name : String} {content rest : Fragment} {inner later : List Event}
    (hname : Lexer.IsTidyName name) (hc : Appends content inner) (h : Appends rest later) :
    Appends (.element name [] content rest)
      (.start name [] false :: inner ++ .stop name :: later) := by
  obtain ⟨-, -, hvoid, -, hpreserving⟩ := hname
  intro st hst _
  have hnone := flush_pending st
  have hflushed : st.flush.Ordinary := ordinary_flush.mpr hst
  have hstart : step st (.start name [] false) = st.flush.opened name := by
    simp only [step]
    rw [if_neg Bool.false_ne_true, hvoid, if_neg Bool.false_ne_true]
    rfl
  -- 中身を読む間、開いた要素は一番内側にある
  have hopened : (st.flush.opened name).Ordinary := hflushed.opened hpreserving
  have hinner := hc (st.flush.opened name) hopened (.inl hnone)
  have hordinary := hc.ordinary hopened (.inl hnone)
  rw [flush_of_pending (show (st.flush.opened name).pending = none from hnone)] at hinner
  have hstop : step (inner.foldl step (st.flush.opened name)) (.stop name)
      = st.flush.push (.element name [] content .nil) := by
    simp only [step]
    have hbuilder : ((st.flush.opened name).push content).builder.closeThrough name
        = (st.flush.push (.element name [] content .nil)).builder :=
      closeThrough_opened st.flush.builder name content
    rw [hordinary.selfClosed, hinner, if_neg (by simp), hbuilder]
    rfl
  have hrest := h (st.flush.push (.element name [] content .nil)) (hflushed.push _) (.inl hnone)
  rw [List.cons_append, List.foldl_cons, List.foldl_append, List.foldl_cons, hstart, hstop, hrest,
    flush_of_pending (show (st.flush.push _).pending = none from hnone)]
  rfl

end Reader

/-! ## 往復 -/

namespace Lexer

open Reader

/-- 地の文で始まらない木の書き出しは、地の文の続きにならない。 -/
theorem breaks_write {f : Fragment} {tail : Text} (hbegins : f.beginsText = false) (h : Tidy f)
    (htail : Breaks tail) : Breaks (write f ++ tail) := by
  cases f with
  | nil => exact htail
  | text s rest => cases hbegins
  | special kind s rest => cases h
  | element name attributes content rest =>
    obtain ⟨⟨-, -, hvoid, -⟩, -⟩ := h
    rw [write, hvoid, Bool.false_and, if_neg Bool.false_ne_true]
    rfl

/-- **整った木の書き出しは、木を加える出来事として読める。** -/
theorem lexes_write {f : Fragment} (h : Tidy f) {tail : Text} {later : List Event}
    (htail : Breaks tail) (hlater : Lexes tail later) :
    ∃ found, Appends f found ∧ Lexes (write f ++ tail) (found ++ later) := by
  induction f generalizing tail later with
  | nil => exact ⟨[], appends_nil, hlater⟩
  | text s rest ih =>
    obtain ⟨hs, hcollapse, hbegins, hrest⟩ := h
    obtain ⟨found, happends, hlexes⟩ := ih hrest htail hlater
    obtain ⟨texts, htexts, hall⟩ := lexes_escape (breaks_write hbegins hrest htail) hlexes s
    refine ⟨texts.map .text ++ found, appends_text hs hcollapse hbegins htexts happends, ?_⟩
    rw [write, List.append_assoc, List.append_assoc]
    exact hall
  | special kind s rest ih => cases h
  | element name attributes content rest ihc ih =>
    obtain ⟨hname, rfl, hcontent, hrest⟩ := h
    obtain ⟨after, hafter, hlexes⟩ := ih hrest htail hlater
    have hclosing := Lexes.mark (markup_closing hname (write rest ++ tail)) hlexes
    obtain ⟨inner, hinner, hlexes⟩ := ihc hcontent (breaks_mark _) hclosing
    refine ⟨_, appends_element hname hinner hafter, ?_⟩
    have hopening := Lexes.mark (markup_opening hname _) hlexes
    have hvoid : isVoid name = false := hname.2.2.1
    rw [write, hvoid, Bool.false_and, if_neg Bool.false_ne_true]
    simpa [Writer.opening, Writer.closing] using hopening

end Lexer

/-- **整った木を書き出して読むと、元に戻る。** -/
theorem read_write {f : Fragment} (h : Tidy f) : read (write f) = .ok f := by
  obtain ⟨found, happends, hlexes⟩ := Lexer.lexes_write h Lexer.breaks_nil Lexer.Lexes.nil
  rw [List.append_nil, List.append_nil] at hlexes
  have hfinal := happends {} ⟨rfl, rfl⟩ (.inl rfl)
  unfold read
  rw [hlexes.read_eq]
  show Except.ok (Reader.build found) = _
  unfold Reader.build Reader.State.finish
  rw [hfinal]
  exact congrArg Except.ok f.reverse_reverseOnto_nil

end Tategaki.Markup
