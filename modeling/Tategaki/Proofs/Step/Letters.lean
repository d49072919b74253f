import Tategaki.Proofs.Number.Kanji
import Tategaki.Proofs.Step.Reprocess
import Tategaki.Proofs.Unicode.Blank

/-!
# 段の出す文字

段が新しく作る文字は、段の作りから読み取れる。走査を求めない段に、`letters` の文字だけからなる値を渡すと、
出る値の文字は `Step.image letters` の中にある（`Step.eval_letters`）。並びの実行についても同じである
（`applySteps_letters`）。

組を走査し直して前後に書き足すだけの並びは、走査の答えをそのまま挟んで出す（`applySteps_reprocess`）。
-/

namespace Tategaki

/-! ## 切り分けとつなぎ -/

/-- 切り分けた切れ端に、新しい文字は現れない。 -/
theorem Text.splitOn_subset {sep s piece : Text} (h : piece ∈ Text.splitOn sep s) : piece ⊆ s := by
  have key : ∀ (fuel : Nat) (kept s piece : Text), piece ∈ Text.splitOn.go sep fuel kept s →
      ∀ c ∈ piece, c ∈ kept ∨ c ∈ s := by
    intro fuel
    induction fuel with
    | zero =>
      intro kept s piece h c hc
      rw [Text.splitOn.go, List.mem_singleton] at h
      simpa [h] using hc
    | succ fuel ih =>
      intro kept s piece h c hc
      cases s with
      | nil =>
        rw [Text.splitOn.go, List.mem_singleton] at h
        simpa [h] using hc
      | cons d s =>
        rw [Text.splitOn.go] at h
        split at h
        · next rest heq =>
          rw [Text.dropLead?_eq_some_iff.mp heq]
          rcases List.mem_cons.mp h with rfl | h
          · exact .inl (List.mem_reverse.mp hc)
          · rcases ih [] rest piece h c hc with hnil | hrest
            · cases hnil
            · exact .inr (List.mem_append_right _ hrest)
        · rcases ih (d :: kept) s piece h c hc with hkept | hs
          · rcases List.mem_cons.mp hkept with rfl | hkept
            · exact .inr List.mem_cons_self
            · exact .inl hkept
          · exact .inr (List.mem_cons_of_mem d hs)
  intro c hc
  rcases key _ _ _ _ h c hc with hnil | hs
  · cases hnil
  · exact hs

theorem splitParts_subset {separators : List Text} {text part : Text}
    (h : part ∈ splitParts separators text) : part ⊆ text := by
  -- 区切り一つごとに、どの部品も元の文字列の文字だけからなる
  have key : ∀ (separators : List Text) (parts : List Text), (∀ part ∈ parts, part ⊆ text) →
      ∀ part ∈ separators.foldl (fun parts sep =>
        (parts.flatMap fun part => (Text.splitOn sep part).map Unicode.strip).filter
          (!·.isEmpty)) parts, part ⊆ text := by
    intro separators
    induction separators with
    | nil => intro parts hparts; exact hparts
    | cons sep separators ih =>
      intro parts hparts
      rw [List.foldl_cons]
      refine ih _ fun part hpart => ?_
      obtain ⟨whole, hwhole, hstripped⟩ := List.mem_flatMap.mp (List.mem_filter.mp hpart).1
      obtain ⟨piece, hpiece, rfl⟩ := List.mem_map.mp hstripped
      exact List.Subset.trans (Unicode.strip_subset piece)
        (List.Subset.trans (Text.splitOn_subset hpiece) (hparts whole hwhole))
  refine key separators [text] (fun part hpart => ?_) part h
  rw [List.mem_singleton.mp hpart]
  exact List.Subset.refl _

/-- つないだ文字列の文字は、間に挟んだものか、部品のどれかの文字である。 -/
theorem Text.join_subset (sep : Text) (parts : List Text) :
    Text.join sep parts ⊆ sep ++ parts.flatten := by
  induction parts with
  | nil => exact List.nil_subset _
  | cons part parts ih =>
    cases parts with
    | nil =>
      intro c hc
      simpa [Text.join, List.intercalate] using Or.inr hc
    | cons next parts =>
      have hjoin : Text.join sep (part :: next :: parts)
          = part ++ sep ++ Text.join sep (next :: parts) := by
        simp [Text.join, List.intercalate]
      rw [hjoin]
      intro c hc
      rcases List.mem_append.mp hc with hc | hc
      · rcases List.mem_append.mp hc with hc | hc
        · exact List.mem_append_right _ (List.mem_append_left _ hc)
        · exact List.mem_append_left _ hc
      · rcases List.mem_append.mp (ih hc) with hc | hc
        · exact List.mem_append_left _ hc
        · exact List.mem_append_right _ (List.mem_append_right _ hc)

/-! ## 差し込み -/

theorem leadingDigits_snd_subset (s : Text) : (Regex.leadingDigits s).2 ⊆ s :=
  (List.dropWhile_sublist _).subset

theorem leadingDigits_fst_subset (s : Text) : (Regex.leadingDigits s).1 ⊆ s :=
  (List.takeWhile_sublist _).subset

/-- 波括弧の番号に差し込んだ文字は、部品の文字か、番号のほかの雛形の文字である。 -/
theorem fillBraces_letters {value : Nat → Text} (fuel : Nat) : ∀ {template out : Text},
    Regex.fillBraces value fuel template = .ok out →
    ∃ residue, Regex.fillBraces (fun _ => []) fuel template = .ok residue ∧
      ∀ c ∈ out, c ∈ residue ∨ ∃ number, c ∈ value number := by
  induction fuel with
  | zero =>
    intro template out h
    cases h
    exact ⟨template, rfl, fun c hc => .inl hc⟩
  | succ fuel ih =>
    intro template out h
    cases template with
    | nil =>
      cases h
      exact ⟨[], rfl, fun c hc => .inl hc⟩
    | cons d rest =>
      rw [Regex.fillBraces] at h ⊢
      generalize Regex.leadingDigits rest = pair at h ⊢
      obtain ⟨digits, after⟩ := pair
      dsimp only at h ⊢
      split at h
      · next hbrace =>
        obtain ⟨number, hnumber, h⟩ := exists_of_bind_ok h
        obtain ⟨tail, htail, h⟩ := exists_of_bind_ok h
        cases h
        obtain ⟨residue, hresidue, hletters⟩ := ih htail
        refine ⟨residue, ?_, fun c hc => ?_⟩
        · rw [if_pos hbrace, hnumber, hresidue]
          rfl
        · rcases List.mem_append.mp hc with hc | hc
          · exact .inr ⟨number, hc⟩
          · exact hletters c hc
      · next hbrace =>
        obtain ⟨tail, htail, h⟩ := exists_of_bind_ok h
        cases h
        obtain ⟨residue, hresidue, hletters⟩ := ih htail
        refine ⟨d :: residue, ?_, fun c hc => ?_⟩
        · rw [if_neg hbrace, hresidue]
          rfl
        · rcases List.mem_cons.mp hc with rfl | hc
          · exact .inl List.mem_cons_self
          · exact (hletters c hc).imp_left (List.mem_cons_of_mem d)

/-- `$` の番号に差し込んだ文字は、雛形の文字か、差し込む文字列の文字である。 -/
theorem fillDollars_letters {value : Nat → Option Text} {letters : List Char}
    (hvalue : ∀ number text, value number = some text → text ⊆ letters) (fuel : Nat) :
    ∀ {template out : Text}, Regex.fillDollars value fuel template = .ok out →
      out ⊆ letters ++ template := by
  induction fuel with
  | zero =>
    intro template out h
    cases h
    exact List.subset_append_right _ _
  | succ fuel ih =>
    intro template out h
    cases template with
    | nil =>
      cases h
      exact List.nil_subset _
    | cons d rest =>
      rw [Regex.fillDollars] at h
      have hdigits := leadingDigits_fst_subset rest
      have hafter := leadingDigits_snd_subset rest
      generalize Regex.leadingDigits rest = pair at h hdigits hafter
      obtain ⟨digits, after⟩ := pair
      dsimp only at h hdigits hafter
      split at h
      · obtain ⟨number, -, h⟩ := exists_of_bind_ok h
        obtain ⟨tail, htail, h⟩ := exists_of_bind_ok h
        cases h
        refine List.append_subset.mpr ⟨?_, List.Subset.trans (ih htail) ?_⟩
        · cases hnumber : value number with
          | some text => exact List.subset_append_of_subset_left _ (hvalue number text hnumber)
          | none =>
            exact List.subset_append_of_subset_right _ (List.cons_subset_cons d hdigits)
        · exact List.append_subset.mpr ⟨List.subset_append_left _ _,
            List.subset_append_of_subset_right _ (List.subset_cons_of_subset d hafter)⟩
      · obtain ⟨tail, htail, h⟩ := exists_of_bind_ok h
        cases h
        refine List.cons_subset.mpr ⟨List.mem_append_right _ List.mem_cons_self, ?_⟩
        exact List.Subset.trans (ih htail) (List.append_subset.mpr
          ⟨List.subset_append_left _ _,
            List.subset_append_of_subset_right _ (List.subset_cons_self d rest)⟩)

theorem Text.slice_subset (s : Text) (start stop : Nat) : Text.slice s start stop ⊆ s :=
  List.Subset.trans (List.drop_subset _ _) (List.take_subset _ _)

/-- 置き換えた文字列の文字は、元の文字か、差し込んだ文字である。 -/
theorem replaceAll_subset {ε : Type} {p : Regex.Pattern} {text out : Text} {letters : List Char}
    {replacement : Regex.Match → Except ε Text} (htext : text ⊆ letters)
    (hreplacement : ∀ found s, replacement found = .ok s → s ⊆ letters)
    (h : p.replaceAll text replacement = .ok out) : out ⊆ letters := by
  have key : ∀ (fuel kept position : Nat) (advancing : Bool) (done parts : List Text),
      (∀ part ∈ done, part ⊆ letters) →
      p.replaceLoop text.toArray replacement fuel kept position advancing done = .ok parts →
      ∀ part ∈ parts, part ⊆ letters := by
    intro fuel
    induction fuel with
    | zero => intro _ _ _ done parts hdone h; cases h; exact hdone
    | succ fuel ih =>
      intro kept position advancing done parts hdone h
      rw [Regex.Pattern.replaceLoop] at h
      split at h
      · cases h
        intro part hpart
        rcases List.mem_cons.mp hpart with rfl | hpart
        · exact List.Subset.trans (List.drop_subset _ _) htext
        · exact hdone part hpart
      · next found _ =>
        split at h
        · cases h
        · next s hs =>
          refine ih _ _ _ _ parts (fun part hpart => ?_) h
          rcases List.mem_cons.mp hpart with rfl | hpart
          · exact hreplacement found _ hs
          · rcases List.mem_cons.mp hpart with rfl | hpart
            · exact List.Subset.trans (Text.slice_subset _ _ _) htext
            · exact hdone part hpart
  unfold Regex.Pattern.replaceAll at h
  obtain ⟨parts, hparts, rfl⟩ := exists_of_map_ok h
  intro c hc
  obtain ⟨part, hpart, hc⟩ := List.mem_flatten.mp hc
  exact key _ _ _ _ [] parts (by simp) hparts part (List.mem_reverse.mp hpart) hc

theorem expandReplacement_subset {input template out : Text} {groupCount : Nat}
    {found : Regex.Match} (h : expandReplacement input groupCount template found = .ok out) :
    out ⊆ input ++ template := by
  unfold expandReplacement at h
  dsimp only at h
  split at h
  · next hfill =>
    cases h
    refine fillDollars_letters (fun number text hvalue => ?_) _ hfill
    split at hvalue
    · cases hvalue
    · cases hvalue
      cases hgroup : Matched.group? ⟨input, found, groupCount⟩ number with
      | none => exact List.nil_subset _
      | some group =>
        obtain ⟨span, -, rfl⟩ := Option.map_eq_some_iff.mp hgroup
        exact Text.slice_subset _ _ _
  · cases h

/-! ## 一文字ずつの変換 -/

theorem kanjiDigit_mem (d : Nat) : kanjiDigit d ∈ kanjiDigits := by
  unfold kanjiDigit
  rw [List.getD_eq_getElem?_getD]
  cases h : kanjiDigits[d]? with
  | none => decide
  | some c => exact List.mem_of_getElem? h

/-- 漢数字にした文字列は、漢数字だけからなる。 -/
theorem numeralToKanji_subset {text out : Text} (h : numeralToKanji text = .ok out) :
    out ⊆ kanjiDigits := by
  obtain ⟨ds, -, -, -, rfl⟩ := numeralToKanji_eq_ok_iff.mp h
  intro c hc
  obtain ⟨d, -, rfl⟩ := List.mem_map.mp hc
  exact kanjiDigit_mem d

/-- 規則を使って出る文字。 -/
def ConversionRule.image : ConversionRule → List Char → List Char
  | toKanji, _ => kanjiDigits
  | toFullwidth, letters => convertWidth .numbers .fullwidth letters

/-- 知らない名前の規則は失敗するので、何も出さない。 -/
def Named.image : Named ConversionRule → List Char → List Char
  | known rule, letters => rule.image letters
  | unknown _, _ => []

theorem convertWidth_subset {target : WidthTarget} {direction : WidthDirection} {text : Text}
    {letters : List Char} (h : text ⊆ letters) :
    convertWidth target direction text ⊆ convertWidth target direction letters :=
  List.map_subset _ h

theorem applyRule_subset {rule : Named ConversionRule} {text out : Text} {letters : List Char}
    (htext : text ⊆ letters) (h : applyRule rule text = .ok out) : out ⊆ rule.image letters := by
  unfold applyRule at h
  split at h
  · split at h
    · next hkanji => cases h; exact numeralToKanji_subset hkanji
    · cases h
  · cases h
    exact convertWidth_subset htext
  · cases h

theorem applyRules_subset {rules : List (Named ConversionRule)} {text out : Text}
    {letters : List Char} (htext : text ⊆ letters) (h : applyRules rules text = .ok out) :
    out ⊆ rules.foldl (fun letters rule => rule.image letters) letters := by
  induction rules generalizing text letters with
  | nil =>
    cases h
    exact htext
  | cons rule rules ih =>
    unfold applyRules at h
    rw [List.foldlM_cons] at h
    obtain ⟨next, hnext, h⟩ := exists_of_bind_ok h
    exact ih (applyRule_subset htext hnext) h

/-! ## 一段 -/

/-- 値の文字。 -/
def Value.letters : Value → List Char
  | string s => s
  | strings parts => parts.flatten
  | nodes ns => Node.contents ns

theorem flatten_asParts_subset (v : Value) : (Step.asParts v).flatten ⊆ v.letters := by
  cases v with
  | string s => simp [Step.asParts, Value.letters]
  | strings parts => exact List.Subset.refl _
  | nodes ns => exact List.nil_subset _

theorem exists_of_mapM_ok {ε α β : Type} {f : α → Except ε β} {l : List α} {l' : List β}
    (h : l.mapM f = .ok l') : ∀ b ∈ l', ∃ a ∈ l, f a = .ok b := by
  induction l generalizing l' with
  | nil =>
    cases h
    intro b hb
    cases hb
  | cons a l ih =>
    rw [List.mapM_cons] at h
    obtain ⟨x, hx, h⟩ := exists_of_bind_ok h
    obtain ⟨xs, hxs, h⟩ := exists_of_bind_ok h
    cases h
    intro b hb
    rcases List.mem_cons.mp hb with rfl | hb
    · exact ⟨a, List.mem_cons_self, hx⟩
    · obtain ⟨y, hy, hfy⟩ := ih hxs b hb
      exact ⟨y, List.mem_cons_of_mem a hy, hfy⟩

namespace Step

/-- 出る文字を、渡す文字から決められる段か。 -/
def listable : Step → Bool
  | convertGroups rules => rules.all (·.rule == .toKanji)
  | processGroup _ => false
  | _ => true

/-- 番号のほかの雛形の文字。 -/
def residue (template : Text) : Text :=
  ((Regex.fillBraces (fun _ => []) (template.length + 1) template).toOption).getD []

/-- `letters` の文字からなる値を渡したときに出る文字。 -/
def image (letters : List Char) : Step → List Char
  | convertWidth (.known target) (.known direction) => Tategaki.convertWidth target direction letters
  | convertWidth _ _ => []
  | convertEach rules => rules.foldl (fun letters rule => rule.image letters) letters
  | convertGroups _ => kanjiDigits
  | join none separator => separator ++ letters
  | join (some template) _ => residue template ++ letters
  | wrap opening closing => opening ++ letters ++ closing
  | replace _ _ replacement => letters ++ replacement
  | splitBy _ => letters
  | processGroup _ => []

theorem mapStrings_letters {f : Text → Except RunError Text} {v w : Value}
    {letters letters' : List Char} (hf : ∀ text out, text ⊆ letters → f text = .ok out →
      out ⊆ letters') (hkind : v.kind ≠ .nodes) (hv : v.letters ⊆ letters)
    (h : mapStrings f v = .ok w) : w.letters ⊆ letters' := by
  cases v with
  | string s =>
    obtain ⟨out, hout, rfl⟩ := exists_of_map_ok h
    exact hf s out hv hout
  | strings parts =>
    obtain ⟨outs, houts, rfl⟩ := exists_of_map_ok h
    intro c hc
    obtain ⟨out, hout, hc⟩ := List.mem_flatten.mp hc
    obtain ⟨part, hpart, hpartOut⟩ := exists_of_mapM_ok houts out hout
    have hsub : part ⊆ letters := fun d hd => hv (List.mem_flatten.mpr ⟨part, hpart, hd⟩)
    exact hf part out hsub hpartOut hc
  | nodes ns => exact absurd rfl hkind

theorem joinParts_letters {template : Option Text} {separator out : Text} {parts : List Text}
    {letters : List Char} (hparts : parts.flatten ⊆ letters)
    (h : joinParts template separator parts = .ok out) :
    out ⊆ image letters (.join template separator) := by
  unfold joinParts at h
  split at h
  · cases h
    exact List.Subset.trans (Text.join_subset separator parts)
      (List.append_subset.mpr ⟨List.subset_append_left _ _,
        List.subset_append_of_subset_right _ hparts⟩)
  · next template =>
    dsimp only at h
    split at h
    · next hfill =>
      cases h
      obtain ⟨rest, hrest, hletters⟩ := fillBraces_letters _ hfill
      have hresidue : residue template = rest := by
        unfold residue
        rw [hrest]
        rfl
      intro c hc
      rcases hletters c hc with hc | ⟨number, hc⟩
      · exact List.mem_append_left _ (hresidue ▸ hc)
      · refine List.mem_append_right _ (hparts ?_)
        split at hc
        · cases hc
        · rw [List.getD_eq_getElem?_getD] at hc
          cases hpart : parts[number - 1]? with
          | none =>
            rw [hpart] at hc
            cases hc
          | some part =>
            rw [hpart] at hc
            exact List.mem_flatten.mpr ⟨part, List.mem_of_getElem? hpart, hc⟩
    · cases h

theorem convertNamedWidth_subset {target : Named WidthTarget} {direction : Named WidthDirection}
    {text out : Text} {letters : List Char} (htext : text ⊆ letters)
    (h : convertNamedWidth target direction text = .ok out) :
    out ⊆ image letters (.convertWidth target direction) := by
  unfold convertNamedWidth at h
  split at h
  · cases h
  · cases h
  · cases h
    exact convertWidth_subset htext

theorem convertGroupTexts_subset {m : Matched} {rules : List GroupRule} {parts : List Text}
    (hl : (convertGroups rules).listable = true) (h : convertGroupTexts m rules = .ok parts) :
    parts.flatten ⊆ kanjiDigits := by
  intro c hc
  obtain ⟨part, hpart, hc⟩ := List.mem_flatten.mp hc
  obtain ⟨rule, hrule, hconvert⟩ := exists_of_mapM_ok h part hpart
  have hkanji : rule.rule = .toKanji := by
    simpa using List.all_eq_true.mp hl rule hrule
  split at hconvert
  · next text _ =>
    rw [hkanji] at hconvert
    exact applyRule_subset (List.Subset.refl text) hconvert hc
  · cases hconvert

theorem contents_wrapNodes (opening closing : Text) (ns : List Node) :
    Node.contents (wrapNodes opening closing ns) = opening ++ Node.contents ns ++ closing := by
  unfold wrapNodes
  cases opening <;> cases closing <;> simp [Node.content]

theorem wrapped_subset (opening closing : Text) {text : Text} {letters : List Char}
    (h : text ⊆ letters) : opening ++ text ++ closing ⊆ opening ++ letters ++ closing := by
  intro c hc
  simp only [List.mem_append] at hc ⊢
  exact hc.imp_left (Or.imp_right fun hc => h hc)

/-- **段の出す値の文字は、渡した値の文字から決まる文字の中にある。** -/
theorem eval_letters {m : Matched} {canRescan : Bool} {s : Step} {v w : Value}
    {letters : List Char} (hl : s.listable = true) (hv : v.letters ⊆ letters)
    (h : s.eval m canRescan v = .ok (.value w)) : w.letters ⊆ s.image letters := by
  have hparts : (asParts v).flatten ⊆ letters := List.Subset.trans (flatten_asParts_subset v) hv
  unfold eval at h
  split at h
  · cases h
  · next ha =>
    -- 節の並びを受け取れない段では、値は節の並びでない
    split at h
    · next target direction =>
      obtain ⟨u, hu, hw⟩ := exists_of_map_ok h
      cases hw
      refine mapStrings_letters (fun text out htext hout => ?_) (fun hkind => ?_) hv hu
      · split at hout
        · next hconvert =>
          cases hout
          exact convertNamedWidth_subset htext hconvert
        · cases hout
      · simp [hkind, accepts] at ha
    · next rules =>
      obtain ⟨u, hu, hw⟩ := exists_of_map_ok h
      cases hw
      refine mapStrings_letters (fun text out htext hout => applyRules_subset htext hout)
        (fun hkind => ?_) hv hu
      simp [hkind, accepts] at ha
    · next rules =>
      obtain ⟨parts, hconvert, hw⟩ := exists_of_map_ok h
      cases hw
      exact convertGroupTexts_subset hl hconvert
    · next template separator =>
      obtain ⟨out, hjoin, hw⟩ := exists_of_map_ok h
      cases hw
      exact joinParts_letters hparts hjoin
    · next opening closing ns =>
      cases h
      show Node.contents (wrapNodes opening closing ns) ⊆ opening ++ letters ++ closing
      rw [contents_wrapNodes]
      exact wrapped_subset opening closing hv
    · next opening closing _ =>
      cases h
      exact wrapped_subset opening closing hparts
    · next source pattern replacement =>
      obtain ⟨out, hreplace, hw⟩ := exists_of_map_ok h
      cases hw
      have htext : (asParts v).flatten ⊆ letters ++ replacement :=
        List.subset_append_of_subset_left _ hparts
      refine replaceAll_subset htext (fun found text hexpand => ?_) hreplace
      exact List.Subset.trans (expandReplacement_subset hexpand)
        (List.append_subset.mpr ⟨htext, List.subset_append_right _ _⟩)
    · next separators =>
      cases h
      intro c hc
      obtain ⟨part, hpart, hc⟩ := List.mem_flatten.mp hc
      exact hparts (splitParts_subset hpart hc)
    · cases hl

end Step

/-! ## 並びの実行 -/

variable {σ ε : Type} {m : Matched} {patternName : Option String} {report : TransformError → ε}

theorem runSteps_letters {f : Rescan σ ε} {steps : List Step}
    (hl : steps.all Step.listable = true) : ∀ {letters : List Char} {index : Nat} {v w : Value}
      {s s' : σ}, v.letters ⊆ letters →
      runSteps m patternName (some f) report steps index v s = (.ok w, s') →
      w.letters ⊆ steps.foldl Step.image letters := by
  induction steps with
  | nil =>
    intro letters index v w s s' hv h
    cases h
    exact hv
  | cons step rest ih =>
    intro letters index v w s s' hv h
    rw [List.all_cons, Bool.and_eq_true] at hl
    rw [runSteps] at h
    cases heval : step.eval m true v with
    | error reason =>
      simp only [Option.isSome_some, heval] at h
      cases h
    | ok outcome =>
      cases outcome with
      | value u =>
        simp only [Option.isSome_some, heval] at h
        exact ih hl.2 (Step.eval_letters hl.1 hv heval) h
      | rescan segment start =>
        obtain ⟨group, stop, rfl, -⟩ := Step.eval_rescan heval
        cases hl.1

/-- 最後の値の文字は、そのまま節の文字になる。 -/
theorem finalize_contents {output : OutputKind} {v : Value} {nodes : List Node}
    (h : finalize output v = .ok nodes) : Node.contents nodes = v.letters := by
  have hparts : ∀ {v : Value}, (∀ ns, v ≠ .nodes ns) → (Step.asParts v).flatten = v.letters := by
    intro v hv
    cases v with
    | string s => simp [Step.asParts, Value.letters]
    | strings parts => rfl
    | nodes ns => exact absurd rfl (hv ns)
  unfold finalize at h
  split at h
  · cases h
    rfl
  · next hnodes =>
    rw [← hparts fun ns heq => hnodes ns heq]
    dsimp only at h
    split at h
    · split at h
      · cases h
      · cases h
        simp [Node.content]
    · cases h
      split
      · next hempty => simpa using hempty.symm
      · simp [Node.content]

/-- **走査を求めない並びの出す文字は、合ったところの文字から決まる文字の中にある。** -/
theorem applySteps_letters {f : Rescan σ ε} {steps : List Step} {output : OutputKind}
    {letters : List Char} {s s' : σ} {nodes : List Node} (hl : steps.all Step.listable = true)
    (hwhole : m.whole ⊆ letters)
    (h : applySteps steps m output patternName (some f) report s = (.ok nodes, s')) :
    Node.contents nodes ⊆ steps.foldl Step.image letters := by
  unfold applySteps at h
  split at h
  · cases h
  · next v s₁ hrun =>
    split at h
    · next hfinal =>
      cases h
      rw [finalize_contents hfinal]
      have hv : (Value.string m.whole).letters ⊆ letters := hwhole
      exact runSteps_letters hl hv hrun
    · cases h

/-! ## 走査し直して挟む -/

/-- 前後に書き足すだけの段か。 -/
def Step.isWrap : Step → Bool
  | wrap _ _ => true
  | _ => false

/-- 前後に書き足す文字。 -/
def Step.added : Step → List Char
  | wrap opening closing => opening ++ closing
  | _ => []

/-- 節が、`letters` の文字だけからなる文字列である。 -/
def Node.IsTextOf (letters : List Char) (node : Node) : Prop := ∃ s, node = .text s ∧ s ⊆ letters

theorem contents_subset_of_isTextOf {letters : List Char} {nodes : List Node}
    (h : ∀ node ∈ nodes, node.IsTextOf letters) : Node.contents nodes ⊆ letters := by
  intro c hc
  obtain ⟨node, hnode, hc⟩ := List.mem_flatMap.mp hc
  obtain ⟨s, rfl, hs⟩ := h node hnode
  exact hs hc

/-- 書き足すだけの並びは、最後まで動き、節の前後に文字列を足す。 -/
theorem runSteps_wraps (rescan : Option (Rescan σ ε)) (s : σ) {steps : List Step}
    (hw : steps.all Step.isWrap = true) : ∀ (index : Nat) (ns : List Node),
      ∃ before after : List Node,
        runSteps m patternName rescan report steps index (.nodes ns) s
          = (.ok (.nodes (before ++ ns ++ after)), s) ∧
        ∀ node ∈ before ++ after, node.IsTextOf (steps.flatMap Step.added) := by
  induction steps with
  | nil =>
    refine fun _ ns => ⟨[], [], ?_, fun _ hnode => nomatch hnode⟩
    rw [List.nil_append, List.append_nil]
    rfl
  | cons step rest ih =>
    intro index ns
    rw [List.all_cons, Bool.and_eq_true] at hw
    cases step with
    | wrap opening closing =>
      obtain ⟨before, after, hrun, hadded⟩ :=
        ih hw.2 (index + 1) (Step.wrapNodes opening closing ns)
      -- 段が足すのは、空でなければ、その前後の文字列である
      have hedge : ∀ edge, edge = opening ∨ edge = closing →
          ∀ node ∈ (if edge.isEmpty then [] else [Node.text edge]),
            node.IsTextOf ((Step.wrap opening closing :: rest).flatMap Step.added) := by
        intro edge hedge node hnode
        split at hnode
        · cases hnode
        · refine ⟨edge, List.mem_singleton.mp hnode, ?_⟩
          rw [List.flatMap_cons]
          refine List.subset_append_of_subset_left _ ?_
          rcases hedge with rfl | rfl
          · exact List.subset_append_left _ _
          · exact List.subset_append_right _ _
      have hrest : ∀ node ∈ before ++ after,
          node.IsTextOf ((Step.wrap opening closing :: rest).flatMap Step.added) := by
        intro node hnode
        obtain ⟨s, rfl, hs⟩ := hadded node hnode
        exact ⟨s, rfl, List.subset_append_of_subset_right _ hs⟩
      refine ⟨before ++ (if opening.isEmpty then [] else [.text opening]),
        (if closing.isEmpty then [] else [.text closing]) ++ after, ?_, fun node hnode => ?_⟩
      · show runSteps m patternName rescan report rest (index + 1)
          (.nodes (Step.wrapNodes opening closing ns)) s = _
        rw [hrun]
        simp only [Step.wrapNodes, List.append_assoc]
      · simp only [List.mem_append] at hnode
        rcases hnode with (hnode | hnode) | hnode | hnode
        · exact hrest node (List.mem_append_left _ hnode)
        · exact hedge opening (.inl rfl) node hnode
        · exact hedge closing (.inr rfl) node hnode
        · exact hrest node (List.mem_append_right _ hnode)
    | _ => cases hw.1

/-- **組を走査し直して書き足すだけの並びは、答えの前後に、書き足す文字だけを足す。** -/
theorem applySteps_reprocess {answers : Text → List Node} {group : Nat} {rest : List Step}
    {output : OutputKind} {produced : List Node} (hw : rest.all Step.isWrap = true)
    (h : applySteps (.processGroup group :: rest) m output patternName (some (recite answers)) id ()
      = (.ok produced, ())) :
    ∃ a b, ∃ before after : List Node, m.found.span? group = some (a, b) ∧
      produced = before ++ answers (Text.slice m.input a b) ++ after ∧
      ∀ node ∈ before ++ after, node.IsTextOf (rest.flatMap Step.added) := by
  unfold applySteps at h
  split at h
  · cases h
  · next v s hrun =>
    split at h
    · next hfinal =>
      cases h
      rw [runSteps] at hrun
      cases heval : (Step.processGroup group).eval m true (.string m.whole) with
      | error reason =>
        simp only [Option.isSome_some, heval] at hrun
        cases hrun
      | ok outcome =>
        cases outcome with
        | value u => cases (Step.eval_value heval).1
        | rescan segment start =>
          obtain ⟨number, stop, hgroup, hspan, rfl⟩ := Step.eval_rescan heval
          cases hgroup
          simp only [Option.isSome_some, heval, rescanWith, recite] at hrun
          obtain ⟨before, after, hwraps, hadded⟩ := runSteps_wraps
            (some (recite answers)) () hw 1 (answers (Text.slice m.input start stop))
          cases hwraps.symm.trans hrun
          cases hfinal
          exact ⟨start, stop, before, after, hspan, rfl, hadded⟩
    · cases h

end Tategaki
