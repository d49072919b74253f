import Tategaki.Proofs.Number.Kanji
import Tategaki.Proofs.Step.Outcome
import Tategaki.Step.Parse

/-!
# 段の失敗の理由

設定から読んだ段は知られた名前だけを使う（`Step.UsesKnownNames`）。そのような段が、受け取れる
種類の値で動き、式にある組だけを指すなら、失敗の理由は段を動かしてみなければ分からないもの
（`Excused`）に限られる（`excused_of_eval_error`）。

理由は段の作りをたどって探す。並びの写しと畳み込みは、失敗した要素を一つ持つ
（`exists_of_mapM_error`、`exists_of_foldlM_error`）。番号の差し込みが失敗するのは、桁が多すぎる番号が
雛形のどこかに書かれているときである（`LongReference`）。
-/

namespace Tategaki

/-! ## 失敗する本体を探す -/

theorem exists_of_mapM_error {ε α β : Type} {f : α → Except ε β} {l : List α} {e : ε}
    (h : l.mapM f = .error e) : ∃ a ∈ l, f a = .error e := by
  induction l with
  | nil => cases h
  | cons a l ih =>
    rw [List.mapM_cons] at h
    rcases exists_of_bind_error h with ha | ⟨b, -, h⟩
    · exact ⟨a, List.mem_cons_self, ha⟩
    · rcases exists_of_bind_error h with hl | ⟨bs, -, h⟩
      · obtain ⟨x, hx, hfx⟩ := ih hl
        exact ⟨x, List.mem_cons_of_mem _ hx, hfx⟩
      · cases h

/-- 一つでも失敗すれば、全体も失敗する。 -/
theorem mapM_error_of_mem {ε α β : Type} {f : α → Except ε β} {l : List α} {a : α} {e : ε}
    (ha : a ∈ l) (h : f a = .error e) : ∃ e', l.mapM f = .error e' := by
  induction l with
  | nil => cases ha
  | cons b l ih =>
    rw [List.mapM_cons]
    cases hb : f b with
    | error e' => exact ⟨e', rfl⟩
    | ok x =>
      rcases List.mem_cons.mp ha with rfl | ha
      · rw [h] at hb; cases hb
      · obtain ⟨e', he'⟩ := ih ha
        rw [he']
        exact ⟨e', rfl⟩

theorem exists_of_foldlM_error {ε α β : Type} {f : β → α → Except ε β} {l : List α} {b : β}
    {e : ε} (h : l.foldlM f b = .error e) : ∃ a ∈ l, ∃ c, f c a = .error e := by
  induction l generalizing b with
  | nil => cases h
  | cons a l ih =>
    rw [List.foldlM_cons] at h
    rcases exists_of_bind_error h with ha | ⟨c, -, h⟩
    · exact ⟨a, List.mem_cons_self, b, ha⟩
    · obtain ⟨x, hx, d, hd⟩ := ih h
      exact ⟨x, List.mem_cons_of_mem _ hx, d, hd⟩

/-- 置き換えが失敗したなら、どこかの合い方の差し込みが失敗している。 -/
theorem exists_of_replaceAll_error {ε : Type} {p : Regex.Pattern} {text : Text}
    {replacement : Regex.Match → Except ε Text} {e : ε}
    (h : p.replaceAll text replacement = .error e) : ∃ found, replacement found = .error e := by
  have key : ∀ (fuel kept position : Nat) (advancing : Bool) (done : List Text),
      p.replaceLoop text.toArray replacement fuel kept position advancing done = .error e →
      ∃ found, replacement found = .error e := by
    intro fuel
    induction fuel with
    | zero => intro _ _ _ _ h; cases h
    | succ fuel ih =>
      intro kept position advancing done h
      rw [Regex.Pattern.replaceLoop] at h
      split at h
      · cases h
      · next found _ =>
        split at h
        · next hf => cases h; exact ⟨found, hf⟩
        · exact ih _ _ _ _ h
  exact key _ _ _ _ _ (error_of_map_error h)

/-! ## 桁の上限 -/

/-- 端の空白を除けば、上限を越えない個数の十進数字である。 -/
def IsNumeral (text : Text) : Prop :=
  ∃ digits, digitValues (Unicode.strip text) = some digits ∧ digits ≠ [] ∧
    digits.length ≤ Json.maxIntegerDigits

theorem IsNumeral.toKanji {text : Text} (h : IsNumeral text) :
    ∃ out, numeralToKanji text = .ok out := by
  obtain ⟨digits, hd, hne, hle⟩ := h
  exact ⟨_, numeralToKanji_eq_ok_iff.mpr ⟨digits, hd, hne, hle, rfl⟩⟩

theorem not_isNumeral_of_error {text : Text} {e : WidthError}
    (h : numeralToKanji text = .error e) : ¬ IsNumeral text := by
  intro hn
  obtain ⟨out, hout⟩ := hn.toKanji
  rw [h] at hout
  cases hout

/-- `lead` の後に、上限を越える `count` 個の数字が続くところがある。`closing` は数字の後に続く
文字の並びである。 -/
def LongReference (lead : Char) (closing template : Text) (count : Nat) : Prop :=
  ∃ before digits after, template = before ++ lead :: (digits ++ closing ++ after) ∧
    (∀ c ∈ digits, Unicode.isDecimal c = true) ∧ digits.length = count ∧
    Json.maxIntegerDigits < count

theorem LongReference.cons {lead : Char} {closing template : Text} {count : Nat} (c : Char)
    (h : LongReference lead closing template count) :
    LongReference lead closing (c :: template) count := by
  obtain ⟨before, digits, after, rfl, hd, hl, hm⟩ := h
  exact ⟨c :: before, digits, after, rfl, hd, hl, hm⟩

theorem LongReference.append {lead : Char} {closing template : Text} {count : Nat} (head : Text)
    (h : LongReference lead closing template count) :
    LongReference lead closing (head ++ template) count := by
  induction head with
  | nil => exact h
  | cons c head ih => exact ih.cons c

theorem leadingDigits_append (s : Text) :
    (Regex.leadingDigits s).1 ++ (Regex.leadingDigits s).2 = s := List.takeWhile_append_dropWhile

theorem isDecimal_of_mem_leadingDigits {s : Text} {c : Char}
    (h : c ∈ (Regex.leadingDigits s).1) : Unicode.isDecimal c = true :=
  List.all_eq_true.mp List.all_takeWhile c h

/-- 番号として読めないのは、桁が多すぎるときだけである。 -/
theorem referenceNumber_error {digits : Text} {count : Nat}
    (h : Regex.referenceNumber digits = .error count) :
    digits.length = count ∧ Json.maxIntegerDigits < count := by
  unfold Regex.referenceNumber at h
  split at h
  · next hlt => cases h; exact ⟨rfl, hlt⟩
  · cases h

theorem fillDollars_error {value : Nat → Option Text} {count : Nat} (fuel : Nat) :
    ∀ {template : Text}, Regex.fillDollars value fuel template = .error count →
      LongReference '$' [] template count := by
  induction fuel with
  | zero => intro template h; cases h
  | succ fuel ih =>
    intro template h
    cases template with
    | nil => cases h
    | cons c rest =>
      rw [Regex.fillDollars] at h
      have hsplit := leadingDigits_append rest
      have hdec := fun d => isDecimal_of_mem_leadingDigits (s := rest) (c := d)
      -- 数字とその後ろを、どこで分けたかは忘れて名付ける
      generalize Regex.leadingDigits rest = pair at h hsplit hdec
      obtain ⟨digits, after⟩ := pair
      simp only at h hsplit hdec
      split at h
      · next hc =>
        simp only [Bool.and_eq_true, beq_iff_eq] at hc
        rcases exists_of_bind_error h with hn | ⟨number, -, h⟩
        · obtain ⟨hl, hm⟩ := referenceNumber_error hn
          exact ⟨[], digits, after, by simp [hc.1, hsplit], hdec, hl, hm⟩
        · rcases exists_of_bind_error h with hf | ⟨tail, -, h⟩
          · rw [← hsplit]
            exact ((ih hf).append digits).cons c
          · cases h
      · rcases exists_of_bind_error h with hf | ⟨tail, -, h⟩
        · exact (ih hf).cons c
        · cases h

theorem fillBraces_error {value : Nat → Text} {count : Nat} (fuel : Nat) :
    ∀ {template : Text}, Regex.fillBraces value fuel template = .error count →
      LongReference '{' ['}'] template count := by
  induction fuel with
  | zero => intro template h; cases h
  | succ fuel ih =>
    intro template h
    cases template with
    | nil => cases h
    | cons c rest =>
      rw [Regex.fillBraces] at h
      have hsplit := leadingDigits_append rest
      have hdec := fun d => isDecimal_of_mem_leadingDigits (s := rest) (c := d)
      generalize Regex.leadingDigits rest = pair at h hsplit hdec
      obtain ⟨digits, after⟩ := pair
      simp only at h hsplit hdec
      split at h
      · next hc =>
        simp only [Bool.and_eq_true, beq_iff_eq] at hc
        obtain ⟨tail, rfl⟩ : ∃ tail, after = '}' :: tail := by
          cases after with
          | nil => simp at hc
          | cons d tail => exact ⟨tail, by simpa using hc.2⟩
        rcases exists_of_bind_error h with hn | ⟨number, -, h⟩
        · obtain ⟨hl, hm⟩ := referenceNumber_error hn
          exact ⟨[], digits, tail, by simp [hc.1.1, ← hsplit], hdec, hl, hm⟩
        · rcases exists_of_bind_error h with hf | ⟨s, -, h⟩
          · -- 閉じ括弧までを、番号でない文字として手前に残す
            rw [← hsplit]
            exact ((ih hf).cons '}' |>.append digits).cons c
          · cases h
      · rcases exists_of_bind_error h with hf | ⟨tail, -, h⟩
        · exact (ih hf).cons c
        · cases h

/-! ## 設定から読んだ段 -/

/-- 知られた名前か。 -/
def Named.IsKnown {α : Type} : Named α → Prop
  | known _ => True
  | unknown _ => False

namespace Step

/-- 知られた名前だけを使う段か。 -/
def UsesKnownNames : Step → Prop
  | convertWidth target direction => target.IsKnown ∧ direction.IsKnown
  | convertEach rules => ∀ rule ∈ rules, rule.IsKnown
  | _ => True

theorem usesKnownNames_readWidth {fields : Fields} {s : Step} (h : readWidth fields = .ok s) :
    s.UsesKnownNames := by
  obtain ⟨target, -, h⟩ := exists_of_bind_ok h
  obtain ⟨direction, -, h⟩ := exists_of_bind_ok h
  dsimp only at h
  split at h
  · cases h; exact ⟨trivial, trivial⟩
  · cases h
  · cases h

theorem isKnown_readRule {item : Json} {rule : Named ConversionRule}
    (h : readRule item = .ok rule) : rule.IsKnown := by
  unfold readRule at h
  split at h
  · dsimp only at h
    split at h
    · cases h; trivial
    · cases h
  · dsimp only at h
    split at h
    · cases h; trivial
    · cases h

theorem isKnown_of_mapM_readRule {items : List Json} {rules : List (Named ConversionRule)}
    (h : items.mapM readRule = .ok rules) : ∀ rule ∈ rules, rule.IsKnown := by
  induction items generalizing rules with
  | nil => cases h; simp
  | cons item items ih =>
    rw [List.mapM_cons] at h
    obtain ⟨rule, hrule, h⟩ := exists_of_bind_ok h
    obtain ⟨rest, hrest, h⟩ := exists_of_bind_ok h
    cases h
    intro x hx
    rcases List.mem_cons.mp hx with rfl | hx
    · exact isKnown_readRule hrule
    · exact ih hrest x hx

theorem usesKnownNames_toKanji : (convertEach [.known .toKanji]).UsesKnownNames := by
  intro rule hr
  rw [List.mem_singleton.mp hr]
  trivial

theorem usesKnownNames_readRules {fields : Fields} {rules : List (Named ConversionRule)}
    (h : readRules fields = .ok rules) : (convertEach rules).UsesKnownNames := by
  unfold readRules at h
  split at h
  · cases h; exact usesKnownNames_toKanji
  · exact isKnown_of_mapM_readRule h
  · cases h

theorem usesKnownNames_readReplace {fields : Fields} {s : Step}
    (h : readReplace fields = .ok s) : s.UsesKnownNames := by
  obtain ⟨source, -, h⟩ := exists_of_bind_ok h
  dsimp only at h
  split at h
  · cases h
  · split at h
    · obtain ⟨pattern, -, h⟩ := exists_of_bind_ok h
      obtain ⟨replacement, -, h⟩ := exists_of_bind_ok h
      cases h
      trivial
    · cases h
    · cases h
    · cases h

theorem usesKnownNames_readSplit {fields : Fields} {s : Step} (h : readSplit fields = .ok s) :
    s.UsesKnownNames := by
  obtain ⟨separators, -, h⟩ := exists_of_bind_ok h
  split at h
  · cases h
  · cases h; trivial

theorem usesKnownNames_readAction {fields : Fields} {action : String} {s : Step}
    (h : readAction fields action = .ok s) : s.UsesKnownNames := by
  unfold readAction at h
  split at h
  · exact usesKnownNames_readWidth h
  · obtain ⟨rules, hrules, h⟩ := exists_of_bind_ok h
    cases h
    exact usesKnownNames_readRules hrules
  · cases h; exact usesKnownNames_toKanji
  · obtain ⟨rules, -, h⟩ := exists_of_bind_ok h
    cases h
    trivial
  · obtain ⟨template, -, h⟩ := exists_of_bind_ok h
    obtain ⟨separator, -, h⟩ := exists_of_bind_ok h
    cases h
    trivial
  · obtain ⟨opening, -, h⟩ := exists_of_bind_ok h
    obtain ⟨closing, -, h⟩ := exists_of_bind_ok h
    cases h
    trivial
  · exact usesKnownNames_readReplace h
  · exact usesKnownNames_readSplit h
  · exact usesKnownNames_readSplit h
  · obtain ⟨group, -, h⟩ := exists_of_bind_ok h
    cases h
    trivial
  · obtain ⟨group, -, h⟩ := exists_of_bind_ok h
    cases h
    trivial
  · cases h

/-- 設定から読んだ段は、知られた名前だけを使う。 -/
theorem usesKnownNames_parse {value : Json} {s : Step} (h : parse value = .ok s) :
    s.UsesKnownNames := by
  unfold parse at h
  split at h
  · split at h
    · exact usesKnownNames_readAction h
    · cases h
    · cases h
    · cases h
  · cases h

end Step

/-! ## 一段の失敗 -/

namespace Step

/-- 漢数字にする規則を使う段か。 -/
def UsesToKanji : Step → Prop
  | convertEach rules => .known .toKanji ∈ rules
  | convertGroups rules => ∃ r ∈ rules, r.rule = .toKanji
  | _ => False

end Step

/-- 検めでは分からない、段の失敗の理由。 -/
inductive Excused (m : Matched) (canRescan : Bool) : Step → RunError → Prop
  /-- 漢数字にする文字列が、桁の上限を越えない数字でない。 -/
  | notNumeral {s : Step} {text : Text} {e : WidthError} (hs : s.UsesToKanji)
      (hn : ¬ IsNumeral text) (he : numeralToKanji text = .error e) :
      Excused m canRescan s (.width e)
  /-- 指した組が合わなかった。 -/
  | absentGroup {s : Step} {group : Nat} (hg : group ∈ s.groupsUsed)
      (ha : m.group? group = none) : Excused m canRescan s (.absentGroup group)
  /-- 走査するものを持たない。 -/
  | noRescan {group : Nat} (hc : canRescan = false) :
      Excused m canRescan (.processGroup group) .noRescan
  /-- 置き換えの文字列の番号の桁が多すぎる。 -/
  | longDollar {source replacement : Text} {pattern : Regex.Pattern} {count : Nat}
      (hl : LongReference '$' [] replacement count) :
      Excused m canRescan (.replace source pattern replacement) (.tooManyDigits count)
  /-- 雛形の番号の桁が多すぎる。 -/
  | longBrace {template separator : Text} {count : Nat}
      (hl : LongReference '{' ['}'] template count) :
      Excused m canRescan (.join (some template) separator) (.tooManyDigits count)

/-- 段を動かさなくても分かるはずの理由か。 -/
def RunError.IsForeseeable : RunError → Prop
  | cannotApply .. => True
  | missingGroup => True
  | unknownRule _ => True
  | _ => False

theorem Excused.not_isForeseeable {m : Matched} {canRescan : Bool} {s : Step} {reason : RunError}
    (h : Excused m canRescan s reason) : ¬ reason.IsForeseeable := by
  cases h <;> exact id

theorem exists_of_mapStrings_error {f : Text → Except RunError Text} {v : Value}
    {reason : RunError} (h : Step.mapStrings f v = .error reason) :
    ∃ text, f text = .error reason := by
  unfold Step.mapStrings at h
  split at h
  · exact ⟨_, error_of_map_error h⟩
  · obtain ⟨text, -, ht⟩ := exists_of_mapM_error (error_of_map_error h)
    exact ⟨text, ht⟩
  · cases h

theorem applyRule_error {rule : Named ConversionRule} {text : Text} {reason : RunError}
    (hk : rule.IsKnown) (h : applyRule rule text = .error reason) :
    rule = .known .toKanji ∧ ∃ e, reason = .width e ∧ numeralToKanji text = .error e := by
  unfold applyRule at h
  split at h
  · split at h
    · cases h
    · next e he => cases h; exact ⟨rfl, e, rfl, he⟩
  · cases h
  · exact hk.elim

/-- 式にある組を読めないのは、その組が合わなかったときだけである。 -/
theorem groupText_error {m : Matched} {number : Nat} {reason : RunError}
    (hle : number ≤ m.groupCount) (h : groupText m number = .error reason) :
    reason = .absentGroup number ∧ m.group? number = none := by
  unfold groupText at h
  rw [if_neg (Nat.not_lt.mpr hle)] at h
  split at h
  · cases h
  · next hnone => cases h; exact ⟨rfl, hnone⟩

theorem joinParts_error {template : Option Text} {separator : Text} {parts : List Text}
    {reason : RunError} (h : joinParts template separator parts = .error reason) :
    ∃ t count, template = some t ∧ reason = .tooManyDigits count ∧
      LongReference '{' ['}'] t count := by
  unfold joinParts at h
  split at h
  · cases h
  · next t =>
    dsimp only at h
    split at h
    · cases h
    · next count hf => cases h; exact ⟨t, count, rfl, rfl, fillBraces_error _ hf⟩

theorem expandReplacement_error {input template : Text} {groupCount : Nat} {found : Regex.Match}
    {reason : RunError} (h : expandReplacement input groupCount template found = .error reason) :
    ∃ count, reason = .tooManyDigits count ∧ LongReference '$' [] template count := by
  unfold expandReplacement at h
  dsimp only at h
  split at h
  · cases h
  · next count hf => cases h; exact ⟨count, rfl, fillDollars_error _ hf⟩

/-- **受け取れる値と式にある組だけを扱う段の失敗は、検めでは分からない理由による。** -/
theorem excused_of_eval_error {m : Matched} {canRescan : Bool} {s : Step} {v : Value}
    {reason : RunError} (hknown : s.UsesKnownNames) (ha : s.accepts v.kind = true)
    (hgroups : ∀ group ∈ s.groupsUsed, group ≤ m.groupCount)
    (h : s.eval m canRescan v = .error reason) : Excused m canRescan s reason := by
  unfold Step.eval at h
  rw [if_neg (by simp [ha])] at h
  -- 場合分けは段の種類ごと。失敗しない種類は矛盾になる
  split at h
  · next target direction =>
    obtain ⟨text, ht⟩ := exists_of_mapStrings_error (error_of_map_error h)
    cases target with
    | known t =>
      cases direction with
      | known d => cases ht
      | unknown name => exact hknown.2.elim
    | unknown name => exact hknown.1.elim
  · next rules =>
    obtain ⟨text, ht⟩ := exists_of_mapStrings_error (error_of_map_error h)
    obtain ⟨rule, hmem, text', hrule⟩ := exists_of_foldlM_error ht
    obtain ⟨rfl, e, rfl, he⟩ := applyRule_error (hknown rule hmem) hrule
    exact .notNumeral hmem (not_isNumeral_of_error he) he
  · next rules =>
    obtain ⟨r, hmem, hr⟩ := exists_of_mapM_error (error_of_map_error h)
    have hused : r.group ∈ (Step.convertGroups rules).groupsUsed := List.mem_map_of_mem hmem
    split at hr
    · have hknown : (Named.known r.rule).IsKnown := trivial
      obtain ⟨hrule, e, rfl, he⟩ := applyRule_error hknown hr
      exact .notNumeral ⟨r, hmem, Named.known.inj hrule⟩ (not_isNumeral_of_error he) he
    · next hg =>
      cases hr
      obtain ⟨rfl, hnone⟩ := groupText_error (hgroups _ hused) hg
      exact .absentGroup hused hnone
  · obtain ⟨t, count, rfl, rfl, hlong⟩ := joinParts_error (error_of_map_error h)
    exact .longBrace hlong
  · cases h
  · cases h
  · obtain ⟨found, hf⟩ := exists_of_replaceAll_error (error_of_map_error h)
    obtain ⟨count, rfl, hlong⟩ := expandReplacement_error hf
    exact .longDollar hlong
  · cases h
  · next group =>
    have hused : group ∈ (Step.processGroup group).groupsUsed := List.mem_singleton_self group
    split at h
    · next hc => cases h; exact .noRescan (by simpa using hc)
    · split at h
      · cases h
      · next hg =>
        cases h
        obtain ⟨rfl, hnone⟩ := groupText_error (hgroups _ hused) hg
        exact .absentGroup hused hnone

end Tategaki
