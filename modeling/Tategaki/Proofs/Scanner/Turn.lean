import Tategaki.Proofs.Regex.Reach
import Tategaki.Scanner

/-!
# 走査の一歩

枠の中の走査（`Scanner.loop`）は、一歩（`Scanner.turn`）の繰り返しである。一歩は、失敗して止まるか、
塞がれた区間を飛ばすか、一文字進むか、規則が勝つかのどれかである。節を返して終わる走査は、一歩ごとの
関係（`Scanner.Passes`）に書き直せる。

段数を数えながら枠を重ねる `Scanner.scanFrame` は、深さだけを見て自分自身を呼ぶ形に書き直せる
（`Scanner.scanAt_eq`）。枠についての帰納法は、一段深い枠で成り立つことから枠で成り立つことを示す
形になる（`Scanner.scanAt_induction`）。
-/

namespace Tategaki

/-! ## 枠 -/

namespace Scanner

variable {τ : Type}

/-- 文字列を走査する枠。 -/
def Frame.of (ctx : Context) (text : Text) (offset : Int) : Frame := ⟨ctx, text, text.toArray, offset⟩

@[simp] theorem Frame.of_text (ctx : Context) (text : Text) (offset : Int) :
    (Frame.of ctx text offset).text = text := rfl

@[simp] theorem Frame.of_input (ctx : Context) (text : Text) (offset : Int) :
    (Frame.of ctx text offset).input = text.toArray := rfl

@[simp] theorem Frame.of_offset (ctx : Context) (text : Text) (offset : Int) :
    (Frame.of ctx text offset).offset = offset := rfl

@[simp] theorem Frame.of_ctx (ctx : Context) (text : Text) (offset : Int) :
    (Frame.of ctx text offset).ctx = ctx := rfl

/-- 一番外側の文字列での、枠の終わり。 -/
def Frame.stop (frame : Frame) : Int := frame.offset + frame.text.length

/-- 合ったところの区間。 -/
def Frame.range (frame : Frame) (rule : Rule) (found : Regex.Match) : ProcessedRange :=
  ⟨frame.offset + found.start, frame.offset + found.stop, rule.name⟩

/-- 合ったところの、勝ちの記録。 -/
def Frame.win (frame : Frame) (rule : Rule) (found : Regex.Match) : Win :=
  ⟨rule.name, Text.slice frame.text found.start found.stop, frame.offset + found.start,
    frame.ctx.depth⟩

/-- 塞がれた区間を飛ばした後の位置。 -/
def Frame.afterSkip (frame : Frame) (range : ProcessedRange) : Nat :=
  min (range.stop - frame.offset).toNat frame.text.length

/-- 塞がれた区間を飛ばす前に出す文字列の終わり。 -/
def Frame.beforeSkip (frame : Frame) (range : ProcessedRange) (last : Nat) : Nat :=
  max (range.start - frame.offset).toNat last

/-- 枠の中の規則が求める走査。 -/
def rescan (sc : Scanner τ) (ctx : Context) (offset : Int) (name : String) :
    Rescan (ScanState τ) ScanError :=
  fun segment start st => sc.scanAt (ctx.child name) segment (offset + start) st

/-! ## 深さ -/

theorem levels_child (limits : Limits) (depth : Int) :
    levels limits (depth + 1) = levels limits depth - 1 := by
  unfold levels
  omega

/-- 深さの上限を越えた文脈は、検めを通らない。 -/
theorem depth_le_of_validate {sc : Scanner τ} {ctx : Context} {st st' : ScanState τ}
    (h : sc.validate ctx st = (none, st')) : ctx.depth ≤ sc.limits.maxDepth.value := by
  unfold validate at h
  dsimp only at h
  split at h
  · cases h
  · split at h
    · cases h
    · next hdepth => exact Int.not_lt.mp hdepth

/-- 検めは、時計を一度読むだけである。 -/
theorem validate_state (sc : Scanner τ) (ctx : Context) (st : ScanState τ) :
    (sc.validate ctx st).2 = (st.readClock sc.read).2 := by
  unfold validate
  dsimp only
  split
  · rfl
  · split <;> rfl

theorem state_of_validate {sc : Scanner τ} {ctx : Context} {st st' : ScanState τ}
    {e : Option ScanError} (h : sc.validate ctx st = (e, st')) :
    st' = (st.readClock sc.read).2 := by
  rw [← validate_state sc ctx st, h]

/-- **枠の走査は、検めてから枠の中を辿り、求めがあれば一段深い枠を走査する。** -/
theorem scanAt_eq (sc : Scanner τ) (ctx : Context) (text : Text) (offset : Int)
    (st : ScanState τ) :
    sc.scanAt ctx text offset st =
      match sc.validate ctx st with
      | (some e, st) => (.error e, st)
      | (none, st) =>
        sc.loop (.of ctx text offset) (sc.rescan ctx offset) text.length 0 0 st := by
  unfold scanAt
  cases hlevels : levels sc.limits ctx.depth with
  | zero =>
    rw [scanFrame]
    cases hvalid : sc.validate ctx st with
    | mk e st₁ =>
      cases e with
      | some e => rfl
      | none =>
        -- 段数が零なら深さの上限を越えているので、検めを通ったはずはない
        have hdepth := depth_le_of_validate hvalid
        unfold levels at hlevels
        omega
  | succ n =>
    have hrescan : sc.rescan ctx offset = fun name (segment : Text) (start : Nat) st =>
        sc.scanFrame n (ctx.child name) segment (offset + start) st := by
      funext name segment start st
      unfold rescan scanAt
      rw [show levels sc.limits (ctx.child name).depth = n by
        show levels sc.limits (ctx.depth + 1) = n
        rw [levels_child, hlevels, Nat.add_sub_cancel]]
    rw [scanFrame, hrescan]
    rfl

/-- 枠についての帰納法。深さの上限の内では、一段深い枠で成り立つことを使える。 -/
theorem scanAt_induction (sc : Scanner τ) {motive : Context → Prop}
    (step : ∀ ctx, (ctx.depth ≤ sc.limits.maxDepth.value → ∀ name, motive (ctx.child name)) →
      motive ctx) (ctx : Context) : motive ctx := by
  -- 段数についての帰納法に直す
  have key : ∀ n ctx, levels sc.limits ctx.depth = n → motive ctx := by
    intro n
    induction n with
    | zero =>
      intro ctx hn
      refine step ctx fun hdepth => ?_
      unfold levels at hn
      omega
    | succ n ih =>
      intro ctx hn
      refine step ctx fun _ name => ih _ ?_
      show levels sc.limits (ctx.depth + 1) = n
      rw [levels_child, hn, Nat.add_sub_cancel]
  exact key _ ctx rfl

/-! ## 一歩 -/

/-- 一歩の行い。 -/
inductive Turn where
  /-- 検めを通らずに止まる。 -/
  | stop (e : ScanError)
  /-- 塞がれた区間を飛ばす。 -/
  | skip (range : ProcessedRange)
  /-- 一文字進む。 -/
  | step
  /-- 規則が勝つ。 -/
  | win (rule : Rule) (found : Regex.Match)

/-- 枠の中の位置での一歩。 -/
def turn (sc : Scanner τ) (frame : Frame) (position : Nat) (st : ScanState τ) :
    Turn × ScanState τ :=
  match sc.validate frame.ctx st with
  | (some e, st) => (.stop e, st)
  | (none, st) =>
    match ProcessedRange.blocking? st.ranges (frame.offset + position) frame.offset frame.stop with
    | some range => (.skip range, st)
    | none =>
      match winner? sc.rules frame.input position with
      | none => (.step, st)
      | some (rule, found) => (.win rule found, st)

/-- 勝った規則の段を使う。 -/
def transform (frame : Frame) (rescan : String → Rescan (ScanState τ) ScanError) (rule : Rule)
    (found : Regex.Match) (st : ScanState τ) : Result τ (List Node) :=
  let won := st.record (frame.range rule found) (frame.win rule found)
  match won.charge rule.name with
  | .error e => (.error (.budget e), won)
  | .ok st => rule.process frame.text found (some (rescan rule.name)) .transform st

theorem loop_done (sc : Scanner τ) (frame : Frame)
    (rescan : String → Rescan (ScanState τ) ScanError) {fuel position last : Nat}
    {st : ScanState τ} (h : frame.text.length ≤ position) :
    sc.loop frame rescan fuel position last st
      = (.ok (gap frame.text last frame.text.length), st) := by
  cases fuel with
  | zero => rw [loop]
  | succ fuel => rw [loop, if_neg (Nat.not_lt.mpr h)]

/-- **枠の中を辿ることは、一歩の繰り返しである。** -/
theorem loop_succ (sc : Scanner τ) (frame : Frame)
    (rescan : String → Rescan (ScanState τ) ScanError) {fuel position last : Nat}
    {st : ScanState τ} (h : position < frame.text.length) :
    sc.loop frame rescan (fuel + 1) position last st =
      match sc.turn frame position st with
      | (.stop e, st) => (.error e, st)
      | (.skip range, st) =>
        match sc.loop frame rescan fuel (frame.afterSkip range) (frame.afterSkip range) st with
        | (.ok rest, st) => (.ok (gap frame.text last (frame.beforeSkip range last) ++ rest), st)
        | (.error e, st) => (.error e, st)
      | (.step, st) => sc.loop frame rescan fuel (position + 1) last st
      | (.win rule found, st) =>
        match transform frame rescan rule found st with
        | (.error e, st) => (.error e, st)
        | (.ok produced, st) =>
          match sc.loop frame rescan fuel found.stop found.stop st with
          | (.ok rest, st) => (.ok (gap frame.text last found.start ++ produced ++ rest), st)
          | (.error e, st) => (.error e, st) := by
  rw [loop, if_pos h]
  unfold turn transform
  cases hvalid : sc.validate frame.ctx st with
  | mk e st₁ =>
    cases e with
    | some e => rfl
    | none =>
      dsimp only
      simp only [Frame.stop]
      cases hblock : ProcessedRange.blocking? st₁.ranges (frame.offset + position) frame.offset
          (frame.offset + frame.text.length) with
      | some range => rfl
      | none =>
        cases hwinner : winner? sc.rules frame.input position with
        | none => rfl
        | some won =>
          obtain ⟨rule, found⟩ := won
          dsimp only
          simp only [Frame.range, Frame.win]
          cases (st₁.record _ _).charge rule.name with
          | error e => rfl
          | ok st₂ => rfl

/-! ## 一歩の読み解き -/

/-- 一歩の行いが、位置を塞ぐ区間と、位置で勝つ規則に合っている。 -/
def Turn.Fits (sc : Scanner τ) (frame : Frame) (position : Nat) (ranges : List ProcessedRange) :
    Turn → Prop
  | stop _ => True
  | skip range => ProcessedRange.blocking? ranges (frame.offset + position) frame.offset frame.stop
      = some range
  | step => ProcessedRange.blocking? ranges (frame.offset + position) frame.offset frame.stop = none ∧
      winner? sc.rules frame.input position = none
  | win rule found =>
    ProcessedRange.blocking? ranges (frame.offset + position) frame.offset frame.stop = none ∧
      winner? sc.rules frame.input position = some (rule, found)

/-- **一歩は、検めを通れば、塞ぐ区間と勝つ規則だけで決まる。** -/
theorem turn_fits {sc : Scanner τ} {frame : Frame} {position : Nat} {st st' : ScanState τ}
    {t : Turn} (h : sc.turn frame position st = (t, st')) :
    t.Fits sc frame position st'.ranges := by
  unfold turn at h
  split at h
  · cases h
    trivial
  · split at h
    · next hblock =>
      cases h
      exact hblock
    · next hblock =>
      split at h
      · next hnone =>
        cases h
        exact ⟨hblock, hnone⟩
      · next hsome =>
        cases h
        exact ⟨hblock, hsome⟩

theorem turn_skip {sc : Scanner τ} {frame : Frame} {position : Nat} {st st' : ScanState τ}
    {range : ProcessedRange} (h : sc.turn frame position st = (.skip range, st')) :
    range ∈ st'.ranges ∧ range.contains (frame.offset + position) = true ∧
      range.covers frame.offset frame.stop = false := by
  have hblock : ProcessedRange.blocking? st'.ranges (frame.offset + position) frame.offset
      frame.stop = some range := turn_fits h
  have hfound := List.find?_some hblock
  rw [Bool.and_eq_true, Bool.not_eq_true'] at hfound
  exact ⟨List.mem_of_find?_eq_some hblock, hfound.1, hfound.2⟩

theorem turn_step {sc : Scanner τ} {frame : Frame} {position : Nat} {st st' : ScanState τ}
    (h : sc.turn frame position st = (.step, st')) :
    ProcessedRange.blocking? st'.ranges (frame.offset + position) frame.offset frame.stop = none ∧
      winner? sc.rules frame.input position = none := turn_fits h

theorem turn_win {sc : Scanner τ} {frame : Frame} {position : Nat} {st st' : ScanState τ}
    {rule : Rule} {found : Regex.Match}
    (h : sc.turn frame position st = (.win rule found, st')) :
    ProcessedRange.blocking? st'.ranges (frame.offset + position) frame.offset frame.stop = none ∧
      winner? sc.rules frame.input position = some (rule, found) := turn_fits h

theorem turn_state (sc : Scanner τ) (frame : Frame) (position : Nat) (st : ScanState τ) :
    (sc.turn frame position st).2 = (st.readClock sc.read).2 := by
  unfold turn
  split
  · next heq => exact state_of_validate heq
  · next heq =>
    split
    · exact state_of_validate heq
    · split <;> exact state_of_validate heq

/-- 勝った規則は、走査に使う規則の一つで、その位置に合う。 -/
theorem mem_of_winner? {rules : List Rule} {input : Array Char} {position : Nat} {rule : Rule}
    {found : Regex.Match} (h : winner? rules input position = some (rule, found)) :
    rule ∈ rules ∧ rule.matchAt input position = some found := by
  obtain ⟨x, hx, hmap⟩ := List.exists_of_findSome?_eq_some h
  obtain ⟨m, hm, heq⟩ := Option.map_eq_some_iff.mp hmap
  cases heq
  exact ⟨hx, hm⟩

theorem matchAt_of_winner?_none {rules : List Rule} {input : Array Char} {position : Nat}
    (h : winner? rules input position = none) : ∀ rule ∈ rules,
      rule.matchAt input position = none := by
  intro rule hrule
  simpa using List.findSome?_eq_none_iff.mp h rule hrule

end Scanner

/-- 規則は、指定した位置から、文字列の中の一文字以上を読む。 -/
theorem Rule.matchAt_bounds {rule : Rule} {text : Text} {position : Nat} {found : Regex.Match}
    (h : rule.matchAt text.toArray position = some found) :
    found.start = position ∧ position < found.stop ∧ found.stop ≤ text.length := by
  obtain ⟨hstart, hne⟩ := Rule.matchAt_spec h
  have hbounds := Regex.Pattern.matchAt_bounds (Rule.pattern_matchAt h).1
  simp only [List.size_toArray] at hstart hbounds
  omega

namespace Scanner

variable {τ : Type}

/-! ## 節を返す走査 -/

/-- 節を返して終わる、枠の中の走査。 -/
inductive Passes (sc : Scanner τ) (frame : Frame)
    (rescan : String → Rescan (ScanState τ) ScanError) :
    Nat → Nat → ScanState τ → List Node → ScanState τ → Prop
  /-- 終わりに着いて、残りを出す。 -/
  | finish {position last : Nat} {st : ScanState τ} (h : frame.text.length ≤ position) :
      Passes sc frame rescan position last st (gap frame.text last frame.text.length) st
  /-- 一文字進む。 -/
  | step {position last : Nat} {st st₁ st' : ScanState τ} {nodes : List Node}
      (h : position < frame.text.length) (ht : sc.turn frame position st = (.step, st₁))
      (hr : Passes sc frame rescan (position + 1) last st₁ nodes st') :
      Passes sc frame rescan position last st nodes st'
  /-- 塞がれた区間の手前までを出して、区間を飛ばす。 -/
  | skip {position last : Nat} {st st₁ st' : ScanState τ} {range : ProcessedRange}
      {rest : List Node} (h : position < frame.text.length)
      (ht : sc.turn frame position st = (.skip range, st₁))
      (hr : Passes sc frame rescan (frame.afterSkip range) (frame.afterSkip range) st₁ rest st') :
      Passes sc frame rescan position last st
        (gap frame.text last (frame.beforeSkip range last) ++ rest) st'
  /-- 手前の文字列と、規則の結果を出す。 -/
  | win {position last : Nat} {st st₁ st₂ st' : ScanState τ} {rule : Rule}
      {found : Regex.Match} {produced rest : List Node} (h : position < frame.text.length)
      (ht : sc.turn frame position st = (.win rule found, st₁))
      (hp : transform frame rescan rule found st₁ = (.ok produced, st₂))
      (hr : Passes sc frame rescan found.stop found.stop st₂ rest st') :
      Passes sc frame rescan position last st
        (gap frame.text last found.start ++ produced ++ rest) st'

/-- 飛ばした後の位置は、前より先で、枠の中にある。 -/
theorem afterSkip_bounds {sc : Scanner τ} {frame : Frame} {position : Nat} {st st' : ScanState τ}
    {range : ProcessedRange} (hlt : position < frame.text.length)
    (h : sc.turn frame position st = (.skip range, st')) :
    position < frame.afterSkip range ∧ frame.afterSkip range ≤ frame.text.length := by
  obtain ⟨-, hcontains, -⟩ := turn_skip h
  have hboth := ProcessedRange.contains_iff.mp hcontains
  unfold Frame.afterSkip
  omega

/-- **節を返した走査は、一歩ずつに分かれる。** -/
theorem passes_of_loop {sc : Scanner τ} {ctx : Context} {text : Text} {offset : Int}
    {rescan : String → Rescan (ScanState τ) ScanError} {nodes : List Node} {st' : ScanState τ}
    (fuel : Nat) : ∀ {position last : Nat} {st : ScanState τ}, text.length ≤ position + fuel →
      sc.loop (.of ctx text offset) rescan fuel position last st = (.ok nodes, st') →
      Passes sc (.of ctx text offset) rescan position last st nodes st' := by
  induction fuel generalizing nodes with
  | zero =>
    intro position last st hfuel h
    rw [loop] at h
    cases h
    exact .finish (by simpa using hfuel)
  | succ fuel ih =>
    intro position last st hfuel h
    by_cases hlt : position < text.length
    · rw [loop_succ sc (.of ctx text offset) rescan hlt] at h
      split at h
      · cases h
      -- 飛ばすときも勝つときも位置は進むので、残りの歩数は足りる
      · next range st₁ heq =>
        have hbounds : position < (Frame.of ctx text offset).afterSkip range ∧ _ :=
          afterSkip_bounds hlt heq
        split at h
        · next rest st₂ hloop =>
          cases h
          exact .skip hlt heq (ih (by omega) hloop)
        · cases h
      · next st₁ heq => exact .step hlt heq (ih (by omega) h)
      · next rule found st₁ heq =>
        have hbounds := Rule.matchAt_bounds (mem_of_winner? (turn_win heq).2).2
        split at h
        · cases h
        · next produced st₂ htransform =>
          split at h
          · next rest st₃ hloop =>
            cases h
            exact .win hlt heq htransform (ih (by omega) hloop)
          · cases h
    · rw [loop_done sc (.of ctx text offset) rescan (Nat.not_lt.mp hlt)] at h
      cases h
      exact .finish (Nat.not_lt.mp hlt)

/-- 節を返した枠の走査は、検めを通り、枠の始めから一歩ずつ進む。 -/
theorem passes_of_scanAt {sc : Scanner τ} {ctx : Context} {text : Text} {offset : Int}
    {st st' : ScanState τ} {nodes : List Node}
    (h : sc.scanAt ctx text offset st = (.ok nodes, st')) :
    ∃ st₁, sc.validate ctx st = (none, st₁) ∧
      Passes sc (.of ctx text offset) (sc.rescan ctx offset) 0 0 st₁ nodes st' := by
  rw [scanAt_eq] at h
  split at h
  · cases h
  · next st₁ heq => exact ⟨st₁, heq, passes_of_loop text.length (by omega) h⟩

/-- 節を返した走査は、深さの上限の内にある。 -/
theorem depth_le_of_scanAt {sc : Scanner τ} {ctx : Context} {text : Text} {offset : Int}
    {st st' : ScanState τ} {nodes : List Node}
    (h : sc.scanAt ctx text offset st = (.ok nodes, st')) :
    ctx.depth ≤ sc.limits.maxDepth.value := by
  obtain ⟨st₁, hvalid, -⟩ := passes_of_scanAt h
  exact depth_le_of_validate hvalid

end Scanner

end Tategaki
