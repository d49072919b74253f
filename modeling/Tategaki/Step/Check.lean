import Tategaki.Step.Basic
import Tategaki.Json.Basic

/-!
# 段の検め

段を動かさずに、流れる値の種類だけを追う。どの段も受け取れる種類の値を受け取り、式にある組
だけを指すことを確かめる。検めを通った段は、種類の食い違いで失敗しない。
-/

namespace Tategaki

/-- 段の並びの要素。段でない値が紛れ込むことがある。 -/
inductive Slot where
  | step (s : Step)
  | stray (value : Json)

/-- 検めで見つかる誤り。 -/
inductive CheckError where
  | notStep (shown : String)
  | wrongKind (index : Nat) (action : String) (kind : ValueKind)
  | missingGroup (index : Nat) (action : String) (group count : Nat)
  deriving DecidableEq, Repr

/-- 誤りの文面。 -/
def CheckError.message : CheckError → String
  | notStep shown => s!"Unsupported transform step {shown}"
  | wrongKind index action kind =>
    let name := kind.name
    s!"Step {index} ({action}) cannot take a {name} value"
  | missingGroup index action group count =>
    s!"Step {index} ({action}) references group {group} but the expression has {count}"

namespace Step

/-- 一段を検める。 -/
def check (groupCount index : Nat) (kind : ValueKind) (s : Step) : Option CheckError :=
  if !s.accepts kind then some (.wrongKind index s.action kind)
  else
    (s.groupsUsed.find? (groupCount < ·)).map fun group =>
      .missingGroup index s.action group groupCount

/-- 段の並びを、`index` 番目から検める。 -/
def checkFrom (groupCount : Nat) : Nat → ValueKind → List Step → Option CheckError
  | _, _, [] => none
  | index, kind, s :: rest =>
    match s.check groupCount index kind with
    | some e => some e
    | none => checkFrom groupCount (index + 1) (s.outputKind kind) rest

/-- 段の並びを検める。最初の値は一つの文字列である。 -/
def checkAll (steps : List Step) (groupCount : Nat) : Option CheckError :=
  checkFrom groupCount 0 .string steps

/-- 検めを通れば、先頭の段は値を受け取れる。 -/
theorem accepts_of_checkFrom {groupCount index : Nat} {kind : ValueKind} {s : Step}
    {rest : List Step} (h : checkFrom groupCount index kind (s :: rest) = none) :
    s.accepts kind = true := by
  by_cases ha : s.accepts kind = true
  · exact ha
  · simp [checkFrom, check, ha] at h

/-- 検めを通れば、残りの段も検めを通る。 -/
theorem checkFrom_tail {groupCount index : Nat} {kind : ValueKind} {s : Step}
    {rest : List Step} (h : checkFrom groupCount index kind (s :: rest) = none) :
    checkFrom groupCount (index + 1) (s.outputKind kind) rest = none := by
  simp only [checkFrom] at h
  split at h
  · cases h
  · exact h

end Step

namespace Slot

/-- 紛れ込んだ値も含めて検める。 -/
def checkFrom (groupCount : Nat) : Nat → ValueKind → List Slot → Option CheckError
  | _, _, [] => none
  | _, _, stray value :: _ => some (.notStep (String.ofList value.quotedText))
  | index, kind, step s :: rest =>
    match s.check groupCount index kind with
    | some e => some e
    | none => checkFrom groupCount (index + 1) (s.outputKind kind) rest

/-- 紛れ込んだ値も含めて検める。 -/
def checkAll (slots : List Slot) (groupCount : Nat) : Option CheckError :=
  checkFrom groupCount 0 .string slots

end Slot

end Tategaki
