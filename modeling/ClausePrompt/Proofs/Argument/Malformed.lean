import ClausePrompt.Argument.Reader
import ClausePrompt.Proofs.Outcome
import Mathlib.Tactic.ByContra
import Mathlib.Tactic.SplitIfs

namespace ClausePrompt

open Outcome (FailsWith)

-- A defect of form, and neither a repeated key nor a number that is too long.
def Defect.IsMalformed (defect : Defect) : Prop :=
  ∃ malformation, defect = .malformed malformation

@[simp] theorem failsWith_isMalformed {α : Type} (malformation : Malformation) :
    FailsWith Defect.IsMalformed (malformed malformation : Reading α) :=
  Outcome.failsWith_error.mpr ⟨malformation, rfl⟩

-- No key is repeated.
def Defect.IsUnrepeated (defect : Defect) : Prop := ∀ key, defect ≠ .duplicateKey key

theorem Outcome.FailsWith.unrepeated {α : Type} {reading : Reading α}
    (h : FailsWith Defect.IsMalformed reading) : FailsWith Defect.IsUnrepeated reading := by
  refine h.imp fun defect hmalformed key => ?_
  obtain ⟨malformation, rfl⟩ := hmalformed
  exact Defect.noConfusion

namespace Numeral

theorem isMalformed_check (parts : List (List Char)) :
    FailsWith Defect.IsMalformed (check parts) := by
  induction parts with
  | nil => exact Outcome.failsWith_ok ()
  | cons part parts ih =>
    rw [check]
    split
    · exact ih
    · exact failsWith_isMalformed _

theorem isUnrepeated_read (part : List Char) : FailsWith Defect.IsUnrepeated (read part) := by
  unfold read
  split
  · exact Outcome.failsWith_error.mpr fun key => Defect.noConfusion
  · exact Outcome.failsWith_ok _

end Numeral

namespace Argument

-- Splitting and naming refuse but never break off.
theorem isMalformed_segments (text : List Char) :
    FailsWith Defect.IsMalformed (segments text) := by
  unfold segments
  split <;> simp

theorem isMalformed_splitPair (rules : Rules) (text : List Char) :
    FailsWith Defect.IsMalformed (splitPair rules text) := by
  have hchecked : ∀ (found : List (List Char)) (join : Option IndexJoin),
      FailsWith Defect.IsMalformed
        (if 2 < found.length then malformed (.tooManyParts found.length)
          else if found.any (·.isEmpty) then malformed .emptySegment else .ok (found, join)) :=
    fun found join => .ite (by simp) (.ite (by simp) (by simp))
  refine (isMalformed_segments text).bind fun found _ => ?_
  dsimp only
  split
  · exact hchecked found _
  · split
    · exact hchecked (Span.split text) _
    · exact hchecked found _

theorem isMalformed_readNamed (delimiter : Delimiter) (membersAllowed : Bool)
    (text : List Char) :
    FailsWith Defect.IsMalformed (readNamed delimiter membersAllowed text) := by
  unfold readNamed
  extract_lets ofParts
  have hparts : ∀ parts, FailsWith Defect.IsMalformed (ofParts parts) := by
    intro parts
    dsimp only [ofParts]
    split_ifs <;> simp
  split
  · exact (isMalformed_segments text).bind fun parts _ => hparts parts
  · exact (Outcome.failsWith_ok [text]).bind fun parts _ => hparts parts

theorem isMalformed_readReference (rules : Rules) (text : List Char) :
    FailsWith Defect.IsMalformed (readReference rules text) := by
  unfold readReference
  split_ifs
  · exact (isMalformed_readNamed .square false text).map _
  · exact Outcome.failsWith_ok _
  · exact failsWith_isMalformed _

theorem isMalformed_readPositional (text : List Char) :
    FailsWith Defect.IsMalformed (readPositional text) := by
  unfold readPositional
  split
  · split_ifs <;> simp
  · dsimp only
    split
    · exact failsWith_isMalformed _
    · split_ifs <;> simp

theorem isUnrepeated_readRange (rules : Rules) (text : List Char) :
    FailsWith Defect.IsUnrepeated (readRange rules text) := by
  refine (isMalformed_splitPair rules text).unrepeated.bind fun (parts, join) _ => ?_
  refine (Numeral.isMalformed_check parts).unrepeated.bind fun _ _ => ?_
  refine .bind ?_ fun indices _ => Outcome.failsWith_ok _
  exact Outcome.failsWith_mapM fun part _ => Numeral.isUnrepeated_read part

theorem isUnrepeated_readIndex (numeric : NumericRule) (parts : List (List Char)) :
    FailsWith Defect.IsUnrepeated (readIndex numeric parts) := by
  cases numeric with
  | none => exact Outcome.failsWith_ok _
  | all | last => exact (Numeral.isUnrepeated_read _).map some

theorem isUnrepeated_readPair (rules : Rules) (text : List Char) :
    FailsWith Defect.IsUnrepeated (readPair rules text) := by
  refine (isMalformed_splitPair rules text).unrepeated.bind fun (parts, join) _ => ?_
  refine (Numeral.isMalformed_check (numericParts rules.numeric parts)).unrepeated.bind
    fun _ _ => ?_
  refine .bind ?_ fun index _ => Outcome.failsWith_ok _
  exact isUnrepeated_readIndex rules.numeric parts

theorem isUnrepeated_readShape {shape : Shape} (hkeyed : shape ≠ .keyedList)
    (hvariants : shape ≠ .variantPair) (rules : Rules) (text : List Char) :
    FailsWith Defect.IsUnrepeated (readShape shape rules text) := by
  cases shape with
  | singleToken => exact Outcome.failsWith_ok _
  | tokenPair => exact isUnrepeated_readPair rules text
  | indexRange => exact isUnrepeated_readRange rules text
  | idReference => exact (isMalformed_readReference rules text).unrepeated
  | keyedList => exact absurd rfl hkeyed
  | variantPair => exact absurd rfl hvariants
  | bracketedName => exact (isMalformed_readNamed .square _ text).unrepeated.map _
  | parenthesizedName => exact (isMalformed_readNamed .round _ text).unrepeated.map _
  | positionalReference => exact (isMalformed_readPositional text).unrepeated

-- Only the entries of a keyed list and the two variants have keys.
theorem shape_of_duplicateKey {shape : Shape} {rules : Rules} {raw : List Char} {key : String}
    (h : read shape rules raw = .error (.duplicateKey key)) :
    shape = .keyedList ∨ shape = .variantPair := by
  by_contra hother
  obtain ⟨hkeyed, hvariants⟩ := not_or.mp hother
  have hunrepeated : FailsWith Defect.IsUnrepeated (read shape rules raw) := by
    unfold read
    dsimp only
    split_ifs
    · exact (failsWith_isMalformed _).unrepeated
    · exact (failsWith_isMalformed _).unrepeated
    · exact isUnrepeated_readShape hkeyed hvariants rules (Text.trim raw)
  exact hunrepeated _ h key rfl

end Argument

end ClausePrompt
