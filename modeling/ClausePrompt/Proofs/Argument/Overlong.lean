import ClausePrompt.Proofs.Argument.Malformed
import ClausePrompt.Proofs.Argument.Segments
import ClausePrompt.Proofs.Text.Casing

namespace ClausePrompt

open Outcome (FailsWith)

namespace Numeral

theorem isNumeral_iff {text : List Char} :
    isNumeral text = true ↔ text ≠ [] ∧ ∀ c ∈ text, Text.isDigit c = true := by
  simp [isNumeral]

-- The text holds a numeral of so many digits, which are more than can be converted.
def Overlong (text : List Char) (digits : Nat) : Prop :=
  ∃ run, run <:+: text ∧ isNumeral run = true ∧ run.length = digits ∧ digitLimit < digits

namespace Overlong

variable {text : List Char} {digits : Nat}

theorem mono {part : List Char} (h : Overlong part digits) (hpart : part <:+: text) :
    Overlong text digits := by
  obtain ⟨run, hrun, hnumeral⟩ := h
  exact ⟨run, hrun.trans hpart, hnumeral⟩

theorem of_trim (h : Overlong (Text.trim text) digits) : Overlong text digits :=
  h.mono (Text.trim_isInfix text)

-- Only digits become digits in lower case.
theorem of_lower (h : Overlong (Text.lower text) digits) : Overlong text digits := by
  obtain ⟨run, hrun, hnumeral, hlong⟩ := h
  exact ⟨run, Text.infix_of_infix_lowerFrom (isNumeral_iff.mp hnumeral).2 hrun, hnumeral, hlong⟩

theorem digitLimit_lt_length (h : Overlong text digits) : digitLimit < text.length := by
  obtain ⟨run, hrun, -, rfl, hlong⟩ := h
  exact hlong.trans_le hrun.length_le

end Overlong

-- No digit of any script is a blank. The check is a Boolean one, because the tables are long.
private theorem blankRanges_avoid_digits :
    (Text.digitZeros.all fun first => Text.blankRanges.all fun (low, high) =>
      high.blt first || (first + 10).ble low) = true := by
  decide +kernel

theorem isBlank_of_isDigit {c : Char} (h : Text.isDigit c = true) : Text.isBlank c = false := by
  obtain ⟨first, hfirst, hle, hlt⟩ := Text.isDigit_iff.mp h
  refine Bool.eq_false_iff.mpr fun hblank => ?_
  obtain ⟨⟨low, high⟩, hrange, hwithin⟩ := List.any_eq_true.mp hblank
  have havoid := List.all_eq_true.mp
    (List.all_eq_true.mp blankRanges_avoid_digits first hfirst) (low, high) hrange
  simp only [Bool.or_eq_true, Bool.and_eq_true, Nat.blt_eq, Nat.ble_eq, decide_eq_true_eq]
    at havoid hwithin
  omega

theorem not_mem_of_isDigit {text : List Char} {c : Char} (h : isNumeral text = true)
    (hc : Text.isDigit c = false) : c ∉ text := by
  intro hmem
  simp [(isNumeral_iff.mp h).2 c hmem] at hc

theorem isBlank_of_mem {text : List Char} (h : isNumeral text = true) :
    ∀ c ∈ text, Text.isBlank c = false :=
  fun c hc => isBlank_of_isDigit ((isNumeral_iff.mp h).2 c hc)

theorem trim_eq_self {text : List Char} (h : isNumeral text = true) : Text.trim text = text :=
  Text.trim_eq_self (fun c hc => isBlank_of_mem h c (List.mem_of_mem_head? hc))
    (fun c hc => isBlank_of_mem h c (List.mem_of_mem_getLast? hc))

end Numeral

-- A defect that breaks a reading off is a numeral in the text.
def Defect.Blames (text : List Char) : Defect → Prop
  | .tooManyDigits digits => Numeral.Overlong text digits
  | _ => True

theorem Outcome.FailsWith.blames {α : Type} {text : List Char} {reading : Reading α}
    (h : FailsWith Defect.IsMalformed reading) : FailsWith (Defect.Blames text) reading := by
  refine h.imp fun defect hmalformed => ?_
  obtain ⟨malformation, rfl⟩ := hmalformed
  trivial

theorem Defect.Blames.of_trim {text : List Char} {defect : Defect}
    (h : Defect.Blames (Text.trim text) defect) : Defect.Blames text defect := by
  cases defect with
  | tooManyDigits digits => exact Numeral.Overlong.of_trim h
  | _ => trivial

@[simp] theorem failsWith_malformed {α : Type} {text : List Char}
    (malformation : Malformation) :
    FailsWith (Defect.Blames text) (malformed malformation : Reading α) :=
  (failsWith_isMalformed malformation).blames

@[simp] theorem blames_duplicateKey {text : List Char} (key : String) :
    Defect.Blames text (.duplicateKey key) := trivial

namespace Numeral

variable {text : List Char}

theorem isNumeral_of_check {parts : List (List Char)} (h : check parts = .ok ()) :
    ∀ part ∈ parts, isNumeral part = true := by
  induction parts with
  | nil => exact fun _ hmem => absurd hmem List.not_mem_nil
  | cons part parts ih =>
    rw [check] at h
    split at h
    · rename_i hpart
      exact List.forall_mem_cons.mpr ⟨hpart, ih h⟩
    · cases h

theorem failsWith_read {part : List Char} (hpart : part <:+: text)
    (hnumeral : isNumeral part = true) : FailsWith (Defect.Blames text) (read part) := by
  unfold read
  split
  · rename_i hlong
    exact Outcome.failsWith_error.mpr ⟨part, hpart, hnumeral, rfl, hlong⟩
  · exact Outcome.failsWith_ok _

end Numeral

namespace Argument

variable {text : List Char}

theorem failsWith_readRange (rules : Rules) (text : List Char) :
    FailsWith (Defect.Blames text) (readRange rules text) := by
  refine (isMalformed_splitPair rules text).blames.bind fun (parts, join) hsplit => ?_
  refine (Numeral.isMalformed_check parts).blames.bind fun _ hcheck => ?_
  have hwithin := isInfix_of_splitPair hsplit
  have hnumeral := Numeral.isNumeral_of_check hcheck
  refine .bind ?_ fun indices _ => Outcome.failsWith_ok _
  exact Outcome.failsWith_mapM fun part hpart =>
    Numeral.failsWith_read (hwithin part hpart) (hnumeral part hpart)

-- The part that is converted is one of those that were checked.
theorem failsWith_readIndex {numeric : NumericRule} {parts : List (List Char)}
    (hwithin : ∀ part ∈ parts, part <:+: text)
    (hnumeral : ∀ part ∈ numericParts numeric parts, Numeral.isNumeral part = true) :
    FailsWith (Defect.Blames text) (readIndex numeric parts) := by
  have hlast : numeric ≠ .none →
      FailsWith (Defect.Blames text) (Numeral.read (parts.getLast?.getD [])) := by
    intro hasked
    cases hlast : parts.getLast? with
    | none => exact Outcome.failsWith_ok _
    | some last =>
      have hmem : last ∈ parts := List.mem_of_getLast? hlast
      refine Numeral.failsWith_read (hwithin last hmem) (hnumeral last ?_)
      cases numeric with
      | none => exact absurd rfl hasked
      | all => exact hmem
      | last => simp [numericParts, hlast]
  cases numeric with
  | none => exact Outcome.failsWith_ok _
  | all => exact (hlast (by decide)).map some
  | last => exact (hlast (by decide)).map some

theorem failsWith_readPair (rules : Rules) (text : List Char) :
    FailsWith (Defect.Blames text) (readPair rules text) := by
  refine (isMalformed_splitPair rules text).blames.bind fun (parts, join) hsplit => ?_
  refine (Numeral.isMalformed_check _).blames.bind fun _ hcheck => ?_
  refine .bind ?_ fun index _ => Outcome.failsWith_ok _
  exact failsWith_readIndex (isInfix_of_splitPair hsplit) (Numeral.isNumeral_of_check hcheck)

-- The other shapes convert no numbers.
theorem failsWith_readEntries (seen segments : List (List Char)) :
    FailsWith (Defect.Blames text) (readEntries seen segments) := by
  induction segments generalizing seen with
  | nil => exact Outcome.failsWith_ok []
  | cons segment rest ih =>
    change FailsWith (Defect.Blames text) (ite _ _ _)
    split
    · exact failsWith_malformed _
    · split
      · exact failsWith_malformed _
      · dsimp only
        split_ifs
        · exact failsWith_malformed _
        · exact Outcome.failsWith_error.mpr trivial
        · exact (ih _).map _

theorem failsWith_add (parts : VariantParts) (segment : List Char) :
    FailsWith (Defect.Blames text) (parts.add segment) := by
  unfold VariantParts.add
  split
  · exact failsWith_malformed _
  · split
    · split_ifs <;> simp
    · dsimp only
      split_ifs <;> simp

theorem failsWith_readVariants (rules : Rules) (cs : List Char) :
    FailsWith (Defect.Blames text) (readVariants rules cs) := by
  refine (isMalformed_segments cs).blames.bind fun found _ => ?_
  refine (Outcome.failsWith_foldlM failsWith_add found _).bind fun parts _ => ?_
  split_ifs <;> simp

theorem failsWith_readShape (shape : Shape) (rules : Rules) (text : List Char) :
    FailsWith (Defect.Blames text) (readShape shape rules text) := by
  cases shape with
  | singleToken => exact Outcome.failsWith_ok _
  | tokenPair => exact failsWith_readPair rules text
  | indexRange => exact failsWith_readRange rules text
  | idReference => exact (isMalformed_readReference rules text).blames
  | keyedList =>
    refine (isMalformed_segments text).blames.bind fun found _ => ?_
    exact (failsWith_readEntries [] found).bind fun entries _ => Outcome.failsWith_ok _
  | variantPair => exact failsWith_readVariants rules text
  | bracketedName => exact (isMalformed_readNamed .square _ text).blames.map _
  | parenthesizedName => exact (isMalformed_readNamed .round _ text).blames.map _
  | positionalReference => exact (isMalformed_readPositional text).blames

theorem failsWith_read (shape : Shape) (rules : Rules) (raw : List Char) :
    FailsWith (Defect.Blames raw) (read shape rules raw) := by
  unfold read
  dsimp only
  split_ifs
  · exact failsWith_malformed _
  · exact failsWith_malformed _
  · exact (failsWith_readShape shape rules (Text.trim raw)).imp fun _ => Defect.Blames.of_trim

-- Nothing in a numeral can split it.
theorem splitPair_of_isNumeral (rules : Rules) {text : List Char}
    (h : Numeral.isNumeral text = true) : splitPair rules text = .ok ([text], none) := by
  have hplain : Nesting.piecesFrom (some ';') [] text = .ok [text] := by
    refine Nesting.piecesFrom_nil_of_plain fun c hc => ?_
    have hne : ∀ mark, Text.isDigit mark = false → c ≠ mark := by
      rintro mark hmark rfl
      exact Numeral.not_mem_of_isDigit h hmark hc
    constructor
    · simp [isDelimiter, Delimiter.ofOpener?, Delimiter.ofCloser?, hne '(' (by decide),
        hne ')' (by decide), hne '[' (by decide), hne ']' (by decide)]
    · simpa using (hne ';' (by decide)).symm
  have hsegments : segments text = .ok [text] := by
    simp [segments, Nesting.split, hplain, Except.map, Numeral.trim_eq_self h]
  have hwords : Span.split text = [text] := by
    rw [Span.split, Span.piecesFrom_zero_of_no_blank (Numeral.isBlank_of_mem h),
      List.map_singleton, Numeral.trim_eq_self h]
  simp [splitPair, hsegments, hwords, (Numeral.isNumeral_iff.mp h).1, bind, Except.bind]
  rfl

-- Where indices are asked for, a number that is too long does break the reading off.
theorem read_of_overlong (rules : Rules) {text : List Char}
    (hnumeral : Numeral.isNumeral text = true) (hlong : Numeral.digitLimit < text.length) :
    read .indexRange rules text = .error (.tooManyDigits text.length) := by
  have hempty : text ≠ [] := (Numeral.isNumeral_iff.mp hnumeral).1
  have hsep : clauseSeparator ∉ text := Numeral.not_mem_of_isDigit hnumeral (by decide)
  have hcheck : Numeral.check [text] = .ok () := by simp [Numeral.check, hnumeral]
  have hread : [text].mapM Numeral.read = .error (.tooManyDigits text.length) := by
    simp [Numeral.read, hlong]
  have hrange : readRange rules text = .error (.tooManyDigits text.length) := by
    simp only [readRange, splitPair_of_isNumeral rules hnumeral, hcheck, hread, bind, Except.bind]
  simp [read, Numeral.trim_eq_self hnumeral, hempty, hsep, readShape, hrange]

end Argument

end ClausePrompt
