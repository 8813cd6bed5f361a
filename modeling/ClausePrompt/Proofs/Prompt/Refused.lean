import ClausePrompt.Proofs.Argument.Malformed
import ClausePrompt.Proofs.Prompt.Piece

namespace ClausePrompt

namespace Clause

theorem read_of_unknown {lexicon : Lexicon} {typed : String} (h : lexicon.find? typed = none)
    (raw : String) : read lexicon typed raw = refuse (.unknownKeyword typed) := by
  simp [read, Lexicon.resolve, h]

theorem read_of_known {lexicon : Lexicon} {typed : String} {keyword : Keyword}
    (h : lexicon.find? typed = some keyword) (raw : String) :
    read lexicon typed raw = readFor keyword raw := by
  simp [read, Lexicon.resolve, h]

-- An argument is refused in the name of its keyword, for its form or for a key that it repeats.
theorem refusal_of_readFor {keyword : Keyword} {raw : String} {refusal : Refusal}
    (h : readFor keyword raw = refuse refusal) :
    refusal.keyword = some keyword.id ∧
      (refusal.kind = .malformedArgument ∨
        refusal.kind = .duplicateKey ∧
          (keyword.shape = .keyedList ∨ keyword.shape = .variantPair)) := by
  obtain ⟨defect, hdefect, hfailure⟩ := readFor_eq_error_iff.mp h
  cases defect with
  | malformed malformation =>
    obtain rfl := Failure.refused.inj hfailure
    exact ⟨rfl, .inl rfl⟩
  | duplicateKey key =>
    obtain rfl := Failure.refused.inj hfailure
    exact ⟨rfl, .inr ⟨rfl, Argument.shape_of_duplicateKey hdefect⟩⟩
  | tooManyDigits digits => cases hfailure

end Clause

namespace Prompt

-- What a refusal tells about the piece that it stands for. The piece is not written as a clause, or
-- its keyword is unknown, or its argument is not one of the keyword's.
structure Explains (lexicon : Lexicon) (piece : List Char) (refusal : Refusal) : Prop where
  formless : refusal.keyword = none ↔
    Text.allBlank piece = true ∨ ∀ typed argument, ¬ HasForm piece typed argument
  unknown : refusal.kind = .unknownKeyword ↔
    ∃ typed argument, HasForm piece typed argument ∧ lexicon.find? typed = none
  typed : ∀ typed argument, HasForm piece typed argument → lexicon.find? typed = none →
    refusal.keyword = some typed
  known : ∀ typed argument keyword, HasForm piece typed argument →
    lexicon.find? typed = some keyword →
    refusal.keyword = some keyword.id ∧
      (refusal.kind = .malformedArgument ∨
        refusal.kind = .duplicateKey ∧
          (keyword.shape = .keyedList ∨ keyword.shape = .variantPair))

variable {lexicon : Lexicon} {piece : List Char} {refusal : Refusal}

-- A piece that is not written as a clause is refused without a keyword.
theorem explains_of_not_hasForm (hform : ∀ typed argument, ¬ HasForm piece typed argument)
    (h : readPiece lexicon (Text.trim piece) = refuse refusal) :
    Explains lexicon piece refusal := by
  obtain ⟨hkeyword, hkind⟩ : refusal.keyword = none ∧ refusal.kind = .malformedArgument := by
    cases hblank : Text.allBlank piece with
    | true =>
      rw [readPiece_of_allBlank lexicon hblank] at h
      cases h
      exact ⟨rfl, rfl⟩
    | false =>
      rw [readPiece_of_not_hasForm lexicon hblank hform] at h
      cases h
      exact ⟨rfl, rfl⟩
  constructor
  case formless => simp [hkeyword, hform]
  case unknown => simp [hkind, hform]
  case typed => exact fun typed argument h => absurd h (hform typed argument)
  case known => exact fun typed argument keyword h => absurd h (hform typed argument)

namespace HasForm

variable {typed argument : String}

theorem read_of_refused (hform : HasForm piece typed argument)
    (h : readPiece lexicon (Text.trim piece) = refuse refusal) :
    Clause.read lexicon typed argument = refuse refusal := by
  rw [hform.readPiece_trim] at h
  exact Outcome.map_eq_error_iff.mp h

theorem refusal_of_unknown (hform : HasForm piece typed argument)
    (hfind : lexicon.find? typed = none)
    (h : readPiece lexicon (Text.trim piece) = refuse refusal) :
    refusal = .unknownKeyword typed := by
  have hread := hform.read_of_refused h
  rw [Clause.read_of_unknown hfind] at hread
  exact (Failure.refused.inj (Except.error.inj hread)).symm

theorem refusal_of_known {keyword : Keyword} (hform : HasForm piece typed argument)
    (hfind : lexicon.find? typed = some keyword)
    (h : readPiece lexicon (Text.trim piece) = refuse refusal) :
    refusal.keyword = some keyword.id ∧
      (refusal.kind = .malformedArgument ∨
        refusal.kind = .duplicateKey ∧
          (keyword.shape = .keyedList ∨ keyword.shape = .variantPair)) := by
  have hread := hform.read_of_refused h
  rw [Clause.read_of_known hfind] at hread
  exact Clause.refusal_of_readFor hread

end HasForm

-- Any other piece is refused as its argument is. A piece can be written as a clause in one way
-- only, so that it does not matter which keyword and argument are taken.
theorem explains_of_hasForm {typed argument : String} (hform : HasForm piece typed argument)
    (h : readPiece lexicon (Text.trim piece) = refuse refusal) :
    Explains lexicon piece refusal := by
  obtain ⟨hkeyword, hkind⟩ : refusal.keyword ≠ none ∧
      (refusal.kind = .unknownKeyword → lexicon.find? typed = none) := by
    cases hfind : lexicon.find? typed with
    | none =>
      rw [hform.refusal_of_unknown hfind h]
      exact ⟨by simp [Refusal.unknownKeyword], fun _ => rfl⟩
    | some keyword =>
      obtain ⟨hkeyword, hkind⟩ := hform.refusal_of_known hfind h
      refine ⟨by simp [hkeyword], fun hunknown => ?_⟩
      simp [hunknown] at hkind
  constructor
  case formless =>
    have hwritten : ¬ ∀ typed argument, ¬ HasForm piece typed argument :=
      fun hnone => hnone typed argument hform
    simp only [hkeyword, hform.allBlank_eq_false, hwritten]
    decide
  case unknown =>
    constructor
    · exact fun hunknown => ⟨typed, argument, hform, hkind hunknown⟩
    · rintro ⟨typed, argument, hform, hfind⟩
      rw [hform.refusal_of_unknown hfind h]
      rfl
  case typed =>
    intro typed argument hform hfind
    rw [hform.refusal_of_unknown hfind h]
    rfl
  case known =>
    intro typed argument keyword hform hfind
    exact hform.refusal_of_known hfind h

theorem explains_of_readPiece (h : readPiece lexicon (Text.trim piece) = refuse refusal) :
    Explains lexicon piece refusal := by
  by_cases hform : ∃ typed argument, HasForm piece typed argument
  · obtain ⟨typed, argument, hform⟩ := hform
    exact explains_of_hasForm hform h
  · exact explains_of_not_hasForm (by simpa using hform) h

-- The refusal of a text stands for its first piece that is no clause. The pieces are what stands
-- between the separators.
theorem refusal_of_parse (lexicon : Lexicon) (source : String) (refusal : Refusal)
    (hrefused : parse lexicon source = refuse refusal) :
    ∃ (p : Nat) (piece : List Char),
      refusal.position = some (p : Int) ∧
      (source.toList.splitOn Argument.clauseSeparator)[p]? = some piece ∧
      (∀ earlier ∈ (source.toList.splitOn Argument.clauseSeparator).take p,
        IsClause lexicon earlier) ∧
      ¬ IsClause lexicon piece ∧ Explains lexicon piece refusal := by
  obtain ⟨front, piece, back, failure, hcut, hfront, hpiece, hfailure⟩ :=
    exists_piece_of_parse hrefused
  cases failure with
  | broken fault => cases hfailure
  | refused found =>
    obtain rfl : refusal = found.atClause front.length := Failure.refused.inj hfailure
    have hno : ¬ IsClause lexicon piece := by
      rw [isClause_iff, hpiece]
      simp
    obtain ⟨hformless, hunknown, htyped, hknown⟩ := explains_of_readPiece hpiece
    exact ⟨front.length, piece, rfl, by simp [hcut], by simpa [hcut] using hfront, hno,
      hformless, hunknown, htyped, hknown⟩

-- Two clauses, a third one that repeats a key, and a piece that is not read any more.
theorem refusal_of_parse_animate :
    ∃ refusal,
      parse .standard "*in* a*b |*FOR* web| *animate* end(1); End (2)\n|junk" = refuse refusal ∧
      refusal.position = some 2 ∧ refusal.keyword = some "animate" ∧
      refusal.kind = .duplicateKey ∧
      (∀ earlier ∈ ["*in* a*b ".toList, "*FOR* web".toList], IsClause .standard earlier) ∧
      ¬ IsClause .standard " *animate* end(1); End (2)\n".toList ∧
      Explains .standard " *animate* end(1); End (2)\n".toList refusal := by
  refine ⟨(Refusal.duplicateKey "animate" "end").atClause 2, by decide, rfl, rfl, rfl, ?_⟩
  obtain ⟨p, piece, hposition, hpiece, hfront, hno, hexplains⟩ := refusal_of_parse .standard
    "*in* a*b |*FOR* web| *animate* end(1); End (2)\n|junk"
    ((Refusal.duplicateKey "animate" "end").atClause 2) (by decide)
  obtain rfl : 2 = p := by
    have hcount : (2 : Int) = p := by simpa [Refusal.atClause] using hposition
    omega
  obtain rfl : " *animate* end(1); End (2)\n".toList = piece :=
    Option.some.inj (Eq.trans (by decide) hpiece)
  exact ⟨hfront, hno, hexplains⟩

end Prompt

end ClausePrompt
