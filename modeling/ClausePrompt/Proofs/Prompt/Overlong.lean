import ClausePrompt.Proofs.Argument.Overlong
import ClausePrompt.Proofs.Prompt.RoundTrip

namespace ClausePrompt

open Outcome (FailsWith)

-- A fault of an operation is a number in one of the texts it was given.
def Failure.Blames (texts : List String) : Failure → Prop
  | .refused _ => True
  | .broken fault =>
    ∃ text ∈ texts, ∃ digits,
      Numeral.Overlong text.toList digits ∧ fault = .tooManyDigits digits

namespace Failure

variable {texts : List String}

@[simp] theorem failsWith_refuse {α : Type} (refusal : Refusal) :
    FailsWith (Failure.Blames texts) (refuse refusal : Outcome α) :=
  Outcome.failsWith_error.mpr trivial

theorem Blames.atClause {failure : Failure} (h : Blames texts failure) (position : Int) :
    Blames texts (failure.atClause position) := by
  cases failure with
  | refused refusal => trivial
  | broken fault => exact h

-- A text stands for another one if it has no numbers that are not there as well.
theorem Blames.transfer {part : String} {failure : Failure} (h : Blames [part] failure)
    (hpart : ∀ digits, Numeral.Overlong part.toList digits →
      ∃ text ∈ texts, Numeral.Overlong text.toList digits) : Blames texts failure := by
  cases failure with
  | refused refusal => trivial
  | broken fault =>
    obtain ⟨found, hmem, digits, hlong, hfault⟩ := h
    obtain rfl := List.mem_singleton.mp hmem
    obtain ⟨text, htext, hfound⟩ := hpart digits hlong
    exact ⟨text, htext, digits, hfound, hfault⟩

end Failure

namespace Clause

theorem failsWith_read (lexicon : Lexicon) (typed raw : String) :
    FailsWith (Failure.Blames [raw]) (read lexicon typed raw) := by
  unfold read
  split
  · rename_i keyword _
    unfold readFor
    split
    · exact Outcome.failsWith_ok _
    · rename_i defect hdefect
      cases defect with
      | malformed malformation => exact Failure.failsWith_refuse _
      | duplicateKey key => exact Failure.failsWith_refuse _
      | tooManyDigits digits =>
        have hlong := Argument.failsWith_read _ _ _ _ hdefect
        exact Outcome.failsWith_error.mpr
          ⟨raw, List.mem_singleton_self raw, digits, hlong, rfl⟩
  · exact Failure.failsWith_refuse _

theorem read_of_overlong {lexicon : Lexicon} {typed raw : String} {keyword : Keyword}
    (hresolve : lexicon.resolve typed = .ok keyword) (hshape : keyword.shape = .indexRange)
    (hnumeral : Numeral.isNumeral raw.toList = true) (hlong : Numeral.digitLimit < raw.length) :
    read lexicon typed raw = breakOff (.tooManyDigits raw.length) := by
  rw [← String.length_toList] at hlong ⊢
  have hread := Argument.read_of_overlong keyword.rules hnumeral hlong
  simp [read, hresolve, readFor, hshape, hread, failure, breakOff]

end Clause

namespace Prompt

-- The argument of a piece stands in the piece.
theorem failsWith_readPiece (lexicon : Lexicon) {piece : List Char} {text : String}
    (hpiece : piece <:+: text.toList) :
    FailsWith (Failure.Blames [text]) (readPiece lexicon piece) := by
  unfold readPiece readClause
  split
  · exact Failure.failsWith_refuse _
  · split
    · exact Failure.failsWith_refuse _
    · rename_i keyword argument hsplit
      obtain ⟨rfl, -, -⟩ := splitClause?_eq_some_iff.mp hsplit
      refine (Clause.failsWith_read lexicon _ _).imp fun failure h => h.transfer ?_
      intro digits hlong
      rw [String.toList_ofList] at hlong
      refine ⟨text, List.mem_singleton_self text, hlong.of_trim.mono (.trans ?_ hpiece)⟩
      exact ((List.suffix_cons _ _).trans (List.suffix_append _ _)).isInfix

theorem failsWith_parse (lexicon : Lexicon) (text : String) :
    FailsWith (Failure.Blames [text]) (parse lexicon text) := by
  intro failure hfailure
  obtain ⟨front, piece, back, found, hcut, -, hpiece, rfl⟩ := exists_piece_of_parse hfailure
  have hmem : piece ∈ Text.pieces Argument.clauseSeparator text.toList := by
    rw [Text.pieces_eq_splitOn, hcut]
    simp
  have hinfix : Text.trim piece <:+: text.toList :=
    (Text.trim_isInfix piece).trans ((Text.isCut_pieces _ text.toList).isInfix piece hmem)
  exact (failsWith_readPiece lexicon hinfix found hpiece).atClause front.length

end Prompt

end ClausePrompt
