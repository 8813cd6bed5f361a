import ClausePrompt.Proofs.Text.Trim
import ClausePrompt.Text.WordChar

namespace ClausePrompt.Text

-- The tables of the blanks and of the words have no code point in common. The check is a Boolean
-- one, because the table of words is long.
private theorem blankRanges_avoid_words :
    (wordRanges.all fun (first, last) => blankRanges.all fun (low, high) =>
      high.blt first || last.blt low) = true := by
  decide +kernel

private theorem isWord_ascii_of_isBlank :
    ∀ n < 128, isBlank (Char.ofNat n) = true → isWord (Char.ofNat n) = false := by
  decide

-- No blank belongs to a word.
theorem isWord_of_isBlank {c : Char} (h : isBlank c = true) : isWord c = false := by
  by_cases hascii : c.toNat < 128
  · have hchar := isWord_ascii_of_isBlank c.toNat hascii
    rw [Char.ofNat_toNat] at hchar
    exact hchar h
  · rw [isWord, if_neg hascii]
    refine Bool.eq_false_iff.mpr fun hword => ?_
    obtain ⟨⟨low, high⟩, hrange, hblank⟩ := List.any_eq_true.mp h
    obtain ⟨⟨first, last⟩, hwords, hin⟩ := List.any_eq_true.mp hword
    have havoid := List.all_eq_true.mp
      (List.all_eq_true.mp blankRanges_avoid_words _ hwords) _ hrange
    simp only [Bool.or_eq_true, Bool.and_eq_true, Nat.blt_eq, decide_eq_true_eq]
      at havoid hblank hin
    omega

theorem isBlank_of_isWord {c : Char} (h : isWord c = true) : isBlank c = false := by
  refine Bool.eq_false_iff.mpr fun hblank => ?_
  rw [isWord_of_isBlank hblank] at h
  cases h

end ClausePrompt.Text
