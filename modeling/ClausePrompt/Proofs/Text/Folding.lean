import ClausePrompt.Proofs.Text.Casing
import ClausePrompt.Proofs.Text.Trim
import ClausePrompt.Text.WordChar

namespace ClausePrompt.Text

-- What is left of a text after a word at its start that is read without regard to case.
theorem dropWord?_eq_some_iff {word text rest : List Char} :
    dropWord? word text = some rest ↔
      ∃ front, text = front ++ rest ∧ front.map foldLetter = word := by
  induction word generalizing text with
  | nil => simp [dropWord?, eq_comm]
  | cons letter word ih =>
    cases text with
    | nil => simp [dropWord?]
    | cons c cs =>
      have hcons : (∃ front, c :: cs = front ++ rest ∧ front.map foldLetter = letter :: word) ↔
          foldLetter c = letter ∧ ∃ front, cs = front ++ rest ∧ front.map foldLetter = word := by
        constructor
        · rintro ⟨front, htext, hfront⟩
          cases front with
          | nil => cases hfront
          | cons d front =>
            obtain ⟨rfl, hcs⟩ := List.cons.inj htext
            obtain ⟨hletter, hword⟩ := List.cons.inj hfront
            exact ⟨hletter, front, hcs, hword⟩
        · rintro ⟨hletter, front, rfl, hfront⟩
          exact ⟨c :: front, rfl, by rw [List.map_cons, hletter, hfront]⟩
      rw [hcons, dropWord?]
      by_cases hletter : foldLetter c = letter
      · rw [if_pos hletter, ih]
        exact ⟨fun h => ⟨hletter, h⟩, And.right⟩
      · rw [if_neg hletter]
        exact ⟨fun h => (nomatch h), fun h => absurd h.1 hletter⟩

private theorem toLower_eq_self_or (c : Char) : c.toLower = c ∨ c.toNat ≤ 90 := by
  unfold Char.toLower
  split
  · rename_i hupper
    exact .inr hupper.2
  · exact .inl rfl

-- Besides ASCII only four characters stand for an ASCII letter.
theorem toNat_lt_or_of_foldLetter {c : Char} (h : (foldLetter c).toNat < 128) :
    c.toNat < 128 ∨ c ∈ ['İ', 'ı', 'ſ', '\u212a'] := by
  unfold foldLetter at h
  split_ifs at h with hi hs hk
  · have hi : c = 'İ' ∨ c = 'ı' := by simpa using hi
    exact .inr (by simp [or_assoc.symm, hi])
  · exact .inr (by simp [hs])
  · exact .inr (by simp [hk])
  · obtain hsame | hupper := toLower_eq_self_or c
    · rw [hsame] at h
      exact .inl h
    · exact .inl (by omega)

-- The letters `a` to `z`.
def IsSmall (c : Char) : Prop := 97 ≤ c.toNat ∧ c.toNat ≤ 122

instance (c : Char) : Decidable (IsSmall c) := inferInstanceAs (Decidable (_ ∧ _))

theorem all_isSmall_iff {word : List Char} :
    word.all (fun c => IsSmall c) = true ↔ ∀ c ∈ word, IsSmall c := by
  simp

private theorem isWord_of_ascii :
    ∀ n < 128, IsSmall (foldLetter (Char.ofNat n)) → isWord (Char.ofNat n) = true := by
  decide +kernel

private theorem isWord_of_other : ['İ', 'ı', 'ſ', '\u212a'].all isWord = true := by
  decide +kernel

theorem isWord_of_foldLetter {c : Char} (h : IsSmall (foldLetter c)) : isWord c = true := by
  have hascii : (foldLetter c).toNat < 128 := by
    have := h.2
    omega
  obtain hc | hc := toNat_lt_or_of_foldLetter hascii
  · have hchar := isWord_of_ascii c.toNat hc
    rw [Char.ofNat_toNat] at hchar
    exact hchar h
  · exact List.all_eq_true.mp isWord_of_other c hc

private theorem foldLetter_of_ascii :
    ∀ n < 128, foldLetter (Char.ofNat n) = (Char.ofNat n).toLower := by
  decide +kernel

-- Apart from the letters i and s, a letter is read only from what has it for its lower case.
theorem lowerChar_of_foldLetter {c : Char} (h : IsSmall (foldLetter c))
    (hi : foldLetter c ≠ 'i') (hs : foldLetter c ≠ 's') : lowerChar c = [foldLetter c] := by
  have hascii : (foldLetter c).toNat < 128 := by
    have := h.2
    omega
  obtain hc | hc := toNat_lt_or_of_foldLetter hascii
  · have hfold := foldLetter_of_ascii c.toNat hc
    rw [Char.ofNat_toNat] at hfold
    rw [lowerChar, if_pos hc, hfold]
  · obtain rfl | rfl | rfl | rfl : c = 'İ' ∨ c = 'ı' ∨ c = 'ſ' ∨ c = '\u212a' := by simpa using hc
    · exact absurd rfl hi
    · exact absurd rfl hi
    · exact absurd rfl hs
    · decide +kernel

-- No letter outside ASCII has an ASCII character for its lower case, except for the Kelvin sign. The
-- check is a Boolean one, because the table is long.
private theorem lowerRuns_avoid_ascii :
    (lowerRuns.all fun run => Nat.ble 128 (run.first + run.shift).toNat ||
      (run.first == 0x212A && run.last == 0x212A && run.shift == -8383)) = true := by
  decide +kernel

private theorem eq_kelvin_of_applyRuns {c : Char} (hc : 128 ≤ c.toNat)
    (h : IsSmall (applyRuns lowerRuns c)) : c = '\u212a' ∧ applyRuns lowerRuns c = 'k' := by
  obtain ⟨hlow, hhigh⟩ := h
  unfold applyRuns at hlow hhigh ⊢
  cases hshifted : lowerRuns.findSome? (·.shifted? c.toNat) with
  | none =>
    rw [hshifted] at hhigh
    dsimp only at hhigh
    omega
  | some n =>
    rw [hshifted] at hlow hhigh
    dsimp only at hlow hhigh ⊢
    have hchar : (Char.ofNat n).toNat = n := toNat_ofNat_of_pos (by omega)
    obtain ⟨run, hrun, hn⟩ := List.exists_of_findSome?_eq_some hshifted
    have havoid := List.all_eq_true.mp lowerRuns_avoid_ascii run hrun
    simp only [Bool.or_eq_true, Bool.and_eq_true, Nat.ble_eq, beq_iff_eq] at havoid
    unfold CaseRun.shifted? at hn
    split at hn
    · rename_i hwithin
      obtain rfl : ((c.toNat : Int) + run.shift).toNat = n := by simpa using hn
      have hkelvin : c.toNat = 0x212A := by omega
      have hn : ((c.toNat : Int) + run.shift).toNat = 107 := by omega
      refine ⟨?_, ?_⟩
      · rw [← Char.ofNat_toNat c, hkelvin]
      · rw [hn]
    · cases hn

theorem foldLetter_eq_of_lowerChar {c d : Char} (h : lowerChar c = [d]) (hd : IsSmall d) :
    foldLetter c = d := by
  unfold lowerChar at h
  split_ifs at h with hascii hdotted
  · obtain rfl : c.toLower = d := by simpa using h
    have hfold := foldLetter_of_ascii c.toNat hascii
    rwa [Char.ofNat_toNat] at hfold
  · simp at h
  · obtain rfl : applyRuns lowerRuns c = d := by simpa using h
    obtain ⟨rfl, hk⟩ := eq_kelvin_of_applyRuns (by omega) hd
    rw [hk]
    rfl

-- A word of small letters is read from every text that has it for its lower case.
theorem map_foldLetter_of_lowerFrom {after : Bool} {cs word : List Char}
    (h : lowerFrom after cs = word) (hword : ∀ c ∈ word, IsSmall c) :
    cs.map foldLetter = word := by
  induction cs generalizing after word with
  | nil => exact h
  | cons c cs ih =>
    rw [lowerFrom] at h
    subst h
    obtain ⟨hc, hcs⟩ := List.forall_mem_append.mp hword
    split at hc
    · rename_i hsigma
      split at hc
      · exact absurd (hc 'ς' (by simp)) (by decide)
      · exact absurd (hc 'σ' (by simp)) (by decide)
    · rename_i hsigma
      rw [if_neg hsigma, List.map_cons, ih rfl hcs]
      obtain hdotted | ⟨d, hd⟩ := lowerChar_eq_singleton_or c
      · rw [hdotted] at hc
        exact absurd (hc '\u0307' (by simp)) (by decide)
      · rw [hd] at hc ⊢
        rw [foldLetter_eq_of_lowerChar hd (hc d (by simp))]
        rfl

end ClausePrompt.Text
