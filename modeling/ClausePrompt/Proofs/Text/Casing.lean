import ClausePrompt.Text.Casing
import ClausePrompt.Text.CharClass
import Mathlib.Data.List.Infix

namespace ClausePrompt.Text

-- Only the dotted capital I has more than one character in lower case.
theorem lowerChar_eq_singleton_or (c : Char) :
    lowerChar c = ['i', '\u0307'] ∨ ∃ d, lowerChar c = [d] := by
  unfold lowerChar
  split
  · exact .inr ⟨_, rfl⟩
  · split
    · exact .inl rfl
    · exact .inr ⟨_, rfl⟩

-- A text keeps its length in lower case, as long as no dot is left behind.
theorem length_lowerFrom {after : Bool} {cs : List Char} (h : '\u0307' ∉ lowerFrom after cs) :
    (lowerFrom after cs).length = cs.length := by
  induction cs generalizing after with
  | nil => rfl
  | cons c cs ih =>
    rw [lowerFrom, List.mem_append, not_or] at h
    obtain ⟨hc, hcs⟩ := h
    rw [lowerFrom, List.length_append, ih hcs, List.length_cons]
    split
    · simp [Nat.add_comm]
    · rename_i hsigma
      rw [if_neg hsigma] at hc
      obtain hdotted | ⟨d, hd⟩ := lowerChar_eq_singleton_or c
      · simp [hdotted] at hc
      · simp [hd, Nat.add_comm]

theorem isDigit_iff {c : Char} :
    isDigit c = true ↔ ∃ first ∈ digitZeros, first ≤ c.toNat ∧ c.toNat < first + 10 := by
  simp [isDigit, digitValue?, List.find?_isSome]

-- No letter outside ASCII has a digit for its lower case. The check is a Boolean one, because the
-- tables are long.
private theorem lowerRuns_avoid_digits :
    (digitZeros.all fun first => lowerRuns.all fun run =>
      (run.last + run.shift).toNat.blt first || (first + 10).ble (run.first + run.shift).toNat) =
        true := by
  decide +kernel

private theorem digitZeros_bounds : ∀ first ∈ digitZeros, first = 48 ∨ 122 < first := by
  decide

theorem toNat_ofNat_of_pos {n : Nat} (h : 0 < (Char.ofNat n).toNat) :
    (Char.ofNat n).toNat = n := by
  by_cases hvalid : n.isValidChar
  · rw [Char.ofNat, dif_pos hvalid]
    rfl
  · rw [Char.ofNat, dif_neg hvalid] at h
    exact absurd h (Nat.lt_irrefl 0)

private theorem applyRuns_eq_self_of_isDigit {c : Char}
    (h : isDigit (applyRuns lowerRuns c) = true) : applyRuns lowerRuns c = c := by
  unfold applyRuns at h ⊢
  cases hshifted : lowerRuns.findSome? (·.shifted? c.toNat) with
  | none => rfl
  | some n =>
    rw [hshifted] at h
    obtain ⟨first, hfirst, hle, hlt⟩ := isDigit_iff.mp h
    obtain ⟨run, hrun, hn⟩ := List.exists_of_findSome?_eq_some hshifted
    have havoid := List.all_eq_true.mp (List.all_eq_true.mp lowerRuns_avoid_digits first hfirst)
      run hrun
    rw [Bool.or_eq_true, Nat.blt_eq, Nat.ble_eq] at havoid
    have hbounds := digitZeros_bounds first hfirst
    dsimp only at hle hlt
    have hchar : (Char.ofNat n).toNat = n := toNat_ofNat_of_pos (by omega)
    unfold CaseRun.shifted? at hn
    split at hn
    · rename_i hwithin
      obtain rfl : ((c.toNat : Int) + run.shift).toNat = n := by simpa using hn
      omega
    · cases hn

private theorem toNat_toLower_of_ne {c : Char} (h : c.toLower ≠ c) :
    97 ≤ c.toLower.toNat ∧ c.toLower.toNat ≤ 122 := by
  unfold Char.toLower at h ⊢
  split at h
  · rename_i hupper
    rw [dif_pos hupper]
    obtain ⟨hA, hZ⟩ := hupper
    have hlow : 65 ≤ c.val.toNat := hA
    have hhigh : c.val.toNat ≤ 90 := hZ
    have hval : (c.val + ('a'.val - 'A'.val)).toNat = c.val.toNat + 32 := by
      rw [UInt32.toNat_add]
      exact Nat.mod_eq_of_lt (by change c.val.toNat + 32 < _; omega)
    constructor
    · change 97 ≤ (c.val + ('a'.val - 'A'.val)).toNat
      omega
    · change (c.val + ('a'.val - 'A'.val)).toNat ≤ 122
      omega
  · exact absurd rfl h

private theorem toLower_eq_self_of_isDigit {c : Char} (h : isDigit c.toLower = true) :
    c.toLower = c := by
  by_contra hne
  obtain ⟨hlow, hhigh⟩ := toNat_toLower_of_ne hne
  obtain ⟨first, hfirst, hle, hlt⟩ := isDigit_iff.mp h
  have hbounds := digitZeros_bounds first hfirst
  omega

-- A digit in a text in lower case is the digit that stood there before.
theorem lowerChar_eq_self_of_isDigit {c d : Char} (hmem : d ∈ lowerChar c)
    (hdigit : isDigit d = true) : lowerChar c = [c] := by
  unfold lowerChar at hmem ⊢
  split at hmem
  · rename_i hascii
    obtain rfl : d = c.toLower := by simpa using hmem
    rw [if_pos hascii, toLower_eq_self_of_isDigit hdigit]
  · rename_i hascii
    rw [if_neg hascii]
    split at hmem
    · obtain rfl | rfl : d = 'i' ∨ d = '\u0307' := by simpa using hmem
      · exact absurd hdigit (by decide)
      · exact absurd hdigit (by decide)
    · rename_i hdotted
      obtain rfl : d = applyRuns lowerRuns c := by simpa using hmem
      rw [if_neg hdotted, applyRuns_eq_self_of_isDigit hdigit]

-- What a character becomes in a text holds a digit only if the character stays as it is.
private theorem exists_lowerFrom_cons (after : Bool) (c : Char) (cs : List Char) :
    ∃ front next, lowerFrom after (c :: cs) = front ++ lowerFrom next cs ∧
      (front = [c] ∨ front ≠ [] ∧ ∀ d ∈ front, isDigit d = false) := by
  refine ⟨_, _, rfl, ?_⟩
  split
  · refine .inr ⟨by simp, fun d hd => ?_⟩
    split at hd
    · obtain rfl : d = 'ς' := by simpa using hd
      decide
    · obtain rfl : d = 'σ' := by simpa using hd
      decide
  · by_cases hdigit : ∃ d ∈ lowerChar c, isDigit d = true
    · obtain ⟨d, hd, hdigit⟩ := hdigit
      exact .inl (lowerChar_eq_self_of_isDigit hd hdigit)
    · refine .inr ⟨?_, fun d hd => ?_⟩
      · obtain hdotted | ⟨d, hd⟩ := lowerChar_eq_singleton_or c
        · simp [hdotted]
        · simp [hd]
      · simpa using fun h => hdigit ⟨d, hd, h⟩

theorem prefix_of_prefix_lowerFrom {run cs : List Char} {after : Bool}
    (hdigits : ∀ c ∈ run, isDigit c = true) (h : run <+: lowerFrom after cs) : run <+: cs := by
  induction cs generalizing run after with
  | nil => exact h
  | cons c cs ih =>
    obtain ⟨front, next, hcons, hfront⟩ := exists_lowerFrom_cons after c cs
    rw [hcons] at h
    cases run with
    | nil => exact List.nil_prefix
    | cons d run =>
      obtain ⟨hd, hrun⟩ := List.forall_mem_cons.mp hdigits
      obtain rfl | ⟨hne, hletters⟩ := hfront
      · obtain ⟨rfl, hprefix⟩ := List.cons_prefix_cons.mp h
        exact List.cons_prefix_cons.mpr ⟨rfl, ih hrun hprefix⟩
      · obtain ⟨e, front, rfl⟩ := List.exists_cons_of_ne_nil hne
        obtain ⟨rfl, -⟩ := List.cons_prefix_cons.mp h
        simp [hletters d (by simp)] at hd

-- Every run of digits in a text in lower case stood in the text before.
theorem infix_of_infix_lowerFrom {run cs : List Char} {after : Bool}
    (hdigits : ∀ c ∈ run, isDigit c = true) (h : run <:+: lowerFrom after cs) : run <:+: cs := by
  induction cs generalizing after with
  | nil => exact h
  | cons c cs ih =>
    obtain ⟨front, next, hcons, hfront⟩ := exists_lowerFrom_cons after c cs
    obtain rfl | ⟨-, hletters⟩ := hfront
    · rw [hcons, List.singleton_append] at h
      obtain hprefix | hinfix := List.infix_cons_iff.mp h
      · rw [← List.singleton_append, ← hcons] at hprefix
        exact (prefix_of_prefix_lowerFrom hdigits hprefix).isInfix
      · exact List.infix_cons (ih hinfix)
    · -- a run that reaches into the front would have a digit there
      have hnone : ∀ part : List Char, part ⊆ run → part ⊆ front → part = [] := by
        intro part hrun hfront
        refine List.eq_nil_iff_forall_not_mem.mpr fun d hd => ?_
        exact absurd (hdigits d (hrun hd)) (by simp [hletters d (hfront hd)])
      rw [hcons] at h
      obtain hin | hin | ⟨left, right, rfl, hleft, hright⟩ := List.infix_append_iff.mp h
      · rw [hnone run (List.Subset.refl run) hin.subset]
        exact List.nil_infix
      · exact List.infix_cons (ih hin)
      · obtain rfl := hnone left (List.subset_append_left left right) hleft.subset
        exact List.infix_cons (ih hright.isInfix)

end ClausePrompt.Text
