import ClausePrompt.Text.Pieces
import Mathlib.Data.List.DropRight

namespace ClausePrompt.Text

theorem allBlank_iff {cs : List Char} : allBlank cs = true ↔ ∀ c ∈ cs, isBlank c = true := by
  simp [allBlank]

theorem not_mem_of_allBlank {c : Char} {cs : List Char} (hc : isBlank c = false)
    (h : allBlank cs = true) : c ∉ cs := by
  intro hmem
  simp [allBlank_iff.mp h c hmem] at hc

theorem allBlank_eq_false_of_mem {c : Char} {cs : List Char} (hmem : c ∈ cs)
    (hc : isBlank c = false) : allBlank cs = false := by
  cases hblank : allBlank cs with
  | false => rfl
  | true => exact absurd hmem (not_mem_of_allBlank hc hblank)

-- A run of characters ends where the first of another kind stands.
theorem takeWhile_append_of_head {p : Char → Bool} {front rest : List Char}
    (hfront : ∀ c ∈ front, p c = true) (hrest : ∀ c ∈ rest.head?, p c = false) :
    (front ++ rest).takeWhile p = front := by
  rw [List.takeWhile_append_of_pos hfront]
  cases rest with
  | nil => rw [List.takeWhile_nil, List.append_nil]
  | cons c rest => rw [List.takeWhile_cons_of_neg (by simp [hrest c rfl]), List.append_nil]

theorem dropWhile_append_of_head {p : Char → Bool} {front rest : List Char}
    (hfront : ∀ c ∈ front, p c = true) (hrest : ∀ c ∈ rest.head?, p c = false) :
    (front ++ rest).dropWhile p = rest := by
  rw [List.dropWhile_append_of_pos hfront]
  cases rest with
  | nil => rfl
  | cons c rest => exact List.dropWhile_cons_of_neg (by simp [hrest c rfl])

theorem trimEnd_eq_rdropWhile (cs : List Char) : trimEnd cs = cs.rdropWhile isBlank := rfl

theorem trimStart_append_of_allBlank {w : List Char} (cs : List Char) (h : allBlank w = true) :
    trimStart (w ++ cs) = trimStart cs := by
  unfold trimStart
  exact List.dropWhile_append_of_pos (allBlank_iff.mp h)

theorem trimEnd_append_of_allBlank {w : List Char} (cs : List Char) (h : allBlank w = true) :
    trimEnd (cs ++ w) = trimEnd cs := by
  have hw : ∀ c ∈ w.reverse, isBlank c = true := by
    intro c hc
    exact allBlank_iff.mp h c (List.mem_reverse.mp hc)
  unfold trimEnd
  rw [List.reverse_append, List.dropWhile_append_of_pos hw]

theorem trimStart_eq_nil_iff {cs : List Char} : trimStart cs = [] ↔ allBlank cs = true := by
  simp [trimStart, allBlank_iff, List.dropWhile_eq_nil_iff]

theorem trimEnd_eq_nil_iff {cs : List Char} : trimEnd cs = [] ↔ allBlank cs = true := by
  rw [trimEnd_eq_rdropWhile, List.rdropWhile_eq_nil_iff, allBlank_iff]

-- Only blanks are trimmed away at the end.
theorem exists_eq_trimEnd_append (cs : List Char) :
    ∃ after, cs = trimEnd cs ++ after ∧ allBlank after = true := by
  have hcut := List.takeWhile_append_dropWhile (p := isBlank) (l := cs.reverse)
  refine ⟨(cs.reverse.takeWhile isBlank).reverse, ?_, ?_⟩
  · rw [trimEnd, ← List.reverse_append, hcut, List.reverse_reverse]
  · exact allBlank_iff.mpr fun c hc => List.mem_takeWhile_imp (List.mem_reverse.mp hc)

theorem trimStart_cons_of_not_blank {c : Char} (cs : List Char) (h : isBlank c = false) :
    trimStart (c :: cs) = c :: cs :=
  List.dropWhile_cons_of_neg (by simp [h])

-- What stands before a character that is no blank is not at the end.
theorem trimEnd_append_cons {c : Char} (front back : List Char) (h : isBlank c = false) :
    trimEnd (front ++ c :: back) = front ++ c :: trimEnd back := by
  obtain ⟨after, hback, hafter⟩ := exists_eq_trimEnd_append back
  have hkept : front ++ c :: back = (front ++ c :: trimEnd back) ++ after := by
    rw [List.append_assoc, List.cons_append, ← hback]
  rw [hkept, trimEnd_append_of_allBlank _ hafter, trimEnd_eq_rdropWhile,
    List.rdropWhile_eq_self_iff]
  intro hne
  rw [List.getLast_append_of_ne_nil _ (List.cons_ne_nil c (trimEnd back))]
  by_cases hnil : trimEnd back = []
  · simp [hnil, h]
  · rw [List.getLast_cons hnil]
    exact List.rdropWhile_last_not isBlank back hnil

theorem allBlank_trimStart {cs : List Char} : allBlank (trimStart cs) = allBlank cs := by
  rw [Bool.eq_iff_iff, ← trimStart_eq_nil_iff, ← trimStart_eq_nil_iff]
  simp only [trimStart, List.dropWhile_idempotent]

theorem allBlank_trimEnd {cs : List Char} : allBlank (trimEnd cs) = allBlank cs := by
  rw [Bool.eq_iff_iff, ← trimEnd_eq_nil_iff, ← trimEnd_eq_nil_iff]
  simp only [trimEnd_eq_rdropWhile, List.rdropWhile_idempotent]

-- A text that is trimmed away has nothing but blanks.
@[simp] theorem trim_eq_nil_iff {cs : List Char} : trim cs = [] ↔ allBlank cs = true := by
  rw [trim, trimEnd_eq_nil_iff, allBlank_trimStart]

theorem trim_append_left {w : List Char} (cs : List Char) (h : allBlank w = true) :
    trim (w ++ cs) = trim cs := by
  rw [trim, trimStart_append_of_allBlank cs h, trim]

theorem trim_append_right {w : List Char} (cs : List Char) (h : allBlank w = true) :
    trim (cs ++ w) = trim cs := by
  have hs : trimStart (cs ++ w) =
      if (trimStart cs).isEmpty then trimStart w else trimStart cs ++ w := List.dropWhile_append
  rw [trim, hs, trim]
  by_cases he : trimStart cs = []
  · simp [he, trimStart_eq_nil_iff.mpr h]
  · rw [if_neg (by simpa using he), trimEnd_append_of_allBlank _ h]

@[simp] theorem trim_trimEnd (cs : List Char) : trim (trimEnd cs) = trim cs := by
  obtain ⟨after, hcs, hafter⟩ := exists_eq_trimEnd_append cs
  conv_rhs => rw [hcs, trim_append_right _ hafter]

theorem trim_cons_of_isBlank {c : Char} (cs : List Char) (h : isBlank c = true) :
    trim (c :: cs) = trim cs :=
  trim_append_left (w := [c]) cs (by simp [allBlank, h])

-- A text is trimmed if it neither starts nor ends with a blank.
theorem trim_eq_self {cs : List Char} (hhead : ∀ c ∈ cs.head?, isBlank c = false)
    (hlast : ∀ c ∈ cs.getLast?, isBlank c = false) : trim cs = cs := by
  have hs : trimStart cs = cs := by
    cases cs with
    | nil => rfl
    | cons c cs => exact trimStart_cons_of_not_blank cs (hhead c rfl)
  rw [trim, hs, trimEnd_eq_rdropWhile, List.rdropWhile_eq_self_iff]
  intro hne
  simp [hlast _ (List.getLast?_eq_getLast_of_ne_nil hne)]

theorem trim_isPrefix_trimStart (cs : List Char) : trim cs <+: trimStart cs := by
  rw [trim, trimEnd_eq_rdropWhile]
  exact List.rdropWhile_prefix isBlank _

-- A text that starts with no blank keeps its first character.
theorem exists_trim_cons {c : Char} (h : isBlank c = false) (cs : List Char) :
    ∃ rest, trim (c :: cs) = c :: rest := by
  have hprefix := trim_isPrefix_trimStart (c :: cs)
  rw [trimStart_cons_of_not_blank cs h] at hprefix
  obtain hnil | ⟨rest, htrim, -⟩ := List.prefix_cons_iff.mp hprefix
  · have hblank := allBlank_iff.mp (trim_eq_nil_iff.mp hnil) c List.mem_cons_self
    rw [h] at hblank
    cases hblank
  · exact ⟨rest, htrim⟩

theorem trim_isInfix (cs : List Char) : trim cs <:+: cs :=
  (trim_isPrefix_trimStart cs).isInfix.trans (List.dropWhile_suffix isBlank).isInfix

-- Only blanks are trimmed away.
theorem exists_eq_append_trim (cs : List Char) :
    ∃ before after, cs = before ++ trim cs ++ after ∧ allBlank before = true ∧
      allBlank after = true := by
  obtain ⟨after, hend, hafter⟩ := exists_eq_trimEnd_append (trimStart cs)
  refine ⟨cs.takeWhile isBlank, after, ?_, ?_, hafter⟩
  · rw [List.append_assoc, trim, ← hend]
    exact (List.takeWhile_append_dropWhile (p := isBlank) (l := cs)).symm
  · exact allBlank_iff.mpr fun c hc => List.mem_takeWhile_imp hc

theorem mem_trim_iff {c : Char} {cs : List Char} (hc : isBlank c = false) :
    c ∈ trim cs ↔ c ∈ cs := by
  obtain ⟨before, after, hcut, hbefore, hafter⟩ := exists_eq_append_trim cs
  conv_rhs => rw [hcut]
  simp [not_mem_of_allBlank hc hbefore, not_mem_of_allBlank hc hafter]

theorem isBlank_head_trim {cs : List Char} : ∀ c ∈ (trim cs).head?, isBlank c = false := by
  intro c hc
  have hs : (trimStart cs).head? = some c := by
    obtain ⟨rest, hr⟩ := trim_isPrefix_trimStart cs
    rw [← hr, List.head?_append, Option.mem_def.mp hc]
    rfl
  have hd := List.head?_dropWhile_not isBlank cs
  rw [trimStart] at hs
  simpa [hs] using hd

theorem isBlank_getLast_trim {cs : List Char} : ∀ c ∈ (trim cs).getLast?, isBlank c = false := by
  intro c hc
  obtain ⟨hne, rfl⟩ := List.mem_getLast?_eq_getLast hc
  have hlast := List.rdropWhile_last_not isBlank (trimStart cs) hne
  rwa [Bool.not_eq_true] at hlast

@[simp] theorem trim_trim (cs : List Char) : trim (trim cs) = trim cs :=
  trim_eq_self isBlank_head_trim isBlank_getLast_trim

-- Two texts with something between them are trimmed where the two are, as long as neither is blank.
theorem exists_trim_append {front back : List Char} (between : List Char) (hfront : trim front ≠ [])
    (hback : trim back ≠ []) :
    ∃ before after, allBlank before = true ∧ allBlank after = true ∧
      trim (front ++ between ++ back) = trim front ++ before ++ between ++ after ++ trim back := by
  obtain ⟨blanks, before, hcut, hblanks, hbefore⟩ := exists_eq_append_trim front
  obtain ⟨after, blanks', hcut', hafter, hblanks'⟩ := exists_eq_append_trim back
  refine ⟨before, after, hbefore, hafter, ?_⟩
  have htext : front ++ between ++ back =
      blanks ++ ((trim front ++ before ++ between ++ after ++ trim back) ++ blanks') := by
    conv_lhs => rw [hcut, hcut']
    simp
  rw [htext, trim_append_left _ hblanks, trim_append_right _ hblanks']
  apply trim_eq_self
  · simp only [List.append_assoc, List.head?_append_of_ne_nil _ hfront]
    exact isBlank_head_trim
  · rw [List.getLast?_append_of_ne_nil _ hback]
    exact isBlank_getLast_trim

@[simp] theorem toList_trimmed (s : String) : (trimmed s).toList = trim s.toList := by
  simp [trimmed]

theorem trim_toList {s : String} (h : trimmed s = s) : trim s.toList = s.toList := by
  rw [← toList_trimmed, h]

theorem trimmed_trimmed (s : String) : trimmed (trimmed s) = trimmed s := by
  rw [trimmed, toList_trimmed, trim_trim]
  rfl

theorem allBlank_trimmed {s : String} (h : trimmed s ≠ "") :
    allBlank (trimmed s).toList = false := by
  rw [Bool.eq_false_iff]
  intro hblank
  rw [toList_trimmed, ← trim_eq_nil_iff, trim_trim] at hblank
  exact h (by rw [trimmed, hblank])

end ClausePrompt.Text
