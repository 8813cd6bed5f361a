import ClausePrompt.Proofs.Argument.Segments
import Mathlib.Data.List.Induction

namespace ClausePrompt

namespace Delimiter

@[simp] theorem ofOpener?_opener (d : Delimiter) : ofOpener? d.opener = some d := by
  cases d <;> decide

@[simp] theorem ofOpener?_closer (d : Delimiter) : ofOpener? d.closer = none := by
  cases d <;> decide

@[simp] theorem ofCloser?_opener (d : Delimiter) : ofCloser? d.opener = none := by
  cases d <;> decide

@[simp] theorem ofCloser?_closer (d : Delimiter) : ofCloser? d.closer = some d := by
  cases d <;> decide

theorem eq_opener_of_ofOpener? {c : Char} {d : Delimiter} (h : ofOpener? c = some d) :
    c = d.opener := by
  unfold ofOpener? at h
  split_ifs at h with hround hsquare
  · obtain rfl := Option.some.inj h
    exact hround
  · obtain rfl := Option.some.inj h
    exact hsquare

theorem eq_closer_of_ofCloser? {c : Char} {d : Delimiter} (h : ofCloser? c = some d) :
    c = d.closer := by
  unfold ofCloser? at h
  split_ifs at h with hround hsquare
  · obtain rfl := Option.some.inj h
    exact hround
  · obtain rfl := Option.some.inj h
    exact hsquare

end Delimiter

@[simp] theorem isDelimiter_opener (d : Delimiter) : isDelimiter d.opener = true := by
  simp [isDelimiter]

@[simp] theorem isDelimiter_closer (d : Delimiter) : isDelimiter d.closer = true := by
  simp [isDelimiter]

theorem isDelimiter_eq_false_iff {c : Char} :
    isDelimiter c = false ↔ Delimiter.ofOpener? c = none ∧ Delimiter.ofCloser? c = none := by
  simp [isDelimiter]

theorem any_isDelimiter_eq_false_iff {text : List Char} :
    text.any isDelimiter = false ↔ ∀ c ∈ text, isDelimiter c = false := by
  simp

-- A character opens a delimiter, closes one or does neither.
theorem delimiter_cases (c : Char) :
    isDelimiter c = false ∨ (∃ d : Delimiter, c = d.opener) ∨ ∃ d : Delimiter, c = d.closer := by
  cases hopener : Delimiter.ofOpener? c with
  | some d => exact .inr (.inl ⟨d, Delimiter.eq_opener_of_ofOpener? hopener⟩)
  | none =>
    cases hcloser : Delimiter.ofCloser? c with
    | some d => exact .inr (.inr ⟨d, Delimiter.eq_closer_of_ofCloser? hcloser⟩)
    | none => exact .inl (isDelimiter_eq_false_iff.mpr ⟨hopener, hcloser⟩)

-- Characters of a kind that none of the four belongs to are no delimiters.
theorem isDelimiter_of_kind {p : Char → Bool} (h : ['(', ')', '[', ']'].any p = false)
    {c : Char} (hc : p c = true) : isDelimiter c = false := by
  rw [List.any_eq_false] at h
  obtain hplain | ⟨d, rfl⟩ | ⟨d, rfl⟩ := delimiter_cases c
  · exact hplain
  · exact absurd hc (h _ (by cases d <;> simp [Delimiter.opener]))
  · exact absurd hc (h _ (by cases d <;> simp [Delimiter.closer]))

theorem isDelimiter_of_isBlank {c : Char} (h : Text.isBlank c = true) : isDelimiter c = false :=
  isDelimiter_of_kind (by decide) h

namespace Nesting

-- Every delimiter is closed by its own kind, and whatever opens inside is closed before.
inductive WellNested : List Char → Prop
  | nil : WellNested []
  | plain {c : Char} {cs : List Char} (hc : isDelimiter c = false) (hcs : WellNested cs) :
      WellNested (c :: cs)
  | wrap (d : Delimiter) {inner rest : List Char} (hinner : WellNested inner)
      (hrest : WellNested rest) : WellNested (d.opener :: inner ++ d.closer :: rest)

namespace WellNested

theorem of_plain {cs : List Char} (h : ∀ c ∈ cs, isDelimiter c = false) : WellNested cs := by
  induction cs with
  | nil => exact .nil
  | cons c cs ih =>
    obtain ⟨hc, hcs⟩ := List.forall_mem_cons.mp h
    exact .plain hc (ih hcs)

theorem append {front back : List Char} (hfront : WellNested front) (hback : WellNested back) :
    WellNested (front ++ back) := by
  induction hfront with
  | nil => exact hback
  | plain hc _ ih => exact .plain hc ih
  | wrap d hinner _ _ ih =>
    rw [List.append_assoc, List.cons_append]
    exact .wrap d hinner ih

-- Only the delimiters matter.
theorem of_filter {text : List Char} (h : WellNested (text.filter isDelimiter)) :
    WellNested text := by
  generalize hdelimiters : text.filter isDelimiter = delimiters at h
  induction h generalizing text with
  | nil =>
    rw [List.filter_eq_nil_iff] at hdelimiters
    exact of_plain fun c hc => Bool.eq_false_iff.mpr (hdelimiters c hc)
  | plain hc _ _ =>
    obtain ⟨_, _, -, -, hdelimiter, -⟩ := List.filter_eq_cons_iff.mp hdelimiters
    exact absurd hdelimiter (by simp [hc])
  | wrap d _ _ ihinner ihrest =>
    obtain ⟨front, back, rfl, hfront, hback⟩ := List.filter_eq_append_iff.mp hdelimiters
    obtain ⟨before, inner, rfl, hbefore, -, hinner⟩ := List.filter_eq_cons_iff.mp hfront
    obtain ⟨between, rest, rfl, hbetween, -, hrest⟩ := List.filter_eq_cons_iff.mp hback
    have hplain : ∀ {cs : List Char}, (∀ c ∈ cs, ¬isDelimiter c = true) → WellNested cs :=
      fun hcs => of_plain fun c hc => Bool.eq_false_iff.mpr (hcs c hc)
    have hinside := (ihinner hinner).append (hplain hbetween)
    have hwhole := (hplain hbefore).append (.wrap d hinside (ihrest hrest))
    simpa using hwhole

theorem filter {text : List Char} (h : WellNested text) :
    WellNested (text.filter isDelimiter) := by
  induction h with
  | nil => exact .nil
  | plain hc _ ih => rwa [List.filter_cons_of_neg (by simp [hc])]
  | wrap d _ _ ihinner ihrest =>
    rw [List.filter_append, List.filter_cons_of_pos (isDelimiter_opener d),
      List.filter_cons_of_pos (isDelimiter_closer d)]
    exact .wrap d ihinner ihrest

end WellNested

theorem wellNested_filter_iff {text : List Char} :
    WellNested (text.filter isDelimiter) ↔ WellNested text :=
  ⟨.of_filter, .filter⟩

theorem WellNested.of_append_plain {front back : List Char} (h : WellNested (front ++ back))
    (hfront : ∀ c ∈ front, isDelimiter c = false) : WellNested back := by
  have hnone : front.filter isDelimiter = [] :=
    List.filter_eq_nil_iff.mpr fun c hc => by simp [hfront c hc]
  rw [← wellNested_filter_iff, List.filter_append, hnone, List.nil_append,
    wellNested_filter_iff] at h
  exact h

-- The blanks around a text are no delimiters.
theorem filter_trim (text : List Char) :
    (Text.trim text).filter isDelimiter = text.filter isDelimiter := by
  obtain ⟨before, after, htext, hbefore, hafter⟩ := Text.exists_eq_append_trim text
  have hblank : ∀ {cs : List Char}, Text.allBlank cs = true → cs.filter isDelimiter = [] := by
    intro cs hcs
    rw [List.filter_eq_nil_iff]
    intro c hc
    simp [isDelimiter_of_isBlank (Text.allBlank_iff.mp hcs c hc)]
  conv_rhs => rw [htext]
  rw [List.filter_append, List.filter_append, hblank hbefore, hblank hafter, List.nil_append,
    List.append_nil]

theorem WellNested.trim {text : List Char} (h : WellNested text) : WellNested (Text.trim text) := by
  rw [← wellNested_filter_iff, filter_trim, wellNested_filter_iff]
  exact h

-- The delimiters that a text leaves open, innermost first. Every closer in it matches.
inductive LeavesOpen : List Delimiter → List Char → Prop
  | closed {text : List Char} (h : WellNested text) : LeavesOpen [] text
  | opened {stack : List Delimiter} {front inner : List Char} (hfront : LeavesOpen stack front)
      (d : Delimiter) (hinner : WellNested inner) :
      LeavesOpen (d :: stack) (front ++ d.opener :: inner)

-- The text has a closer that does not match the innermost open delimiter, and this is the first.
def Mismatched (d : Delimiter) (text : List Char) : Prop :=
  ∃ stack front rest, text = front ++ d.closer :: rest ∧ LeavesOpen stack front ∧
    stack.head? ≠ some d

theorem LeavesOpen.append {stack : List Delimiter} {front back : List Char}
    (hfront : LeavesOpen stack front) (hback : WellNested back) :
    LeavesOpen stack (front ++ back) := by
  cases hfront with
  | closed h => exact .closed (h.append hback)
  | opened hfront d hinner =>
    rw [List.append_assoc, List.cons_append]
    exact .opened hfront d (hinner.append hback)

-- A matching closer brings back the delimiters that were open around its opener.
theorem LeavesOpen.close {d : Delimiter} {stack : List Delimiter} {front : List Char}
    (h : LeavesOpen (d :: stack) front) : LeavesOpen stack (front ++ [d.closer]) := by
  cases h with
  | opened hfront d hinner =>
    rw [List.append_assoc, List.cons_append]
    exact hfront.append (.wrap d hinner .nil)

theorem Mismatched.append {d : Delimiter} {front : List Char} (h : Mismatched d front)
    (back : List Char) : Mismatched d (front ++ back) := by
  obtain ⟨stack, before, rest, rfl, hopen, hne⟩ := h
  exact ⟨stack, before, rest ++ back, by simp, hopen, hne⟩

-- The induction is on the text from its end, since what is open depends on what stands before.
theorem leavesOpen_or_mismatched (text : List Char) :
    (∃ stack, LeavesOpen stack text) ∨ ∃ d, Mismatched d text := by
  induction text using List.reverseRecOn with
  | nil => exact .inl ⟨[], .closed .nil⟩
  | append_singleton front c ih =>
    obtain ⟨stack, hopen⟩ | ⟨d, hmismatched⟩ := ih
    · obtain hplain | ⟨d, rfl⟩ | ⟨d, rfl⟩ := delimiter_cases c
      · exact .inl ⟨stack, hopen.append (.plain hplain .nil)⟩
      · exact .inl ⟨d :: stack, .opened hopen d .nil⟩
      · by_cases hhead : stack.head? = some d
        · obtain ⟨outer, rfl⟩ := List.head?_eq_some_iff.mp hhead
          exact .inl ⟨outer, hopen.close⟩
        · exact .inr ⟨d, stack, front, [], rfl, hopen, hhead⟩
    · exact .inr ⟨d, hmismatched.append [c]⟩

-- A text closes everything, leaves something open or has a closer that does not match.
theorem nesting_cases (text : List Char) :
    WellNested text ∨ (∃ d stack, LeavesOpen (d :: stack) text) ∨ ∃ d, Mismatched d text := by
  obtain ⟨stack, hopen⟩ | hmismatched := leavesOpen_or_mismatched text
  · cases hopen with
    | closed h => exact .inl h
    | opened hfront d hinner => exact .inr (.inl ⟨d, _, .opened hfront d hinner⟩)
  · exact .inr (.inr hmismatched)

section Pieces

variable {separator : Option Char} {stack : List Delimiter} {flaw : Flaw}

theorem piecesFrom_opener (d : Delimiter) (cs : List Char) :
    piecesFrom separator stack (d.opener :: cs) =
      (piecesFrom separator (d :: stack) cs).map (Text.extendFirst d.opener) := by
  rw [piecesFrom, Delimiter.ofOpener?_opener]

theorem piecesFrom_closer (d : Delimiter) (cs : List Char) :
    piecesFrom separator (d :: stack) (d.closer :: cs) =
      (piecesFrom separator stack cs).map (Text.extendFirst d.closer) := by
  simp [piecesFrom]

theorem piecesFrom_mismatch {d : Delimiter} (h : stack.head? ≠ some d) (cs : List Char) :
    piecesFrom separator stack (d.closer :: cs) = .error (.unexpected d) := by
  cases stack with
  | nil => simp [piecesFrom]
  | cons e outer =>
    have hne : d ≠ e := fun he => h (congrArg some he.symm)
    simp [piecesFrom, hne]

theorem piecesFrom_separator {c : Char} (hc : isDelimiter c = false) (cs : List Char) :
    piecesFrom (some c) [] (c :: cs) = (piecesFrom (some c) [] cs).map ([] :: ·) := by
  obtain ⟨hopener, hcloser⟩ := isDelimiter_eq_false_iff.mp hc
  simp [piecesFrom, hopener, hcloser]

theorem piecesFrom_plain {c : Char} (hc : isDelimiter c = false)
    (huncut : stack = [] → separator ≠ some c) (cs : List Char) :
    piecesFrom separator stack (c :: cs) =
      (piecesFrom separator stack cs).map (Text.extendFirst c) := by
  obtain ⟨hopener, hcloser⟩ := isDelimiter_eq_false_iff.mp hc
  simp only [piecesFrom, hopener, hcloser]
  rw [if_neg fun h => huncut h.1 h.2]

-- What is well nested has no flaw of its own, wherever it stands.
theorem piecesFrom_append_eq_error_iff {inner : List Char} (h : WellNested inner)
    (rest : List Char) :
    piecesFrom separator stack (inner ++ rest) = .error flaw ↔
      piecesFrom separator stack rest = .error flaw := by
  induction h generalizing stack rest with
  | nil => rfl
  | @plain c cs hc _ ih =>
    rw [List.cons_append, ← ih rest]
    by_cases hcut : stack = [] ∧ separator = some c
    · obtain ⟨rfl, rfl⟩ := hcut
      rw [piecesFrom_separator hc, Outcome.map_eq_error_iff]
    · rw [piecesFrom_plain hc fun hstack hseparator => hcut ⟨hstack, hseparator⟩,
        Outcome.map_eq_error_iff]
  | wrap d _ _ ihinner ihrest =>
    rw [List.append_assoc, List.cons_append, List.cons_append, piecesFrom_opener,
      Outcome.map_eq_error_iff, ihinner, piecesFrom_closer, Outcome.map_eq_error_iff, ihrest]

-- After a text that leaves delimiters open, the next character is read with these on the stack.
theorem LeavesOpen.piecesFrom_eq_error_iff {front : List Char} (h : LeavesOpen stack front)
    (rest : List Char) :
    piecesFrom separator [] (front ++ rest) = .error flaw ↔
      piecesFrom separator stack rest = .error flaw := by
  induction h generalizing rest with
  | closed h => exact piecesFrom_append_eq_error_iff h rest
  | opened _ d hinner ih =>
    rw [List.append_assoc, List.cons_append, ih, piecesFrom_opener, Outcome.map_eq_error_iff,
      piecesFrom_append_eq_error_iff hinner]

end Pieces

section Flaws

variable {separator : Option Char} {text : List Char} {flaw : Flaw}

theorem split_eq_error_iff :
    split separator text = .error flaw ↔ piecesFrom separator [] text = .error flaw :=
  Outcome.map_eq_error_iff

-- A text without a mismatched closer is judged by what it leaves open.
theorem LeavesOpen.split_eq_error_iff {stack : List Delimiter} (h : LeavesOpen stack text) :
    split separator text = .error flaw ↔ piecesFrom separator stack [] = .error flaw := by
  rw [Nesting.split_eq_error_iff, ← h.piecesFrom_eq_error_iff [], List.append_nil]

theorem WellNested.split_ne_error (h : WellNested text) :
    split separator text ≠ .error flaw := by
  rw [ne_eq, (LeavesOpen.closed h).split_eq_error_iff]
  exact fun h => nomatch h

theorem LeavesOpen.split_eq_error {d : Delimiter} {stack : List Delimiter}
    (h : LeavesOpen (d :: stack) text) : split separator text = .error (.unclosed d) :=
  h.split_eq_error_iff.mpr rfl

theorem Mismatched.split_eq_error {d : Delimiter} (h : Mismatched d text) :
    split separator text = .error (.unexpected d) := by
  obtain ⟨stack, front, rest, rfl, hopen, hne⟩ := h
  rw [split_eq_error_iff, hopen.piecesFrom_eq_error_iff, piecesFrom_mismatch hne]

-- One of the three holds of every text, and the outcomes of the three are different.
theorem split_eq_unexpected_iff {d : Delimiter} :
    split separator text = .error (.unexpected d) ↔ Mismatched d text := by
  refine ⟨fun h => ?_, Mismatched.split_eq_error⟩
  obtain hnested | ⟨e, stack, hopen⟩ | ⟨e, hmismatched⟩ := nesting_cases text
  · exact absurd h hnested.split_ne_error
  · exact nomatch hopen.split_eq_error.symm.trans h
  · obtain rfl : e = d := by
      simpa using hmismatched.split_eq_error.symm.trans h
    exact hmismatched

theorem split_eq_unclosed_iff {d : Delimiter} :
    split separator text = .error (.unclosed d) ↔ ∃ stack, LeavesOpen (d :: stack) text := by
  refine ⟨fun h => ?_, fun ⟨stack, hopen⟩ => hopen.split_eq_error⟩
  obtain hnested | ⟨e, stack, hopen⟩ | ⟨e, hmismatched⟩ := nesting_cases text
  · exact absurd h hnested.split_ne_error
  · obtain rfl : e = d := by
      simpa using hopen.split_eq_error.symm.trans h
    exact ⟨stack, hopen⟩
  · exact nomatch hmismatched.split_eq_error.symm.trans h

theorem exists_split_eq_ok_iff :
    (∃ segments, split separator text = .ok segments) ↔ WellNested text := by
  constructor
  · rintro ⟨segments, h⟩
    obtain hnested | ⟨d, stack, hopen⟩ | ⟨d, hmismatched⟩ := nesting_cases text
    · exact hnested
    · exact nomatch hopen.split_eq_error.symm.trans h
    · exact nomatch hmismatched.split_eq_error.symm.trans h
  · intro h
    cases hsplit : split separator text with
    | ok segments => exact ⟨segments, rfl⟩
    | error flaw => exact absurd hsplit h.split_ne_error

end Flaws

-- Splitting without a separator tells whether a text is well nested.
instance (text : List Char) : Decidable (WellNested text) :=
  decidable_of_iff ((split none text).isOk = true) <| by
    rw [← exists_split_eq_ok_iff]
    cases split none text <;> simp [Except.isOk, Except.toBool]

end Nesting

end ClausePrompt
