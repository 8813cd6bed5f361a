import ClausePrompt.Argument.Reader
import ClausePrompt.Proofs.Outcome
import ClausePrompt.Proofs.Text.Pieces

namespace ClausePrompt

namespace Nesting

theorem isCut_of_piecesFrom {separator : Option Char} {stack : List Delimiter}
    {text : List Char} {ps : List (List Char)} (h : piecesFrom separator stack text = .ok ps) :
    Text.IsCut text ps := by
  induction text generalizing stack ps with
  | nil =>
    cases stack with
    | nil =>
      obtain rfl : [[]] = ps := by simpa [piecesFrom] using h
      exact .nil
    | cons d stack => cases h
  | cons c cs ih =>
    have hextend : ∀ {inner : List Delimiter},
        (piecesFrom separator inner cs).map (Text.extendFirst c) = .ok ps →
          Text.IsCut (c :: cs) ps := by
      intro inner hinner
      obtain ⟨rest, hrest, rfl⟩ := Outcome.map_eq_ok_iff.mp hinner
      exact .extend c (ih hrest)
    rw [piecesFrom] at h
    split at h
    · exact hextend h
    · split at h
      · split at h
        · cases h
        · split at h
          · exact hextend h
          · cases h
      · split at h
        · obtain ⟨rest, hrest, rfl⟩ := Outcome.map_eq_ok_iff.mp h
          exact .separate c List.suffix_rfl (ih hrest)
        · exact hextend h

theorem isInfix_of_split {separator : Option Char} {text : List Char} {ps : List (List Char)}
    (h : split separator text = .ok ps) : ∀ piece ∈ ps, piece <:+: text := by
  obtain ⟨raw, hraw, rfl⟩ := Outcome.map_eq_ok_iff.mp h
  intro piece hmem
  obtain ⟨untrimmed, huntrimmed, rfl⟩ := List.mem_map.mp hmem
  exact (Text.trim_isInfix untrimmed).trans ((isCut_of_piecesFrom hraw).isInfix _ huntrimmed)

-- A text is one segment if nothing in it can cut it or open a delimiter.
theorem piecesFrom_nil_of_plain {separator : Option Char} {text : List Char}
    (h : ∀ c ∈ text, isDelimiter c = false ∧ separator ≠ some c) :
    piecesFrom separator [] text = .ok [text] := by
  induction text with
  | nil => rfl
  | cons c cs ih =>
    obtain ⟨⟨hdelimiter, hseparator⟩, hcs⟩ := List.forall_mem_cons.mp h
    obtain ⟨hopener, hcloser⟩ :
        Delimiter.ofOpener? c = none ∧ Delimiter.ofCloser? c = none := by
      simpa [isDelimiter] using hdelimiter
    simp only [piecesFrom, hopener, hcloser, hseparator, and_false, if_false, ih hcs]
    rfl

end Nesting

namespace Span

-- The induction is on the text, with any number of characters still to be passed over.
theorem isCut_piecesFrom (skip : Nat) (text : List Char) :
    Text.IsCut (text.drop skip) (piecesFrom skip text) := by
  induction text generalizing skip with
  | nil =>
    rw [List.drop_nil, piecesFrom]
    exact .nil
  | cons c cs ih =>
    cases skip with
    | succ skip => exact ih skip
    | zero =>
      rw [piecesFrom, List.drop_zero]
      split
      · exact .separate c (List.drop_suffix _ cs) (ih _)
      · exact .extend c (ih 0)

theorem isInfix_of_mem_split {text piece : List Char} (h : piece ∈ split text) :
    piece <:+: text := by
  obtain ⟨untrimmed, huntrimmed, rfl⟩ := List.mem_map.mp h
  exact (Text.trim_isInfix untrimmed).trans
    ((isCut_piecesFrom 0 text).isInfix untrimmed huntrimmed)

theorem piecesFrom_zero_of_no_blank {text : List Char}
    (h : ∀ c ∈ text, Text.isBlank c = false) : piecesFrom 0 text = [text] := by
  induction text with
  | nil => rfl
  | cons c cs ih =>
    obtain ⟨hc, hcs⟩ := List.forall_mem_cons.mp h
    have hafter : afterTo? (c :: cs) = none := by simp [afterTo?, hc]
    rw [piecesFrom, hafter, ih hcs]
    rfl

end Span

namespace Argument

theorem isInfix_of_segments {text : List Char} {parts : List (List Char)}
    (h : segments text = .ok parts) : ∀ part ∈ parts, part <:+: text := by
  unfold segments at h
  split at h
  · rename_i hsplit
    obtain rfl := Except.ok.inj h
    exact Nesting.isInfix_of_split hsplit
  · cases h

-- The way a text is cut into the parts of a pair, which are one or two and not empty.
theorem splitPair_eq_ok_iff {rules : Rules} {text : List Char} {parts : List (List Char)}
    {join : Option IndexJoin} :
    splitPair rules text = .ok (parts, join) ↔
      (∃ found, segments text = .ok found ∧
        (if 1 < found.length then (found, some .list)
          else if rules.numeric ≠ .none ∧ 1 < (Span.split text).length then
            (Span.split text, some .span)
          else (found, none)) = (parts, join)) ∧
      parts.length ≤ 2 ∧ [] ∉ parts := by
  have hchecked : ∀ found : List (List Char) × Option IndexJoin,
      (if 2 < found.1.length then malformed (.tooManyParts found.1.length)
        else if found.1.any (·.isEmpty) then malformed .emptySegment
        else .ok (found.1, found.2) : Reading _) = .ok (parts, join) ↔
      found = (parts, join) ∧ parts.length ≤ 2 ∧ [] ∉ parts := by
    intro found
    constructor
    · intro h
      split_ifs at h with hmany hempty
      · cases h
      · cases h
      · obtain rfl : found = (parts, join) := Except.ok.inj h
        exact ⟨rfl, Nat.le_of_not_lt hmany, by simpa using hempty⟩
    · rintro ⟨rfl, hmany, hempty⟩
      rw [if_neg (Nat.not_lt.mpr hmany), if_neg (by simpa using hempty)]
  unfold splitPair
  rw [Outcome.bind_eq_ok_iff]
  constructor
  · rintro ⟨found, hfound, hparts⟩
    obtain ⟨hcut, hchecks⟩ := (hchecked _).mp hparts
    exact ⟨⟨found, hfound, hcut⟩, hchecks⟩
  · rintro ⟨⟨found, hfound, hcut⟩, hchecks⟩
    exact ⟨found, hfound, (hchecked _).mpr ⟨hcut, hchecks⟩⟩

-- The parts of a pair stand in the text, whichever way it was split.
theorem isInfix_of_splitPair {rules : Rules} {text : List Char} {parts : List (List Char)}
    {join : Option IndexJoin} (h : splitPair rules text = .ok (parts, join)) :
    ∀ part ∈ parts, part <:+: text := by
  obtain ⟨⟨found, hfound, hcut⟩, -⟩ := splitPair_eq_ok_iff.mp h
  split_ifs at hcut
  · obtain ⟨rfl, -⟩ := Prod.mk.inj hcut
    exact isInfix_of_segments hfound
  · obtain ⟨rfl, -⟩ := Prod.mk.inj hcut
    exact fun part => Span.isInfix_of_mem_split
  · obtain ⟨rfl, -⟩ := Prod.mk.inj hcut
    exact isInfix_of_segments hfound

end Argument

end ClausePrompt
