import ClausePrompt.Proofs.Text.Trim
import ClausePrompt.Text.Pieces
import Mathlib.Data.List.Basic

namespace ClausePrompt.Text

theorem extendFirst_of_ne_nil {ps : List (List Char)} (c : Char) (h : ps ≠ []) :
    extendFirst c ps = ps.modifyHead (c :: ·) := by
  cases ps with
  | nil => exact absurd rfl h
  | cons p ps => rfl

theorem pieces_eq_splitOn (sep : Char) (cs : List Char) : pieces sep cs = cs.splitOn sep := by
  induction cs with
  | nil => rfl
  | cons c cs ih =>
    rw [pieces, ih, extendFirst_of_ne_nil c (List.splitOn_ne_nil sep cs),
      List.splitOn_cons_eq_if_modifyHead]
    simp

theorem pieces_ne_nil (sep : Char) (cs : List Char) : pieces sep cs ≠ [] := by
  rw [pieces_eq_splitOn]
  exact List.splitOn_ne_nil sep cs

theorem pieces_append_cons (sep : Char) (a b : List Char) :
    pieces sep (a ++ sep :: b) = pieces sep a ++ pieces sep b := by
  simp only [pieces_eq_splitOn]
  exact List.splitOn_append_cons_self a b

theorem pieces_eq_singleton {sep : Char} {cs : List Char} (h : sep ∉ cs) :
    pieces sep cs = [cs] := by
  rw [pieces_eq_splitOn, List.splitOn_eq_singleton h]

theorem length_intercalate (separator : List Char) {texts : List (List Char)} (hne : texts ≠ []) :
    (separator.intercalate texts).length + separator.length =
      texts.flatten.length + separator.length * texts.length := by
  induction texts with
  | nil => exact absurd rfl hne
  | cons cs rest ih =>
    cases rest with
    | nil => simp
    | cons ds rest =>
      have hrest := ih (List.cons_ne_nil ds rest)
      rw [List.intercalate_cons_cons, List.length_append, List.length_append, List.flatten_cons,
        List.length_append, List.length_cons, Nat.mul_succ]
      omega

-- The pieces hold every character of the text except the separators.
theorem length_flatten_pieces (sep : Char) (cs : List Char) :
    (pieces sep cs).flatten.length + (pieces sep cs).length = cs.length + 1 := by
  have hjoined := length_intercalate [sep] (List.splitOn_ne_nil sep cs)
  rw [List.intercalate_splitOn, List.length_singleton, Nat.one_mul] at hjoined
  rw [pieces_eq_splitOn]
  exact hjoined.symm

theorem length_flatten_map_trim (texts : List (List Char)) :
    (texts.map trim).flatten.length ≤ texts.flatten.length := by
  induction texts with
  | nil => exact Nat.le_refl 0
  | cons cs rest ih =>
    have htrim := (trim_isInfix cs).length_le
    simp only [List.map_cons, List.flatten_cons, List.length_append]
    omega

-- Blanks at the ends of a text only reach its first and its last piece. Both proofs cut the text
-- at a separator until none is left.
theorem map_trim_pieces_append_left {sep : Char} {w : List Char} (cs : List Char)
    (hsep : isBlank sep = false) (hw : allBlank w = true) :
    (pieces sep (w ++ cs)).map trim = (pieces sep cs).map trim := by
  by_cases hmem : sep ∈ cs
  · obtain ⟨a, b, rfl⟩ := List.append_of_mem hmem
    rw [← List.append_assoc, pieces_append_cons, pieces_append_cons, List.map_append,
      List.map_append, map_trim_pieces_append_left a hsep hw]
  · have hnot : sep ∉ w ++ cs := by simp [not_mem_of_allBlank hsep hw, hmem]
    rw [pieces_eq_singleton hnot, pieces_eq_singleton hmem]
    simp [trim_append_left cs hw]
termination_by cs.length

theorem map_trim_pieces_append_right {sep : Char} {w : List Char} (cs : List Char)
    (hsep : isBlank sep = false) (hw : allBlank w = true) :
    (pieces sep (cs ++ w)).map trim = (pieces sep cs).map trim := by
  by_cases hmem : sep ∈ cs
  · obtain ⟨a, b, rfl⟩ := List.append_of_mem hmem
    rw [List.append_assoc, List.cons_append, pieces_append_cons, pieces_append_cons,
      List.map_append, List.map_append, map_trim_pieces_append_right b hsep hw]
  · have hnot : sep ∉ cs ++ w := by simp [not_mem_of_allBlank hsep hw, hmem]
    rw [pieces_eq_singleton hnot, pieces_eq_singleton hmem]
    simp [trim_append_right cs hw]
termination_by cs.length

-- Pieces of a text, the first of which begins where the text does.
def IsCut (text : List Char) (pieces : List (List Char)) : Prop :=
  ∃ first rest, pieces = first :: rest ∧ first <+: text ∧ ∀ piece ∈ rest, piece <:+: text

namespace IsCut

theorem nil : IsCut [] [[]] := ⟨[], [], rfl, List.nil_prefix, by simp⟩

theorem extend {text : List Char} {ps : List (List Char)} (c : Char) (h : IsCut text ps) :
    IsCut (c :: text) (extendFirst c ps) := by
  obtain ⟨first, rest, rfl, hfirst, hrest⟩ := h
  refine ⟨c :: first, rest, rfl, List.cons_prefix_cons.mpr ⟨rfl, hfirst⟩, fun piece hmem => ?_⟩
  exact List.infix_cons (hrest piece hmem)

theorem isInfix {text : List Char} {ps : List (List Char)} (h : IsCut text ps) :
    ∀ piece ∈ ps, piece <:+: text := by
  obtain ⟨first, rest, rfl, hfirst, hrest⟩ := h
  exact List.forall_mem_cons.mpr ⟨hfirst.isInfix, hrest⟩

-- What is passed over belongs to a separator.
theorem separate {text rest : List Char} {ps : List (List Char)} (c : Char) (hrest : rest <:+ text)
    (h : IsCut rest ps) : IsCut (c :: text) ([] :: ps) := by
  refine ⟨[], ps, rfl, List.nil_prefix, fun piece hmem => ?_⟩
  exact List.infix_cons ((h.isInfix piece hmem).trans hrest.isInfix)

end IsCut

theorem isCut_pieces (sep : Char) (cs : List Char) : IsCut cs (pieces sep cs) := by
  induction cs with
  | nil => exact .nil
  | cons c cs ih =>
    rw [pieces]
    split
    · exact .separate c List.suffix_rfl ih
    · exact .extend c ih

end ClausePrompt.Text
