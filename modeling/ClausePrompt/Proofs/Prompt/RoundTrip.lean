import ClausePrompt.Lexicon.Standard
import ClausePrompt.Proofs.Prompt.Piece

namespace ClausePrompt.Prompt

theorem pieces_intercalate {texts : List (List Char)} (hne : texts ≠ [])
    (hsep : ∀ cs ∈ texts, Argument.clauseSeparator ∉ cs) :
    pieces (separator.toList.intercalate texts) = texts.map Text.trim := by
  induction texts with
  | nil => exact absurd rfl hne
  | cons cs rest ih =>
    obtain ⟨hcs, hrest⟩ := List.forall_mem_cons.mp hsep
    cases rest with
    | nil => simp [pieces_eq_singleton hcs]
    | cons ds rest =>
      have hsplit : separator.toList.intercalate (cs :: ds :: rest) =
          cs ++ [' '] ++ Argument.clauseSeparator ::
            ([' '] ++ separator.toList.intercalate (ds :: rest)) := by
        simp [separator, Argument.clauseSeparator, List.intercalate_cons_cons]
      rw [hsplit, pieces_append_separator _ _ (by decide) (by decide), ih (by simp) hrest,
        pieces_eq_singleton hcs]
      rfl

theorem toList_text (prompt : Prompt) :
    prompt.text.toList =
      separator.toList.intercalate (prompt.clauses.map Clause.canonicalChars) := by
  simp [text, List.map_map, Function.comp_def]

-- A prompt is written with the asterisk of its first clause.
theorem asterisk_mem_text {prompt : Prompt} (hne : prompt.clauses ≠ []) :
    '*' ∈ prompt.text.toList := by
  obtain ⟨first, rest, hclauses⟩ := List.exists_cons_of_ne_nil hne
  have hfirst : '*' ∈ first.canonicalChars := by simp [Clause.canonicalChars]
  rw [toList_text, hclauses, List.map_cons]
  cases rest with
  | nil => simpa using hfirst
  | cons second rest =>
    rw [List.map_cons, List.intercalate_cons_cons]
    exact List.mem_append_left _ (List.mem_append_left _ hfirst)

theorem splitClause?_canonicalChars (clause : Clause) :
    splitClause? clause.canonicalChars =
      some (clause.keyword.id.toList, ' ' :: Text.trim clause.raw.toList) := by
  refine splitClause?_eq_some_iff.mpr ⟨rfl, clause.keyword.id_ne_nil, fun c hc => ?_⟩
  have hstar : c ≠ '*' := Keyword.ne_of_mem_id hc (by decide)
  simp [isKeywordChar, hstar, Keyword.isBlank_of_mem_id hc]

theorem readPiece_canonicalChars {lexicon : Lexicon} {clause : Clause}
    (h : clause.Accepted lexicon) :
    readPiece lexicon clause.canonicalChars = .ok clause.tidy := by
  have hblank : Text.isBlank ' ' = true := by decide
  rw [readPiece_of_splitClause? lexicon (splitClause?_canonicalChars clause),
    Text.trim_cons_of_isBlank _ hblank, Text.trim_trim, String.ofList_toList]
  exact Clause.read_tidy h

theorem readPieces_canonicalChars {lexicon : Lexicon} {clauses : List Clause}
    (h : ∀ clause ∈ clauses, clause.Accepted lexicon) (position : Nat) :
    readPieces lexicon position (clauses.map Clause.canonicalChars) =
      .ok (clauses.map Clause.tidy) := by
  induction clauses generalizing position with
  | nil => rfl
  | cons clause clauses ih =>
    obtain ⟨hclause, hclauses⟩ := List.forall_mem_cons.mp h
    simp only [List.map_cons, readPieces, readPiece_canonicalChars hclause, ih hclauses]
    rfl

-- A prompt of clauses that were read under the lexicon.
def Accepted (lexicon : Lexicon) (prompt : Prompt) : Prop :=
  ∀ clause ∈ prompt.clauses, clause.Accepted lexicon

-- The prompt as it comes back from its text.
def tidy (prompt : Prompt) : Prompt := ⟨prompt.clauses.map Clause.tidy⟩

@[simp] theorem text_tidy (prompt : Prompt) : prompt.tidy.text = prompt.text := by
  simp [text, tidy, Function.comp_def]

theorem equivalent_tidy (prompt : Prompt) : prompt.equivalent prompt.tidy = true := by
  obtain ⟨clauses⟩ := prompt
  simp only [equivalent, tidy, List.length_map, beq_self_eq_true, Bool.true_and]
  induction clauses with
  | nil => rfl
  | cons clause clauses ih => simp [clause.equivalent_tidy, ih]

theorem pieces_text {lexicon : Lexicon} {prompt : Prompt} (h : prompt.Accepted lexicon)
    (hne : prompt.clauses ≠ []) :
    pieces prompt.text.toList = prompt.clauses.map Clause.canonicalChars := by
  rw [toList_text, pieces_intercalate (by simpa using hne)]
  · rw [List.map_map]
    exact List.map_congr_left fun clause hc => Clause.trim_canonicalChars (h clause hc)
  · intro cs hcs
    obtain ⟨clause, hc, rfl⟩ := List.mem_map.mp hcs
    exact Clause.separator_not_mem_canonicalChars (h clause hc)

theorem parse_text {lexicon : Lexicon} {prompt : Prompt} (h : prompt.Accepted lexicon) :
    parse lexicon prompt.text = .ok prompt.tidy := by
  by_cases hne : prompt.clauses = []
  · have hprompt : prompt = {} := by
      cases prompt
      simpa using hne
    rw [hprompt]
    rfl
  · have hblank : Text.allBlank prompt.text.toList = false :=
      Text.allBlank_eq_false_of_mem (asterisk_mem_text hne) (by decide)
    rw [parse, if_neg (Bool.eq_false_iff.mp hblank), pieces_text h hne,
      readPieces_canonicalChars h]
    rfl

theorem readPiece_eq_ok {lexicon : Lexicon} {piece : List Char} {clause : Clause}
    (h : readPiece lexicon piece = .ok clause) :
    clause.Accepted lexicon ∧ Text.trimmed clause.raw = clause.raw := by
  obtain ⟨keyword, argument, -, hread⟩ := exists_splitClause?_of_readPiece h
  obtain ⟨-, hfor⟩ := Clause.read_eq_ok_iff.mp hread
  obtain ⟨-, hraw, -⟩ := Clause.readFor_eq_ok_iff.mp hfor
  refine ⟨⟨_, _, hread⟩, ?_⟩
  rw [hraw]
  simp [Text.trimmed]

theorem readPieces_eq_ok {lexicon : Lexicon} {position : Nat} {ps : List (List Char)}
    {clauses : List Clause} (h : readPieces lexicon position ps = .ok clauses) :
    ∀ clause ∈ clauses, clause.Accepted lexicon ∧ Text.trimmed clause.raw = clause.raw := by
  induction ps generalizing position clauses with
  | nil =>
    obtain rfl : [] = clauses := by simpa [readPieces] using h
    simp
  | cons p ps ih =>
    unfold readPieces at h
    split at h
    · cases h
    · rename_i clause hclause
      obtain ⟨rest, hrest, rfl⟩ := Outcome.map_eq_ok_iff.mp h
      exact List.forall_mem_cons.mpr ⟨readPiece_eq_ok hclause, ih hrest⟩

theorem length_of_readPieces {lexicon : Lexicon} {position : Nat} {ps : List (List Char)}
    {clauses : List Clause} (h : readPieces lexicon position ps = .ok clauses) :
    clauses.length = ps.length := by
  induction ps generalizing position clauses with
  | nil =>
    obtain rfl : [] = clauses := by simpa [readPieces] using h
    rfl
  | cons p ps ih =>
    unfold readPieces at h
    split at h
    · cases h
    · obtain ⟨rest, hrest, rfl⟩ := Outcome.map_eq_ok_iff.mp h
      rw [List.length_cons, ih hrest, List.length_cons]

-- What comes out of a text has no blanks around its arguments any more.
theorem accepted_of_parse {lexicon : Lexicon} {source : String} {prompt : Prompt}
    (h : parse lexicon source = .ok prompt) : prompt.Accepted lexicon ∧ prompt.tidy = prompt := by
  unfold parse at h
  split at h
  · obtain rfl : {} = prompt := by simpa using h
    exact ⟨by simp [Accepted], rfl⟩
  · obtain ⟨clauses, hread, rfl⟩ := Outcome.map_eq_ok_iff.mp h
    have hall := readPieces_eq_ok hread
    refine ⟨fun clause hc => (hall clause hc).1, ?_⟩
    have hmap : clauses.map Clause.tidy = clauses.map id :=
      List.map_congr_left fun clause hc => Clause.tidy_eq_self (hall clause hc).2
    simp [tidy, hmap]

-- Clauses that were read survive being written and read again. Only the blanks around their
-- arguments are lost, and what came out of a text has none.
theorem round_trip (lexicon : Lexicon) (clauses : List Clause)
    (hread : ∀ clause ∈ clauses, ∃ typed raw, Clause.read lexicon typed raw = .ok clause) :
    ∃ again : Prompt, parse lexicon (text ⟨clauses⟩) = .ok again ∧
      List.Forall₂ (fun before after : Clause => after.keyword = before.keyword ∧
        after.argument = before.argument ∧ after.raw = Text.trimmed before.raw)
        clauses again.clauses ∧
      again.text = text ⟨clauses⟩ ∧
      ∀ source, parse lexicon source = .ok ⟨clauses⟩ → again = ⟨clauses⟩ := by
  refine ⟨tidy ⟨clauses⟩, parse_text hread, ?_, text_tidy _, ?_⟩
  · rw [tidy, List.forall₂_map_right_iff, List.forall₂_same]
    intro clause _
    exact ⟨rfl, rfl, rfl⟩
  · intro source hsource
    exact (accepted_of_parse hsource).2

-- The keyword `in` twice, once with an asterisk in its argument, and blanks of several kinds.
theorem round_trip_in_font_in :
    ∃ first second third again,
      Clause.read .standard " IN " "\t a * b " = .ok first ∧
      Clause.read .standard "font" " mono ;light( 00 ) \n" = .ok second ∧
      Clause.read .standard "in" "\u2003swift" = .ok third ∧
      parse .standard (text ⟨[first, second, third]⟩) = .ok again ∧
      again.text = "*in* a * b | *font* mono ;light( 00 ) | *in* swift" := by
  have hfirst : Clause.read .standard " IN " "\t a * b " = .ok
      ⟨Lexicon.standardKeywords[0], "\t a * b ", .token "a * b"⟩ := by decide
  have hsecond : Clause.read .standard "font" " mono ;light( 00 ) \n" = .ok
      ⟨Lexicon.standardKeywords[20], " mono ;light( 00 ) \n",
        .variants ["mono"] (some "00") none⟩ := by decide
  have hthird : Clause.read .standard "in" "\u2003swift" = .ok
      ⟨Lexicon.standardKeywords[0], "\u2003swift", .token "swift"⟩ := by decide
  obtain ⟨again, hagain, -, htext, -⟩ := round_trip .standard [_, _, _] (by
    simp only [List.forall_mem_cons]
    exact ⟨⟨_, _, hfirst⟩, ⟨_, _, hsecond⟩, ⟨_, _, hthird⟩, by simp⟩)
  exact ⟨_, _, _, again, hfirst, hsecond, hthird, hagain, htext.trans (by decide)⟩

end ClausePrompt.Prompt
