import ClausePrompt.Proofs.Prompt.RoundTrip

namespace ClausePrompt

namespace Clause

theorem length_canonicalChars (clause : Clause) :
    clause.canonicalChars.length =
      clause.keyword.id.length + (Text.trim clause.raw.toList).length + 3 := by
  simp only [canonicalChars, List.cons_append, List.length_cons, List.length_append,
    String.length_toList]
  omega

end Clause

namespace Prompt

-- A clause is written with a blank after its keyword, which may be missing where it is read.
theorem length_of_readPiece {lexicon : Lexicon} {piece : List Char} {clause : Clause}
    (h : readPiece lexicon piece = .ok clause) :
    clause.canonicalChars.length ≤ piece.length + 1 := by
  obtain ⟨keyword, argument, hsplit, hread⟩ := exists_splitClause?_of_readPiece h
  obtain ⟨rfl, -, -⟩ := splitClause?_eq_some_iff.mp hsplit
  obtain ⟨hresolve, hfor⟩ := Clause.read_eq_ok_iff.mp hread
  obtain ⟨-, hraw, -⟩ := Clause.readFor_eq_ok_iff.mp hfor
  have hid := Lexicon.length_id_of_resolve hresolve
  have hkeyword := (Text.trim_isInfix keyword).length_le
  have hargument := (Text.trim_isInfix argument).length_le
  rw [String.toList_ofList] at hid
  rw [Clause.length_canonicalChars, hid, hraw, String.toList_ofList, Text.trim_trim]
  simp only [List.length_append, List.length_cons]
  omega

theorem length_flatten_of_readPieces {lexicon : Lexicon} {position : Nat} {ps : List (List Char)}
    {clauses : List Clause} (h : readPieces lexicon position ps = .ok clauses) :
    (clauses.map Clause.canonicalChars).flatten.length ≤ ps.flatten.length + ps.length := by
  induction ps generalizing position clauses with
  | nil =>
    obtain rfl : [] = clauses := by simpa [readPieces] using h
    simp
  | cons p ps ih =>
    unfold readPieces at h
    split at h
    · cases h
    · rename_i clause hclause
      obtain ⟨rest, hrest, rfl⟩ := Outcome.map_eq_ok_iff.mp h
      have hflat := ih hrest
      have hpiece := length_of_readPiece hclause
      simp only [List.map_cons, List.flatten_cons, List.length_append, List.length_cons]
      omega

theorem length_eq_length_intercalate (prompt : Prompt) :
    prompt.length =
      (separator.toList.intercalate (prompt.clauses.map Clause.canonicalChars)).length := by
  rw [length, ← String.length_toList, toList_text]

-- Written out, a text grows by at most one blank for each clause and two for each separator.
theorem length_of_parse {lexicon : Lexicon} {source : String} {prompt : Prompt}
    (h : parse lexicon source = .ok prompt) :
    prompt.length ≤ source.length + (3 * prompt.clauses.length - 2) := by
  unfold parse at h
  split at h
  · obtain rfl : {} = prompt := by simpa using h
    exact Nat.zero_le _
  · obtain ⟨clauses, hread, rfl⟩ := Outcome.map_eq_ok_iff.mp h
    have hlength := length_of_readPieces hread
    have hflat := length_flatten_of_readPieces hread
    have hcut := Text.length_flatten_pieces Argument.clauseSeparator source.toList
    have htrim : (pieces source.toList).flatten.length ≤
        (Text.pieces Argument.clauseSeparator source.toList).flatten.length :=
      Text.length_flatten_map_trim _
    have hcount : (pieces source.toList).length =
        (Text.pieces Argument.clauseSeparator source.toList).length := List.length_map _
    have hpos : 0 < clauses.length := by
      have := List.length_pos_of_ne_nil
        (Text.pieces_ne_nil Argument.clauseSeparator source.toList)
      omega
    have hne : clauses.map Clause.canonicalChars ≠ [] := by
      simpa using List.ne_nil_of_length_pos hpos
    have hwritten := Text.length_intercalate separator.toList hne
    have hseparator : separator.toList.length = 3 := by decide
    rw [← length_eq_length_intercalate ⟨clauses⟩, List.length_map, hseparator] at hwritten
    rw [String.length_toList] at hcut
    dsimp only
    omega

end Prompt

end ClausePrompt
