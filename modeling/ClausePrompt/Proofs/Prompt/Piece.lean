import ClausePrompt.Lexicon.Standard
import ClausePrompt.Proofs.Clause.Accepted
import ClausePrompt.Proofs.Outcome
import ClausePrompt.Proofs.Text.Pieces
import ClausePrompt.Prompt.Written

namespace ClausePrompt.Prompt

-- The blanks around a separator belong to neither side of it.
theorem pieces_append_separator {w v : List Char} (a b : List Char)
    (hw : Text.allBlank w = true) (hv : Text.allBlank v = true) :
    pieces (a ++ w ++ Argument.clauseSeparator :: (v ++ b)) = pieces a ++ pieces b := by
  have hsep : Text.isBlank Argument.clauseSeparator = false := by decide
  rw [pieces, Text.pieces_append_cons, List.map_append,
    Text.map_trim_pieces_append_right a hsep hw, Text.map_trim_pieces_append_left b hsep hv]
  rfl

theorem pieces_eq_singleton {cs : List Char} (h : Argument.clauseSeparator ∉ cs) :
    pieces cs = [Text.trim cs] := by
  rw [pieces, Text.pieces_eq_singleton h, List.map_singleton]

-- A piece is cut at its second asterisk, and only if the keyword before it is well formed.
theorem splitClause?_eq_some_iff {piece keyword argument : List Char} :
    splitClause? piece = some (keyword, argument) ↔
      piece = '*' :: keyword ++ '*' :: argument ∧ keyword ≠ [] ∧
        ∀ c ∈ keyword, isKeywordChar c = true := by
  have hstar : isKeywordChar '*' ≠ true := by decide
  constructor
  · intro h
    unfold splitClause? at h
    split at h
    · rename_i rest
      have hrest := List.takeWhile_append_dropWhile (p := isKeywordChar) (l := rest)
      split at h
      · rename_i head tail cs htake hdrop
        obtain ⟨rfl, rfl⟩ : _ = keyword ∧ cs = argument := by simpa using h
        rw [htake, hdrop] at hrest
        refine ⟨by rw [← hrest]; rfl, by simp, fun c hc => ?_⟩
        rw [← htake] at hc
        exact List.mem_takeWhile_imp hc
      · cases h
    · cases h
  · rintro ⟨rfl, hne, hall⟩
    have htake : (keyword ++ '*' :: argument).takeWhile isKeywordChar = keyword := by
      rw [List.takeWhile_append_of_pos hall, List.takeWhile_cons_of_neg hstar, List.append_nil]
    have hdrop : (keyword ++ '*' :: argument).dropWhile isKeywordChar = '*' :: argument := by
      rw [List.dropWhile_append_of_pos hall, List.dropWhile_cons_of_neg hstar]
    obtain ⟨c, cs, rfl⟩ := List.exists_cons_of_ne_nil hne
    rw [List.cons_append, splitClause?, htake, hdrop]
    rfl

theorem readPiece_of_splitClause? (lexicon : Lexicon) {piece keyword argument : List Char}
    (h : splitClause? piece = some (keyword, argument)) :
    readPiece lexicon piece =
      Clause.read lexicon (String.ofList keyword) (String.ofList (Text.trim argument)) := by
  obtain ⟨rfl, -, -⟩ := splitClause?_eq_some_iff.mp h
  simp only [readPiece, readClause, h]
  rfl

-- Every clause that is read comes from a keyword and an argument.
theorem exists_splitClause?_of_readPiece {lexicon : Lexicon} {piece : List Char} {clause : Clause}
    (h : readPiece lexicon piece = .ok clause) :
    ∃ keyword argument, splitClause? piece = some (keyword, argument) ∧
      Clause.read lexicon (String.ofList keyword) (String.ofList (Text.trim argument)) =
        .ok clause := by
  cases hsplit : splitClause? piece with
  | some parts => exact ⟨parts.1, parts.2, rfl, (readPiece_of_splitClause? lexicon hsplit) ▸ h⟩
  | none =>
    simp only [readPiece, readClause, hsplit] at h
    split at h <;> cases h

-- A piece of a text that is written as a clause: `*keyword*` and an argument, with blanks before
-- and after. The keyword is not empty and holds neither asterisks nor blanks. The argument may be
-- any text.
def HasForm (piece : List Char) (typed argument : String) : Prop :=
  ∃ before, Text.allBlank before = true ∧
    piece = before ++ '*' :: typed.toList ++ '*' :: argument.toList ∧
    typed ≠ "" ∧ ∀ c ∈ typed.toList, c ≠ '*' ∧ Text.isBlank c = false

namespace HasForm

variable {piece : List Char} {typed argument : String}

theorem splitClause?_trim (h : HasForm piece typed argument) :
    splitClause? (Text.trim piece) = some (typed.toList, Text.trimEnd argument.toList) := by
  obtain ⟨before, hbefore, rfl, hne, htyped⟩ := h
  have hstar : Text.isBlank '*' = false := by decide
  have htrim : Text.trim (before ++ '*' :: typed.toList ++ '*' :: argument.toList) =
      '*' :: typed.toList ++ '*' :: Text.trimEnd argument.toList := by
    rw [List.append_assoc, Text.trim_append_left _ hbefore, Text.trim, List.cons_append,
      Text.trimStart_cons_of_not_blank _ hstar, ← List.cons_append,
      Text.trimEnd_append_cons _ _ hstar]
  rw [htrim]
  refine splitClause?_eq_some_iff.mpr ⟨rfl, by simpa using hne, fun c hc => ?_⟩
  obtain ⟨hasterisk, hblank⟩ := htyped c hc
  simp [isKeywordChar, hasterisk, hblank]

theorem allBlank_eq_false (h : HasForm piece typed argument) : Text.allBlank piece = false := by
  obtain ⟨before, -, rfl, -, -⟩ := h
  exact Text.allBlank_eq_false_of_mem (c := '*') (by simp) (by decide)

-- A piece of that form is read as its argument is read for its keyword.
theorem readPiece_trim (h : HasForm piece typed argument) (lexicon : Lexicon) :
    readPiece lexicon (Text.trim piece) =
      (Clause.read lexicon typed argument).map Clause.tidy := by
  rw [readPiece_of_splitClause? lexicon h.splitClause?_trim, String.ofList_toList,
    Text.trim_trimEnd]
  exact Clause.read_trimmed lexicon typed argument

end HasForm

theorem exists_hasForm_of_splitClause? {piece keyword argument : List Char}
    (h : splitClause? (Text.trim piece) = some (keyword, argument)) :
    ∃ typed argument, HasForm piece typed argument := by
  obtain ⟨htrim, hne, hkeyword⟩ := splitClause?_eq_some_iff.mp h
  obtain ⟨before, after, hpiece, hbefore, -⟩ := Text.exists_eq_append_trim piece
  refine ⟨String.ofList keyword, String.ofList (argument ++ after), before, hbefore, ?_, ?_, ?_⟩
  · rw [hpiece, htrim]
    simp
  · simpa using hne
  · intro c hc
    simpa [isKeywordChar] using hkeyword c (by simpa using hc)

theorem readPiece_of_allBlank (lexicon : Lexicon) {piece : List Char}
    (h : Text.allBlank piece = true) :
    readPiece lexicon (Text.trim piece) = refuse emptyClause := by
  rw [readPiece, Text.trim_eq_nil_iff.mpr h]
  rfl

theorem readPiece_of_not_hasForm (lexicon : Lexicon) {piece : List Char}
    (hblank : Text.allBlank piece = false)
    (h : ∀ typed argument, ¬ HasForm piece typed argument) :
    readPiece lexicon (Text.trim piece) = refuse (notClause (Text.trim piece)) := by
  have hne : (Text.trim piece).isEmpty = false := by
    simp [List.isEmpty_eq_false_iff, Text.trim_eq_nil_iff, hblank]
  have hsplit : splitClause? (Text.trim piece) = none := by
    cases hsplit : splitClause? (Text.trim piece) with
    | none => rfl
    | some parts =>
      obtain ⟨typed, argument, hform⟩ := exists_hasForm_of_splitClause? hsplit
      exact absurd hform (h typed argument)
  simp only [readPiece, hne, readClause, hsplit]
  rfl

-- The piece has the form of a clause, and its argument is one of its keyword's.
def IsClause (lexicon : Lexicon) (piece : List Char) : Prop :=
  ∃ typed argument clause, HasForm piece typed argument ∧
    Clause.read lexicon typed argument = .ok clause

theorem isClause_iff {lexicon : Lexicon} {piece : List Char} :
    IsClause lexicon piece ↔ ∃ clause, readPiece lexicon (Text.trim piece) = .ok clause := by
  constructor
  · rintro ⟨typed, argument, clause, hform, hread⟩
    exact ⟨clause.tidy, by rw [hform.readPiece_trim, hread]; rfl⟩
  · rintro ⟨clause, hpiece⟩
    obtain ⟨keyword, argument, hsplit, -⟩ := exists_splitClause?_of_readPiece hpiece
    obtain ⟨typed, argument, hform⟩ := exists_hasForm_of_splitClause? hsplit
    rw [hform.readPiece_trim] at hpiece
    obtain ⟨found, hread, -⟩ := Outcome.map_eq_ok_iff.mp hpiece
    exact ⟨typed, argument, found, hform, hread⟩

-- The first piece that is no clause decides the failure.
theorem exists_piece_of_readPieces {lexicon : Lexicon} {position : Nat} {ps : List (List Char)}
    {failure : Failure} (h : readPieces lexicon position ps = .error failure) :
    ∃ front piece back found, ps = front ++ piece :: back ∧
      (∀ earlier ∈ front, ∃ clause, readPiece lexicon earlier = .ok clause) ∧
      readPiece lexicon piece = .error found ∧
      failure = found.atClause ((position + front.length : Nat) : Int) := by
  induction ps generalizing position with
  | nil => cases h
  | cons p ps ih =>
    unfold readPieces at h
    cases hp : readPiece lexicon p with
    | error found =>
      simp only [hp] at h
      exact ⟨[], p, ps, found, rfl, by simp, hp, (Except.error.inj h).symm⟩
    | ok clause =>
      simp only [hp] at h
      obtain ⟨front, piece, back, found, rfl, hfront, hpiece, rfl⟩ :=
        ih (Outcome.map_eq_error_iff.mp h)
      refine ⟨p :: front, piece, back, found, rfl, ?_, hpiece, ?_⟩
      · exact List.forall_mem_cons.mpr ⟨⟨clause, hp⟩, hfront⟩
      · rw [List.length_cons, Nat.add_assoc, Nat.add_comm 1]

-- The same about a text as it was typed: its pieces are what stands between the separators, and
-- the blanks around them do not count.
theorem exists_piece_of_parse {lexicon : Lexicon} {source : String} {failure : Failure}
    (h : parse lexicon source = .error failure) :
    ∃ front piece back found,
      source.toList.splitOn Argument.clauseSeparator = front ++ piece :: back ∧
      (∀ earlier ∈ front, IsClause lexicon earlier) ∧
      readPiece lexicon (Text.trim piece) = .error found ∧
      failure = found.atClause (front.length : Int) := by
  unfold parse at h
  split at h
  · cases h
  · obtain ⟨front, piece, back, found, hcut, hfront, hpiece, rfl⟩ :=
      exists_piece_of_readPieces (Outcome.map_eq_error_iff.mp h)
    rw [pieces, Text.pieces_eq_splitOn] at hcut
    obtain ⟨before, rest, hsplit, rfl, hrest⟩ := List.map_eq_append_iff.mp hcut
    obtain ⟨typed, after, rfl, rfl, rfl⟩ := List.map_eq_cons_iff.mp hrest
    refine ⟨before, typed, after, found, hsplit, fun earlier hmem => ?_, hpiece, by simp⟩
    exact isClause_iff.mpr (hfront _ (List.mem_map_of_mem hmem))

-- The blanks at the end of a text are not read.
theorem parse_trimEnd (lexicon : Lexicon) (source : String) :
    parse lexicon (String.ofList (Text.trimEnd source.toList)) = parse lexicon source := by
  obtain ⟨after, hsource, hafter⟩ := Text.exists_eq_trimEnd_append source.toList
  have hpieces : pieces source.toList = pieces (Text.trimEnd source.toList) := by
    conv_lhs => rw [hsource]
    exact Text.map_trim_pieces_append_right _ (by decide) hafter
  rw [parse, String.toList_ofList, Text.allBlank_trimEnd, ← hpieces, parse]

-- A text without a separator is one piece.
theorem parse_of_not_mem (lexicon : Lexicon) {source : String}
    (hblank : Text.allBlank source.toList = false)
    (hseparator : Argument.clauseSeparator ∉ source.toList) :
    parse lexicon source =
      ((readPiece lexicon (Text.trim source.toList)).mapError (Failure.atClause 0)).map
        fun clause => ⟨[clause]⟩ := by
  rw [parse, if_neg (by simp [hblank]), pieces_eq_singleton hseparator, readPieces]
  cases readPiece lexicon (Text.trim source.toList) <;> rfl

-- The blank that is written before an argument is not part of it.
theorem parse_written_clause (lexicon : Lexicon) {typed raw : String} (hne : typed ≠ "")
    (htyped : ∀ c ∈ typed.toList, Text.isBlank c = false ∧ c ≠ '*' ∧
      c ≠ Argument.clauseSeparator)
    (hraw : Argument.clauseSeparator ∉ raw.toList) :
    parse lexicon ("*" ++ typed ++ "* " ++ raw) =
      (((Clause.read lexicon typed raw).map Clause.tidy).mapError (Failure.atClause 0)).map
        fun clause => ⟨[clause]⟩ := by
  have hform : HasForm ("*" ++ typed ++ "* " ++ raw).toList typed (" " ++ raw) := by
    refine ⟨[], rfl, by simp, hne, fun c hc => ?_⟩
    obtain ⟨hblank, hasterisk, -⟩ := htyped c hc
    exact ⟨hasterisk, hblank⟩
  have hseparator : Argument.clauseSeparator ∉ ("*" ++ typed ++ "* " ++ raw).toList := by
    have hkeyword : Argument.clauseSeparator ∉ typed.toList :=
      fun hmem => (htyped _ hmem).2.2 rfl
    simp only [String.toList_append, List.mem_append, hkeyword, hraw]
    decide
  have hspaced : Text.trimmed (" " ++ raw) = Text.trimmed raw := by
    rw [Text.trimmed, String.toList_append, Text.trim_append_left _ (by decide), Text.trimmed]
  rw [parse_of_not_mem lexicon hform.allBlank_eq_false hseparator, hform.readPiece_trim,
    ← Clause.read_trimmed, hspaced, Clause.read_trimmed]

-- A keyword between asterisks, a blank and an argument are read as the argument is read for the
-- keyword, and fail as it does: what is refused stands in the first clause.
theorem parse_of_clause (lexicon : Lexicon) (typed raw : String) (hne : typed ≠ "")
    (htyped : ∀ c ∈ typed.toList, Text.isBlank c = false ∧ c ≠ '*' ∧
      c ≠ Argument.clauseSeparator)
    (hraw : Argument.clauseSeparator ∉ raw.toList) :
    (∀ prompt, parse lexicon ("*" ++ typed ++ "* " ++ raw) = .ok prompt ↔
      ∃ clause, Clause.read lexicon typed raw = .ok clause ∧
        prompt = ⟨[{ clause with raw := Text.trimmed clause.raw }]⟩) ∧
    (∀ refusal, parse lexicon ("*" ++ typed ++ "* " ++ raw) = refuse refusal ↔
      ∃ found, Clause.read lexicon typed raw = refuse found ∧
        refusal = { found with position := some 0 }) ∧
    ∀ fault, parse lexicon ("*" ++ typed ++ "* " ++ raw) = breakOff fault ↔
      Clause.read lexicon typed raw = breakOff fault := by
  rw [parse_written_clause lexicon hne htyped hraw]
  cases Clause.read lexicon typed raw with
  | ok clause => simp [Except.map, Except.mapError, refuse, breakOff, Clause.tidy, eq_comm]
  | error failure =>
    cases failure with
    | refused found =>
      simp [Except.map, Except.mapError, refuse, breakOff, Failure.atClause, Refusal.atClause,
        eq_comm]
    | broken fault => simp [Except.map, Except.mapError, refuse, breakOff, Failure.atClause]

-- An argument with an asterisk in it and blanks of several kinds around it, and one that repeats a
-- key.
theorem parse_of_clause_animate :
    ∃ clause,
      Clause.read .standard "IN" "\t a * b\n" = .ok clause ∧
      parse .standard ("*" ++ "IN" ++ "* " ++ "\t a * b\n") =
        .ok ⟨[{ clause with raw := "a * b" }]⟩ ∧
      Clause.read .standard "animate" "end(1);\u3000End (2)" =
        refuse (.duplicateKey "animate" "end") ∧
      parse .standard ("*" ++ "animate" ++ "* " ++ "end(1);\u3000End (2)") =
        refuse ((Refusal.duplicateKey "animate" "end").atClause 0) := by
  refine ⟨_, rfl, ?_, by decide, ?_⟩
  · exact ((parse_of_clause .standard "IN" "\t a * b\n" (by decide) (by simp; decide)
      (by decide)).1 _).mpr ⟨_, rfl, rfl⟩
  · exact ((parse_of_clause .standard "animate" "end(1);\u3000End (2)" (by decide)
      (by simp; decide) (by decide)).2.1 _).mpr ⟨_, by decide, rfl⟩

end ClausePrompt.Prompt
