import ClausePrompt.Proofs.Prompt.RoundTrip

namespace ClausePrompt

namespace Failure

-- The failure as it is reported when some clauses come before the text it was found in.
def past (clauses : Nat) : Failure → Failure
  | refused refusal =>
    refused { refusal with position := refusal.position.map (· + (clauses : Int)) }
  | broken fault => broken fault

@[simp] theorem past_atClause (clauses : Nat) (position : Int) (failure : Failure) :
    (failure.atClause position).past clauses = failure.atClause (position + clauses) := by
  cases failure <;> rfl

end Failure

namespace Prompt

-- Counting from a later position changes nothing but the position of the failure.
theorem readPieces_add (lexicon : Lexicon) (position clauses : Nat) (ps : List (List Char)) :
    readPieces lexicon (position + clauses) ps =
      (readPieces lexicon position ps).mapError (Failure.past clauses) := by
  induction ps generalizing position with
  | nil => rfl
  | cons p ps ih =>
    simp only [readPieces]
    cases readPiece lexicon p with
    | error failure => simp [Except.mapError]
    | ok clause =>
      have hnext : position + clauses + 1 = position + 1 + clauses := by omega
      dsimp only
      rw [hnext, ih]
      cases readPieces lexicon (position + 1) ps <;> rfl

-- The pieces of the second half are read only if all those of the first half are clauses.
theorem readPieces_append (lexicon : Lexicon) (position : Nat) (ps qs : List (List Char)) :
    readPieces lexicon position (ps ++ qs) =
      readPieces lexicon position ps >>= fun clauses =>
        (readPieces lexicon (position + ps.length) qs).map (clauses ++ ·) := by
  induction ps generalizing position with
  | nil =>
    simp only [List.nil_append, List.length_nil, Nat.add_zero, readPieces]
    cases readPieces lexicon position qs <;> rfl
  | cons p ps ih =>
    simp only [List.cons_append, readPieces, List.length_cons]
    cases readPiece lexicon p with
    | error failure => rfl
    | ok clause =>
      have hnext : position + 1 + ps.length = position + (ps.length + 1) := by omega
      dsimp only
      rw [ih, hnext]
      cases readPieces lexicon (position + 1) ps with
      | error failure => rfl
      | ok clauses => cases readPieces lexicon (position + (ps.length + 1)) qs <;> rfl

theorem parse_of_not_blank {lexicon : Lexicon} {source : String}
    (h : Text.allBlank source.toList = false) :
    parse lexicon source = (readPieces lexicon 0 (pieces source.toList)).map Prompt.mk := by
  simp [parse, h]

-- A text that is not blank is not the empty prompt.
theorem clauses_ne_nil_of_parse {lexicon : Lexicon} {source : String} {prompt : Prompt}
    (hblank : Text.allBlank source.toList = false) (h : parse lexicon source = .ok prompt) :
    prompt.clauses ≠ [] := by
  rw [parse_of_not_blank hblank] at h
  obtain ⟨clauses, hread, rfl⟩ := Outcome.map_eq_ok_iff.mp h
  have hpieces : pieces source.toList ≠ [] := by
    simpa [pieces] using Text.pieces_ne_nil Argument.clauseSeparator source.toList
  rw [← List.length_pos_iff] at hpieces ⊢
  rwa [length_of_readPieces hread]

-- A text is read like its two sides, one after the other.
theorem parse_append_separator {lexicon : Lexicon} {a b w v : String}
    (ha : Text.allBlank a.toList = false) (hb : Text.allBlank b.toList = false)
    (hw : Text.allBlank w.toList = true) (hv : Text.allBlank v.toList = true) :
    parse lexicon (a ++ w ++ "|" ++ v ++ b) =
      parse lexicon a >>= fun p =>
        ((parse lexicon b).mapError (Failure.past p.clauses.length)).map fun q =>
          ⟨p.clauses ++ q.clauses⟩ := by
  have hchars : (a ++ w ++ "|" ++ v ++ b).toList =
      a.toList ++ w.toList ++ Argument.clauseSeparator :: (v.toList ++ b.toList) := by
    simp [Argument.clauseSeparator]
  have hjoined : Text.allBlank (a ++ w ++ "|" ++ v ++ b).toList = false := by
    rw [hchars]
    simp [Text.allBlank, Argument.clauseSeparator, show Text.isBlank '|' = false by decide]
  rw [parse_of_not_blank hjoined, parse_of_not_blank ha, parse_of_not_blank hb, hchars,
    pieces_append_separator _ _ hw hv, readPieces_append]
  cases hfirst : readPieces lexicon 0 (pieces a.toList) with
  | error failure => rfl
  | ok clauses =>
    simp only [bind, Except.bind, Except.map]
    rw [← length_of_readPieces hfirst, readPieces_add]
    cases readPieces lexicon 0 (pieces b.toList) <;> rfl

-- Every refusal of a text is pinned to one of its clauses.
theorem position_of_parse {lexicon : Lexicon} {source : String} {refusal : Refusal}
    (h : parse lexicon source = .error (.refused refusal)) :
    ∃ n : Nat, refusal.position = some (n : Int) := by
  obtain ⟨front, piece, back, found, -, -, -, hfailure⟩ := exists_piece_of_parse h
  cases found with
  | refused found =>
    obtain rfl := Failure.refused.inj hfailure
    exact ⟨front.length, rfl⟩
  | broken fault => cases hfailure

-- Two texts with a separator between them are read one after the other. The first one that fails
-- decides the failure, and what is refused in the second one stands behind the clauses of the
-- first.
theorem parse_of_joined (lexicon : Lexicon) (a b w v : String)
    (ha : Text.allBlank a.toList = false) (hb : Text.allBlank b.toList = false)
    (hw : Text.allBlank w.toList = true) (hv : Text.allBlank v.toList = true) :
    (∀ p q, parse lexicon a = .ok p → parse lexicon b = .ok q →
      parse lexicon (a ++ w ++ "|" ++ v ++ b) = .ok ⟨p.clauses ++ q.clauses⟩) ∧
    (∀ failure, parse lexicon a = .error failure →
      parse lexicon (a ++ w ++ "|" ++ v ++ b) = .error failure) ∧
    (∀ p refusal, parse lexicon a = .ok p → parse lexicon b = .error (.refused refusal) →
      ∃ n : Nat, refusal.position = some (n : Int) ∧
        parse lexicon (a ++ w ++ "|" ++ v ++ b) =
          refuse (refusal.atClause (n + p.clauses.length))) ∧
    ∀ p fault, parse lexicon a = .ok p → parse lexicon b = breakOff fault →
      parse lexicon (a ++ w ++ "|" ++ v ++ b) = breakOff fault := by
  rw [parse_append_separator ha hb hw hv]
  refine ⟨fun p q hp hq => ?_, fun failure hfailure => ?_, fun p refusal hp hrefusal => ?_,
    fun p fault hp hfault => ?_⟩
  · rw [hp, hq]
    rfl
  · rw [hfailure]
    rfl
  · obtain ⟨n, hn⟩ := position_of_parse hrefusal
    refine ⟨n, hn, ?_⟩
    have hpinned : refusal.atClause n = refusal := by
      rw [Refusal.atClause, ← hn]
    rw [hp, hrefusal, ← hpinned]
    rfl
  · rw [hp, hfault]
    rfl

-- A separator at the end of the first text, and two next to each other in the second one, each
-- leave an empty clause.
theorem parse_of_joined_in_font :
    ∃ p q,
      parse .standard "*in* swift | *IN* a*b\n" = .ok p ∧
      parse .standard "*for* web" = .ok q ∧
      parse .standard ("*in* swift | *IN* a*b\n" ++ "\u2003" ++ "|" ++ "\t" ++ "*for* web") =
        .ok ⟨p.clauses ++ q.clauses⟩ ∧
      parse .standard ("*in* swift |" ++ "" ++ "|" ++ " " ++ "*for* web") =
        refuse (emptyClause.atClause 1) ∧
      parse .standard ("*in* swift | *IN* a*b\n" ++ "" ++ "|" ++ "" ++ "*font* mono|| *in* x") =
        refuse (emptyClause.atClause 3) := by
  refine ⟨⟨[_, _]⟩, ⟨[_]⟩, rfl, rfl, ?_, ?_, ?_⟩
  · exact (parse_of_joined .standard _ _ _ _ rfl rfl rfl rfl).1 _ _ rfl rfl
  · exact (parse_of_joined .standard _ _ _ _ rfl rfl rfl rfl).2.1 _ rfl
  · obtain ⟨n, hn, hjoined⟩ := (parse_of_joined .standard "*in* swift | *IN* a*b\n"
      "*font* mono|| *in* x" "" "" rfl rfl rfl rfl).2.2.1 ⟨[_, _]⟩ (emptyClause.atClause 1) rfl rfl
    have hcount : (1 : Int) = n := by simpa [Refusal.atClause] using hn
    obtain rfl : 1 = n := by omega
    exact hjoined

end Prompt

end ClausePrompt
