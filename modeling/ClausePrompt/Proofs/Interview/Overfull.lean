import ClausePrompt.Proofs.Interview.Move

namespace ClausePrompt

open Outcome (FailsWith)

-- A refusal for the length that the prompt would have.
def Failure.Overfull (failure : Failure) : Prop :=
  ∃ keyword limit, failure = .refused (.malformed keyword (Prompt.wouldExceed limit))

-- Only malformed arguments are refused in these words.
theorem Failure.failsWith_refuse_not_overfull {α : Type} {refusal : Refusal}
    (h : refusal.kind ≠ .malformedArgument) :
    FailsWith (¬ ·.Overfull) (refuse refusal : Outcome α) := by
  rintro _ hfailure ⟨keyword, limit, rfl⟩
  obtain rfl := Failure.refused.inj (Except.error.inj hfailure)
  exact h rfl

private theorem head?_append_of_eq {a : String} {c : Char} (b : String)
    (h : a.toList.head? = some c) : (a ++ b).toList.head? = some c := by
  rw [String.toList_append, List.head?_append, h]
  rfl

namespace Malformation

theorem exists_initial_message (malformation : Malformation) :
    ∃ c, malformation.message.toList.head? = some c ∧ c ≠ 'p' := by
  -- The cases are grouped by the number of parts that follow the first one.
  cases malformation with
  | empty | clauseSeparator | emptySegment | mixedVariants | severalValues | mismatchedDelimiters
  | emptyName | missingTargetOpener | missingTargetCloser | notPositional | emptyTarget =>
    exact ⟨_, rfl, by decide⟩
  | tooManyParts => exact ⟨_, head?_append_of_eq _ rfl, by decide⟩
  | notNumeral | notHandle | notCall | emptyValue | joinedVariants | emptyVariant | missingOpener
  | missingCloser | unknownDirection =>
    exact ⟨_, head?_append_of_eq _ (head?_append_of_eq _ rfl), by decide⟩
  | nesting flaw =>
    cases flaw with
    | unexpected =>
      exact ⟨_, head?_append_of_eq _ (head?_append_of_eq _ (head?_append_of_eq _
        (head?_append_of_eq _ rfl))), by decide⟩
    | unclosed => exact ⟨_, head?_append_of_eq _ (head?_append_of_eq _ rfl), by decide⟩

-- No defect of an argument is described in the words for a prompt that is too long. The first
-- letter tells them apart.
theorem message_ne_wouldExceed (malformation : Malformation) (limit : Int) :
    malformation.message ≠ Prompt.wouldExceed limit := by
  intro h
  have hp : (Prompt.wouldExceed limit).toList.head? = some 'p' :=
    head?_append_of_eq _ (head?_append_of_eq _ rfl)
  obtain ⟨c, hc, hne⟩ := malformation.exists_initial_message
  rw [h, hp] at hc
  exact hne (Option.some.inj hc).symm

end Malformation

theorem Clause.not_overfull_failure (keyword : Keyword) (defect : Defect) :
    ¬ (failure keyword defect).Overfull := by
  rintro ⟨found, limit, heq⟩
  cases defect with
  | malformed malformation =>
    have hreason := congrArg Refusal.reason (Failure.refused.inj heq)
    exact malformation.message_ne_wouldExceed limit hreason
  | duplicateKey key => cases congrArg Refusal.kind (Failure.refused.inj heq)
  | tooManyDigits digits => cases heq

theorem Clause.failsWith_read_not_overfull (lexicon : Lexicon) (typed raw : String) :
    FailsWith (¬ ·.Overfull) (read lexicon typed raw) := by
  unfold read
  cases hresolve : lexicon.resolve typed with
  | ok keyword =>
    simp only [readFor]
    cases Argument.read keyword.shape keyword.rules raw.toList with
    | ok argument => exact Outcome.failsWith_ok _
    | error defect => exact Outcome.failsWith_error.mpr (not_overfull_failure keyword defect)
  | error refusal =>
    apply Failure.failsWith_refuse_not_overfull
    unfold Lexicon.resolve at hresolve
    split at hresolve
    · cases hresolve
    · obtain rfl := Except.error.inj hresolve
      simp [Refusal.unknownKeyword]

namespace Interview

theorem failsWith_respond_not_overfull (terms : Terms) (question : Question) (answer : String) :
    FailsWith (¬ ·.Overfull) (respond terms question answer) := by
  unfold respond
  dsimp only
  split
  · split
    · apply Failure.failsWith_refuse_not_overfull
      simp [Refusal.answerRequired]
    · exact Outcome.failsWith_ok _
  · exact (Clause.failsWith_read_not_overfull _ _ _).map _

theorem failsWith_toPrompt_not_overfull (terms : Terms) (questions : List Question)
    (answers : OrderedMap String String) :
    FailsWith (¬ ·.Overfull) (toPrompt terms questions answers) := by
  apply Outcome.failsWith_foldlM
  intro prompt question
  unfold placeAnswer
  split
  · exact Outcome.failsWith_ok _
  · split
    · exact Outcome.failsWith_ok _
    · exact (Clause.failsWith_read_not_overfull _ _ _).map _

-- A question that cannot be asked breaks the interview off, which is no refusal.
theorem failsWith_follow_not_overfull (interview : Interview) (response : Response)
    (hmore : interview.isLast = false) :
    FailsWith (¬ ·.Overfull) (interview.follow response hmore) := by
  unfold follow
  apply FailsWith.map
  unfold Message.asking
  split
  · rintro _ hfailure ⟨keyword, limit, rfl⟩
    cases hfailure
  · exact Outcome.failsWith_ok _

theorem exceeds_of_finish {terms : Terms} {interview : Interview} {response : Response}
    {failure : Failure} (h : interview.finish terms response = .error failure)
    (hoverfull : failure.Overfull) :
    ∃ prompt, toPrompt terms interview.questions (interview.record response) = .ok prompt ∧
      terms.limit < prompt.length := by
  unfold finish at h
  dsimp only at h
  split at h
  · rename_i found hprompt
    obtain rfl := Except.error.inj h
    exact absurd hoverfull (failsWith_toPrompt_not_overfull _ _ _ _ hprompt)
  · rename_i prompt hprompt
    split at h
    · rename_i hlong
      exact ⟨prompt, hprompt, hlong⟩
    · cases h

-- An answer is refused for the length of the prompt only if nothing else is wrong with it.
theorem exceeds_of_advance {terms : Terms} {interview : Interview} {answer : String}
    {failure : Failure} (h : interview.advance terms answer = .error failure)
    (hoverfull : failure.Overfull) :
    ∃ prompt, toPrompt terms interview.questions (interview.record (.ofAnswer answer)) =
      .ok prompt ∧ terms.limit < prompt.length := by
  unfold advance at h
  split at h
  · have hkind : finished.kind ≠ .malformedArgument := by decide
    exact absurd hoverfull (Failure.failsWith_refuse_not_overfull hkind _ h)
  · split at h
    · rename_i found hrespond
      obtain rfl := Except.error.inj h
      exact absurd hoverfull (failsWith_respond_not_overfull _ _ _ _ hrespond)
    · rename_i response hrespond
      obtain ⟨-, rfl⟩ := respond_eq_ok_iff.mp hrespond
      split at h
      · exact absurd hoverfull (failsWith_follow_not_overfull _ _ _ _ h)
      · exact exceeds_of_finish h hoverfull

end Interview

end ClausePrompt
