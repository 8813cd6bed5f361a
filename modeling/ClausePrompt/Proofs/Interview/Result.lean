import ClausePrompt.Proofs.Interview.Turn
import ClausePrompt.Proofs.Prompt.Place

namespace ClausePrompt.Interview

theorem accepted_of_placeAnswer {terms : Terms} {answers : OrderedMap String String}
    {prompt next : Prompt} {question : Question} (h : prompt.Accepted terms.lexicon)
    (hplace : placeAnswer terms answers prompt question = .ok next) :
    next.Accepted terms.lexicon := by
  unfold placeAnswer at hplace
  split at hplace
  · cases hplace
    exact h
  · split at hplace
    · cases hplace
      exact h
    · obtain ⟨clause, hread, rfl⟩ := Outcome.map_eq_ok_iff.mp hplace
      exact h.place ⟨_, _, hread⟩

-- The induction is on the questions that are left, from any prompt that is there already.
theorem accepted_of_foldlM_placeAnswer {terms : Terms} {answers : OrderedMap String String}
    {questions : List Question} {prompt next : Prompt} (h : prompt.Accepted terms.lexicon)
    (hfold : questions.foldlM (placeAnswer terms answers) prompt = .ok next) :
    next.Accepted terms.lexicon := by
  induction questions generalizing prompt with
  | nil =>
    obtain rfl : prompt = next := Except.ok.inj hfold
    exact h
  | cons question questions ih =>
    rw [List.foldlM_cons] at hfold
    obtain ⟨placed, hplaced, hrest⟩ := Outcome.bind_eq_ok_iff.mp hfold
    exact ih (accepted_of_placeAnswer h hplaced) hrest

theorem accepted_of_toPrompt {terms : Terms} {questions : List Question}
    {answers : OrderedMap String String} {prompt : Prompt}
    (h : toPrompt terms questions answers = .ok prompt) : prompt.Accepted terms.lexicon :=
  accepted_of_foldlM_placeAnswer (Prompt.accepted_empty terms.lexicon) h

-- The result is the text of clauses that were read, and it fits the limit.
theorem result_of_advance {terms : Terms} {interview next : Interview} {answer result : String}
    (h : interview.advance terms answer = .ok next) (hresult : next.result = some result) :
    ∃ prompt : Prompt, prompt.Accepted terms.lexicon ∧ prompt.length ≤ terms.limit ∧
      prompt.text = result := by
  obtain ⟨hcompleted, response, -, ⟨hmore, hfollow⟩ | ⟨-, hfinish⟩⟩ := advance_eq_ok_iff.mp h
  · rw [result_of_follow hfollow] at hresult
    simp [completed, hresult] at hcompleted
  · obtain ⟨prompt, hprompt, hlimit, rfl⟩ := finish_eq_ok_iff.mp hfinish
    exact ⟨prompt, accepted_of_toPrompt hprompt, hlimit, Option.some.inj hresult⟩

end ClausePrompt.Interview
