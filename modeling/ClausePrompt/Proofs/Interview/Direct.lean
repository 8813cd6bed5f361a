import ClausePrompt.Lexicon.Standard
import ClausePrompt.Proofs.Interview.Completion
import ClausePrompt.Proofs.Interview.Overfull
import ClausePrompt.Proofs.Sheet.Entries

namespace ClausePrompt.Interview

-- What is kept, as it would be entered directly: the keyword and the argument of every question
-- that has an answer and was not skipped.
def entryFor? (terms : Terms) (answers : OrderedMap String String) (question : Question) :
    Option (String × String) :=
  ((answers.get? question.id).filter (· ≠ Response.skippedWord)).map fun answer =>
    (question.keyword, normalize terms question answer)

def entries (terms : Terms) (questions : List Question) (answers : OrderedMap String String) :
    List (String × String) :=
  questions.filterMap (entryFor? terms answers)

theorem keywords_entries_sublist (terms : Terms) (questions : List Question)
    (answers : OrderedMap String String) :
    ((entries terms questions answers).map (·.1)).Sublist (questions.map (·.keyword)) := by
  induction questions with
  | nil => exact .slnil
  | cons question questions ih =>
    rw [entries, List.filterMap_cons, List.map_cons]
    cases hentry : entryFor? terms answers question with
    | none => exact ih.cons _
    | some entry =>
      obtain ⟨answer, -, rfl⟩ := Option.map_eq_some_iff.mp hentry
      exact ih.cons_cons _

theorem nodup_ids_entries {terms : Terms} {questions : List Question}
    (h : terms.lexicon.Apart (questions.map (·.keyword))) (answers : OrderedMap String String) :
    (({} : Prompt).keywords ++
      terms.lexicon.ids ((entries terms questions answers).map (·.1))).Nodup :=
  (h.sublist (keywords_entries_sublist terms questions answers)).nodup_ids

theorem placeAnswer_eq {terms : Terms} {answers : OrderedMap String String} {question : Question}
    (hne : answers.get? question.id ≠ some "") (prompt : Prompt) :
    placeAnswer terms answers prompt question =
      match entryFor? terms answers question with
      | none => .ok prompt
      | some entry => prompt.enter terms.lexicon entry := by
  unfold placeAnswer entryFor?
  cases hanswer : answers.get? question.id with
  | none => rfl
  | some answer =>
    have hblank : answer ≠ "" := fun heq => hne (by rw [hanswer, heq])
    by_cases hskipped : answer = Response.skippedWord
    · simp [hskipped, Option.filter_some]
    · simp [hskipped, hblank, Option.filter_some, Prompt.enter, readAnswer]

-- The prompt that answers make is the prompt that their entries make, if no answer is blank.
theorem toPrompt_eq_enter {terms : Terms} {questions : List Question}
    {answers : OrderedMap String String}
    (hne : ∀ question ∈ questions, answers.get? question.id ≠ some "") :
    toPrompt terms questions answers =
      (entries terms questions answers).foldlM (Prompt.enter terms.lexicon) {} := by
  unfold toPrompt entries
  generalize ({} : Prompt) = prompt
  induction questions generalizing prompt with
  | nil => rfl
  | cons question questions ih =>
    obtain ⟨hquestion, hquestions⟩ := List.forall_mem_cons.mp hne
    rw [List.foldlM_cons, List.filterMap_cons, placeAnswer_eq hquestion]
    cases entryFor? terms answers question with
    | none => exact ih hquestions prompt
    | some entry =>
      rw [List.foldlM_cons]
      exact congrArg (prompt.enter terms.lexicon entry >>= ·) (funext (ih hquestions))

-- No answer is kept as a blank.
theorem WellKept.record_ne_blank {interview : Interview} (h : interview.WellKept)
    (terms : Terms) (answer id : String) :
    (interview.record (.ofAnswer answer)).get? id ≠ some "" := by
  intro hblank
  have hsaid : (Turn.advance terms answer).response? = some (.ofAnswer answer) := rfl
  exact (h.trimmed_record hsaid _ (OrderedMap.get?_eq_some_iff.mp hblank)).1 rfl

-- Answers to questions of different keywords can as well be entered directly, one after another:
-- each one is taken if the interview comes to a result, and the text in the end is that result. If
-- the last answer would make the prompt too long, one of the entries does.
theorem direct_entry_of_play (terms : Terms) (questions : List Question) (first : Interview)
    (turns : List Turn) (interview : Interview) (answer : String)
    (hkeywords : terms.lexicon.Apart (questions.map (·.keyword)))
    (hstart : start questions = .ok first)
    (hagain : ∀ again, .restart again ∈ turns → again = questions)
    (hplay : first.play turns = interview) :
    (∀ next result, interview.advance terms answer = .ok next → next.result = some result →
      (∀ outcome ∈ Sheet.outcomes { lexicon := terms.lexicon, limit := terms.limit }
          (entries terms questions next.answers), ∃ prompt, outcome = .ok prompt) ∧
      (Sheet.enter { lexicon := terms.lexicon, limit := terms.limit }
        (entries terms questions next.answers)).prompt.text = result) ∧
    (0 ≤ terms.limit →
      interview.advance terms answer =
        refuse (.malformed (some interview.current.keyword) (Prompt.wouldExceed terms.limit)) →
      ∃ keyword, refuse (.malformed (some keyword) (Prompt.wouldExceed terms.limit)) ∈
        Sheet.outcomes { lexicon := terms.lexicon, limit := terms.limit }
          (entries terms questions (interview.record (.ofAnswer answer)))) := by
  have hkept : interview.WellKept := hplay ▸ (WellKept.start hstart).play turns
  have hquestions : interview.questions = questions :=
    hplay ▸ questions_play (questions_of_start hstart) hagain
  have hblank (question : Question) :
      (interview.record (.ofAnswer answer)).get? question.id ≠ some "" :=
    hkept.record_ne_blank terms answer question.id
  constructor
  · intro next result hadvance hresult
    obtain ⟨-, -, hanswers, prompt, hprompt, rfl, hfits⟩ := prompt_of_advance hadvance hresult
    rw [hquestions, hanswers, toPrompt_eq_enter fun question _ => hblank question] at hprompt
    rw [hanswers]
    obtain ⟨houtcomes, henter⟩ :=
      Sheet.enter_of_fits { lexicon := terms.lexicon, limit := terms.limit }
        (nodup_ids_entries hkeywords _) hprompt hfits
    exact ⟨houtcomes, by rw [henter]⟩
  · intro hlimit hadvance
    obtain ⟨prompt, hprompt, hlong⟩ := exceeds_of_advance hadvance ⟨_, _, rfl⟩
    rw [hquestions, toPrompt_eq_enter fun question _ => hblank question] at hprompt
    exact Sheet.exceeds_of_long { lexicon := terms.lexicon, limit := terms.limit }
      hprompt hlimit hlong

-- The first and the last question are answered, the first one after it was skipped. One character
-- decides whether the answers fit.
theorem direct_entry_of_play_in_background :
    ∃ first interview next,
      start Question.standard = .ok first ∧
      first.play [.skip, .back, .advance { lexicon := .standard } " Swift ", .skip, .skip, .skip] =
        interview ∧
      interview.advance { lexicon := .standard, limit := 28 } "FF" = .ok next ∧
      next.result = some "*in* swift | *background* FF" ∧
      (Sheet.enter { lexicon := .standard, limit := 28 }
        [("in", "swift"), ("background", "FF")]).prompt.text = "*in* swift | *background* FF" ∧
      interview.advance { lexicon := .standard, limit := 27 } "FF" =
        refuse (.malformed (some "background") (Prompt.wouldExceed 27)) ∧
      ∃ keyword, refuse (.malformed (some keyword) (Prompt.wouldExceed 27)) ∈
        Sheet.outcomes { lexicon := .standard, limit := 27 }
          [("in", "swift"), ("background", "FF")] := by
  have hdirect (limit : Int) := direct_entry_of_play { lexicon := .standard, limit }
    Question.standard _
    [.skip, .back, .advance { lexicon := .standard } " Swift ", .skip, .skip, .skip] _ "FF"
    (show Lexicon.standard.Apart _ by decide) rfl (by simp) rfl
  refine ⟨_, _, _, rfl, rfl, rfl, by decide, ?_, by decide, ?_⟩
  · exact ((hdirect 28).1 _ _ rfl rfl).2
  · exact (hdirect 27).2 (by decide) rfl

end ClausePrompt.Interview
