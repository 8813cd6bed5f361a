import ClausePrompt.Interview
import ClausePrompt.Proofs.Outcome

namespace ClausePrompt.Interview

-- A turn of the pure interview: one of the three moves, or starting over with some questions.
inductive Turn where
  | advance (terms : Terms) (answer : String)
  | skip
  | back
  | restart (questions : List Question)

def turn (interview : Interview) : Turn → Outcome Interview
  | .advance terms answer => interview.advance terms answer
  | .skip => interview.skip
  | .back => interview.back
  | .restart questions => start questions

-- The interview after an attempt. One that fails leaves it as it was.
def after (interview : Interview) : Outcome Interview → Interview
  | .ok next => next
  | .error _ => interview

def play (interview : Interview) (turns : List Turn) : Interview :=
  turns.foldl (fun interview turn => interview.after (interview.turn turn)) interview

@[simp] theorem play_nil (interview : Interview) : interview.play [] = interview := rfl

@[simp] theorem play_cons (interview : Interview) (turn : Turn) (turns : List Turn) :
    interview.play (turn :: turns) = (interview.after (interview.turn turn)).play turns := rfl

theorem play_append (interview : Interview) (before after : List Turn) :
    interview.play (before ++ after) = (interview.play before).play after := by
  simp [play]

theorem completed_of_start {questions : List Question} {first : Interview}
    (h : start questions = .ok first) : first.completed = false := by
  cases questions with
  | nil => cases h
  | cons question rest =>
    obtain ⟨message, -, rfl⟩ := Outcome.map_eq_ok_iff.mp h
    rfl

theorem result_of_follow {interview next : Interview} {response : Response}
    {hmore : interview.isLast = false} (h : interview.follow response hmore = .ok next) :
    next.result = interview.result := by
  obtain ⟨message, -, rfl⟩ := Outcome.map_eq_ok_iff.mp h
  rfl

theorem finish_eq_ok_iff {terms : Terms} {interview next : Interview} {response : Response} :
    interview.finish terms response = .ok next ↔
      ∃ prompt, toPrompt terms interview.questions (interview.record response) = .ok prompt ∧
        prompt.length ≤ terms.limit ∧
        next =
          { interview with
            answers := interview.record response
            transcript := interview.transcript ++ [response.message, .presenting prompt.text]
            result := some prompt.text } := by
  unfold finish
  cases htoPrompt : toPrompt terms interview.questions (interview.record response) with
  | error failure => simp [htoPrompt]
  | ok prompt =>
    by_cases hlimit : terms.limit < prompt.length
    · have hexceeds : ¬ (prompt.length : Int) ≤ terms.limit := by omega
      simp [htoPrompt, hlimit, hexceeds, refuse]
    · have hfits : (prompt.length : Int) ≤ terms.limit := by omega
      simp [htoPrompt, hlimit, hfits, eq_comm]

-- An answer that is taken either leads to the next question or finishes the interview.
theorem advance_eq_ok_iff {terms : Terms} {interview next : Interview} {answer : String} :
    interview.advance terms answer = .ok next ↔
      interview.completed = false ∧
        ∃ response, respond terms interview.current answer = .ok response ∧
          ((∃ h, interview.follow response h = .ok next) ∨
            interview.isLast = true ∧ interview.finish terms response = .ok next) := by
  unfold advance
  cases hcompleted : interview.completed with
  | true => simp [refuse]
  | false =>
    cases hrespond : respond terms interview.current answer with
    | error failure => simp
    | ok response => by_cases hmore : interview.isLast = false <;> simp [hmore]

-- A finished interview takes no move.
theorem completed_of_advance {terms : Terms} {interview next : Interview} {answer : String}
    (h : interview.advance terms answer = .ok next) : interview.completed = false :=
  (advance_eq_ok_iff.mp h).1

theorem advance_of_completed {interview : Interview} (h : interview.completed = true)
    (terms : Terms) (answer : String) : interview.advance terms answer = refuse finished := by
  rw [advance, if_pos h]

-- What a move comes to that only an open interview takes, and that leaves it open.
structure Passing (interview : Interview) (outcome : Outcome Interview) : Prop where
  completed : ∀ {next}, outcome = .ok next →
    interview.completed = false ∧ next.completed = false
  refused : interview.completed = true → outcome = refuse finished

theorem Passing.completed_after {interview : Interview} {outcome : Outcome Interview}
    (h : interview.Passing outcome) :
    (interview.after outcome).completed = interview.completed := by
  cases outcome with
  | error failure => rfl
  | ok next =>
    obtain ⟨hopen, hnext⟩ := h.completed rfl
    exact hnext.trans hopen.symm

-- Only the last answer finishes an interview.
theorem passing_skip (interview : Interview) : interview.Passing interview.skip where
  completed {next} h := by
    unfold skip at h
    split at h
    · cases h
    · split at h
      · cases h
      · have hresult := result_of_follow h
        simp_all [Interview.completed]
  refused h := by rw [skip, if_pos h]

theorem passing_back (interview : Interview) : interview.Passing interview.back where
  completed {next} h := by
    unfold back at h
    split at h
    · cases h
    · split at h
      · cases h
      · obtain ⟨message, -, rfl⟩ := Outcome.map_eq_ok_iff.mp h
        simp_all [Interview.completed]
  refused h := by rw [back, if_pos h]

end ClausePrompt.Interview
