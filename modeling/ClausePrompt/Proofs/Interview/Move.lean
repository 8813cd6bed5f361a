import ClausePrompt.Proofs.Clause.Accepted
import ClausePrompt.Proofs.Interview.Turn

namespace ClausePrompt

-- What an answer says: nothing if it is blank, and otherwise its text without the blanks around it.
def Response.ofAnswer (answer : String) : Response :=
  if h : Text.trimmed answer = "" then .skipped else .typed (Text.trimmed answer) h

namespace Interview

-- An answer that a question takes: an argument of its keyword, or a blank where none is needed.
def Acceptable (terms : Terms) (question : Question) (answer : String) : Prop :=
  (∃ clause, readAnswer terms question answer = .ok clause) ∨
    Text.trimmed answer = "" ∧ question.required = false

-- What a turn says to the current question. Going back and starting over say nothing.
def Turn.response? : Turn → Option Response
  | .advance _ answer => some (.ofAnswer answer)
  | .skip => some .skipped
  | .back | .restart _ => none

-- What a turn that is taken does to an interview.
inductive Turned (interview : Interview) : Turn → Interview → Prop where
  -- the response is kept and the next question is asked
  | follow {turn : Turn} {response : Response} {message : Message}
      (hopen : interview.completed = false)
      (hsaid : turn.response? = some response)
      (hagreed : ∀ terms answer, turn = .advance terms answer →
        Acceptable terms interview.current answer)
      (hlt : interview.index + 1 < interview.questions.length)
      (hasking : Message.asking interview.questions[interview.index + 1] = .ok message) :
      Turned interview turn
        { interview with
          index := interview.index + 1
          answers := interview.record response
          transcript := interview.transcript ++ [response.message, message]
          index_lt := hlt }
  -- the last response is kept and the answers become the result
  | finish {terms : Terms} {answer : String} {prompt : Prompt}
      (hopen : interview.completed = false)
      (hagreed : Acceptable terms interview.current answer)
      (hlast : interview.index + 1 = interview.questions.length)
      (hprompt : toPrompt terms interview.questions (interview.record (.ofAnswer answer)) =
        .ok prompt)
      (hfits : prompt.length ≤ terms.limit) :
      Turned interview (.advance terms answer)
        { interview with
          answers := interview.record (.ofAnswer answer)
          transcript := interview.transcript ++
            [(Response.ofAnswer answer).message, .presenting prompt.text]
          result := some prompt.text }
  -- the previous question is asked again
  | back {message : Message}
      (hopen : interview.completed = false)
      (hpos : 0 < interview.index)
      (hlt : interview.index - 1 < interview.questions.length)
      (hasking : Message.asking interview.questions[interview.index - 1] = .ok message) :
      Turned interview .back
        { interview with
          index := interview.index - 1
          transcript := interview.transcript ++ [message]
          index_lt := hlt }
  | restart {questions : List Question} {first : Interview} (hstart : start questions = .ok first) :
      Turned interview (.restart questions) first

theorem normalize_trimmed (terms : Terms) (question : Question) (answer : String) :
    normalize terms question (Text.trimmed answer) = normalize terms question answer := by
  simp only [normalize, Text.toList_trimmed, Text.trim_trim]

-- No keyword takes a blank argument.
theorem trimmed_ne_of_readAnswer {terms : Terms} {question : Question} {answer : String}
    {clause : Clause} (h : readAnswer terms question answer = .ok clause) :
    Text.trimmed answer ≠ "" := by
  intro hblank
  have htrim : Text.trim answer.toList = [] := by
    rw [← Text.toList_trimmed, hblank]
    rfl
  obtain ⟨-, hread⟩ := Clause.read_eq_ok_iff.mp h
  obtain ⟨-, -, hargument⟩ := Clause.readFor_eq_ok_iff.mp hread
  have hne := (Argument.read_eq_ok_iff.mp hargument).1
  apply hne
  rw [normalize, String.toList_ofList, htrim]
  split <;> rfl

-- A response is taken exactly if the answer is acceptable, and says what the answer says.
theorem respond_eq_ok_iff {terms : Terms} {question : Question} {answer : String}
    {response : Response} :
    respond terms question answer = .ok response ↔
      Acceptable terms question answer ∧ response = .ofAnswer answer := by
  unfold respond Response.ofAnswer
  dsimp only
  by_cases hblank : Text.trimmed answer = ""
  · have hunread : ¬ ∃ clause, readAnswer terms question answer = .ok clause :=
      fun ⟨clause, hread⟩ => trimmed_ne_of_readAnswer hread hblank
    rw [dif_pos hblank, dif_pos hblank, Acceptable, or_iff_right hunread, and_iff_right hblank]
    cases question.required with
    | true => simp [refuse]
    | false => simp [eq_comm]
  · have hsame : readAnswer terms question (Text.trimmed answer) =
        readAnswer terms question answer := by
      simp only [readAnswer, normalize_trimmed]
    rw [dif_neg hblank, dif_neg hblank, hsame, Outcome.map_eq_ok_iff, Acceptable,
      or_iff_left (fun h => hblank h.1)]
    simp only [exists_and_right, eq_comm]

theorem follow_eq_ok {interview next : Interview} {response : Response}
    {hmore : interview.isLast = false} (h : interview.follow response hmore = .ok next) :
    ∃ (hlt : interview.index + 1 < interview.questions.length) (message : Message),
      Message.asking interview.questions[interview.index + 1] = .ok message ∧ next =
        { interview with
          index := interview.index + 1
          answers := interview.record response
          transcript := interview.transcript ++ [response.message, message]
          index_lt := hlt } := by
  obtain ⟨message, hasking, rfl⟩ := Outcome.map_eq_ok_iff.mp h
  exact ⟨index_succ_lt hmore, message, hasking, rfl⟩

theorem turned_of_advance {interview next : Interview} {terms : Terms} {answer : String}
    (h : interview.advance terms answer = .ok next) :
    Turned interview (.advance terms answer) next := by
  obtain ⟨hopen, response, hrespond, hmove⟩ := advance_eq_ok_iff.mp h
  obtain ⟨hagreed, rfl⟩ := respond_eq_ok_iff.mp hrespond
  rcases hmove with ⟨hmore, hfollow⟩ | ⟨hlast, hfinish⟩
  · obtain ⟨hlt, message, hasking, rfl⟩ := follow_eq_ok hfollow
    refine .follow hopen rfl (fun terms answer hturn => ?_) hlt hasking
    cases hturn
    exact hagreed
  · obtain ⟨prompt, hprompt, hfits, rfl⟩ := finish_eq_ok_iff.mp hfinish
    exact .finish hopen hagreed (isLast_iff.mp hlast) hprompt hfits

theorem turned_of_skip {interview next : Interview} (h : interview.skip = .ok next) :
    Turned interview .skip next := by
  have hopen := (interview.passing_skip.completed h).1
  unfold skip at h
  rw [if_neg (by simp [hopen])] at h
  split at h
  · cases h
  · obtain ⟨hlt, message, hasking, rfl⟩ := follow_eq_ok h
    exact .follow hopen rfl (fun terms answer hturn => by cases hturn) hlt hasking

theorem turned_of_back {interview next : Interview} (h : interview.back = .ok next) :
    Turned interview .back next := by
  have hopen := (interview.passing_back.completed h).1
  unfold back at h
  rw [if_neg (by simp [hopen])] at h
  split at h
  · cases h
  · rename_i hne
    obtain ⟨message, hasking, rfl⟩ := Outcome.map_eq_ok_iff.mp h
    exact .back hopen (Nat.pos_of_ne_zero hne) _ hasking

theorem turned_of_turn {interview next : Interview} {turn : Turn}
    (h : interview.turn turn = .ok next) : Turned interview turn next := by
  cases turn with
  | advance terms answer => exact turned_of_advance h
  | skip => exact turned_of_skip h
  | back => exact turned_of_back h
  | restart questions => exact .restart h

-- A property that every turn keeps holds after every run.
theorem play_induction {P : Interview → Prop} {interview : Interview} (turns : List Turn)
    (h : P interview)
    (hturn : ∀ turn ∈ turns, ∀ before after, P before → Turned before turn after → P after) :
    P (interview.play turns) := by
  induction turns generalizing interview with
  | nil => exact h
  | cons turn turns ih =>
    obtain ⟨hfirst, hrest⟩ := List.forall_mem_cons.mp hturn
    rw [play_cons]
    refine ih ?_ hrest
    cases hresult : interview.turn turn with
    | error failure => exact h
    | ok next => exact hfirst interview next h (turned_of_turn hresult)

end Interview

end ClausePrompt
