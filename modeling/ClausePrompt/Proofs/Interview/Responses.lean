import ClausePrompt.Proofs.Interview.Kept

namespace ClausePrompt.Interview

-- The response of a turn with the question it is given to, if the turn is taken.
def taken? (interview : Interview) (turn : Turn) : Option (Question × Response) :=
  match interview.turn turn with
  | .error _ => none
  | .ok _ => turn.response?.map (interview.current, ·)

-- The responses that are taken in a run, in order.
def responses : Interview → List Turn → List (Question × Response)
  | _, [] => []
  | interview, turn :: turns =>
    (interview.taken? turn).toList ++
      (interview.after (interview.turn turn)).responses turns

def lastResponse? (question : Question) (given : List (Question × Response)) : Option Response :=
  (given.filter (·.1 = question)).getLast?.map (·.2)

theorem lastResponse?_append (question : Question) (earlier later : List (Question × Response)) :
    lastResponse? question (earlier ++ later) =
      (lastResponse? question later).or (lastResponse? question earlier) := by
  simp only [lastResponse?, List.filter_append, List.getLast?_append, Option.map_or]

theorem lastResponse?_snoc (question asked : Question) (given : List (Question × Response))
    (response : Response) :
    lastResponse? question (given ++ [(asked, response)]) =
      if asked = question then some response else lastResponse? question given := by
  rw [lastResponse?_append]
  by_cases h : asked = question
  · simp [lastResponse?, h]
  · simp [lastResponse?, h]

-- A move keeps its response for the current question, and all other answers as they are.
theorem answers_of_turned {interview next : Interview} {turn : Turn}
    (h : Turned interview turn next) (hmove : ∀ again, turn ≠ .restart again) :
    next.answers = turn.response?.elim interview.answers interview.record := by
  cases h with
  | follow _ hsaid =>
    rw [hsaid]
    rfl
  | finish => rfl
  | back => rfl
  | restart => exact absurd rfl (hmove _)

-- Questions that differ have different ids.
theorem eq_of_id_eq {questions : List Question} (hids : (questions.map (·.id)).Nodup)
    {a b : Question} (ha : a ∈ questions) (hb : b ∈ questions) (h : a.id = b.id) : a = b :=
  List.inj_on_of_nodup_map hids ha hb h

theorem get?_record {interview : Interview} (hids : (interview.questions.map (·.id)).Nodup)
    {question : Question} (hmem : question ∈ interview.questions) (response : Response) :
    (interview.record response).get? question.id =
      if interview.current = question then some response.record
      else interview.answers.get? question.id := by
  rw [record, OrderedMap.get?_insert]
  by_cases h : interview.current = question
  · rw [if_pos h, if_pos (by rw [h])]
  · have hid : question.id ≠ interview.current.id :=
      fun hid => h (eq_of_id_eq hids interview.current_mem hmem hid.symm)
    rw [if_neg h, if_neg hid]

-- What is kept for a question is the last of the given responses to it.
def Recorded (given : List (Question × Response)) (interview : Interview) : Prop :=
  ∀ question ∈ interview.questions,
    interview.answers.get? question.id = (lastResponse? question given).map Response.record

namespace Recorded

variable {given : List (Question × Response)} {interview next : Interview}

theorem start {questions : List Question} (h : Interview.start questions = .ok next) :
    next.Recorded [] := by
  cases questions with
  | nil => cases h
  | cons question rest =>
    obtain ⟨message, -, rfl⟩ := Outcome.map_eq_ok_iff.mp h
    exact fun question _ => rfl

theorem record (h : interview.Recorded given)
    (hids : (interview.questions.map (·.id)).Nodup) (response : Response) :
    ∀ question ∈ interview.questions,
      (interview.record response).get? question.id =
        (lastResponse? question (given ++ [(interview.current, response)])).map
          Response.record := by
  intro question hmem
  rw [get?_record hids hmem, lastResponse?_snoc]
  by_cases hcurrent : interview.current = question
  · rw [if_pos hcurrent, if_pos hcurrent]
    rfl
  · rw [if_neg hcurrent, if_neg hcurrent, h question hmem]

theorem turn (h : interview.Recorded given) (hids : (interview.questions.map (·.id)).Nodup)
    {turn : Turn} (hmove : ∀ again, turn ≠ .restart again) :
    (interview.after (interview.turn turn)).Recorded
      (given ++ (interview.taken? turn).toList) := by
  unfold taken?
  cases hturn : interview.turn turn with
  | error failure => simpa [after] using h
  | ok next =>
    have hturned := turned_of_turn hturn
    have hquestions := questions_of_turned hturned hmove
    have hanswers := answers_of_turned hturned hmove
    intro question hmem
    simp only [after] at hmem ⊢
    rw [hquestions] at hmem
    rw [hanswers]
    cases turn.response? with
    | none => simpa using h question hmem
    | some response => exact h.record hids response question hmem

-- The induction is on the turns that are left; the responses so far are given.
theorem play (h : interview.Recorded given) (hids : (interview.questions.map (·.id)).Nodup)
    {turns : List Turn} (hmoves : ∀ again, .restart again ∉ turns) :
    (interview.play turns).Recorded (given ++ interview.responses turns) := by
  induction turns generalizing interview given with
  | nil => simpa [responses] using h
  | cons turn turns ih =>
    have hmove : ∀ again, turn ≠ .restart again := by
      rintro again rfl
      exact hmoves again List.mem_cons_self
    have hnext := h.turn hids hmove
    have hsame : (interview.after (interview.turn turn)).questions = interview.questions := by
      cases hturn : interview.turn turn with
      | error failure => rfl
      | ok next => exact questions_of_turned (turned_of_turn hturn) hmove
    rw [play_cons, responses, ← List.append_assoc]
    apply ih hnext
    · rwa [hsame]
    · exact fun again hmem => hmoves again (List.mem_cons_of_mem turn hmem)

end Recorded

-- A run of moves from the start keeps the last response to each question.
theorem recorded_of_play {questions : List Question} {first : Interview} {turns : List Turn}
    (hids : (questions.map (·.id)).Nodup) (hstart : start questions = .ok first)
    (hmoves : ∀ again, .restart again ∉ turns) :
    ∀ question ∈ questions, (first.play turns).answers.get? question.id =
      (lastResponse? question (first.responses turns)).map Response.record := by
  have hquestions : first.questions = questions := questions_of_start hstart
  have hsame : (first.play turns).questions = questions :=
    questions_play hquestions fun again hmem => absurd hmem (hmoves again)
  have hrecorded := (Recorded.start hstart).play (by rwa [hquestions]) hmoves
  rwa [Recorded, hsame, List.nil_append] at hrecorded

end ClausePrompt.Interview
