import ClausePrompt.Lexicon.Standard
import ClausePrompt.Proofs.Interview.Move
import ClausePrompt.Proofs.OrderedMap

namespace ClausePrompt.Interview

-- The answers of an interview: who was passed has one, none is blank, and each belongs to a
-- question. A finished interview stands at its last question and has them all.
structure WellKept (interview : Interview) : Prop where
  passed : ∀ question ∈ interview.questions.take interview.index,
    (interview.answers.get? question.id).isSome = true
  keyed : ∀ entry ∈ interview.answers.entries,
    ∃ question ∈ interview.questions, question.id = entry.1
  trimmed : ∀ entry ∈ interview.answers.entries,
    entry.2 ≠ "" ∧ Text.trimmed entry.2 = entry.2
  finished : interview.completed = true →
    interview.index + 1 = interview.questions.length ∧
      ∀ question ∈ interview.questions, (interview.answers.get? question.id).isSome = true

-- What is kept of a turn is neither blank nor surrounded by blanks.
theorem trimmed_record {turn : Turn} {response : Response} (h : turn.response? = some response) :
    response.record ≠ "" ∧ Text.trimmed response.record = response.record := by
  have hskipped : Response.skipped.record ≠ "" ∧
      Text.trimmed Response.skipped.record = Response.skipped.record := by decide
  cases turn with
  | advance terms answer =>
    cases h
    unfold Response.ofAnswer
    split
    · exact hskipped
    · rename_i hne
      exact ⟨hne, Text.trimmed_trimmed answer⟩
  | skip =>
    cases h
    exact hskipped
  | back => cases h
  | restart questions => cases h

theorem take_succ_index (interview : Interview) :
    interview.questions.take (interview.index + 1) =
      interview.questions.take interview.index ++ [interview.current] :=
  (List.take_append_getElem interview.index_lt).symm

theorem current_mem (interview : Interview) : interview.current ∈ interview.questions :=
  List.get_mem interview.questions ⟨interview.index, interview.index_lt⟩

theorem questions_of_start {questions : List Question} {first : Interview}
    (h : start questions = .ok first) : first.questions = questions := by
  cases questions with
  | nil => cases h
  | cons question rest =>
    obtain ⟨message, -, rfl⟩ := Outcome.map_eq_ok_iff.mp h
    rfl

-- Questions that can be asked make an interview.
theorem exists_start {questions : List Question} (hne : questions ≠ [])
    (hasked : ∀ question ∈ questions, question.text ≠ "") :
    ∃ first, start questions = .ok first := by
  obtain ⟨question, rest, rfl⟩ := List.exists_cons_of_ne_nil hne
  have htext := hasked question List.mem_cons_self
  rw [start, Message.asking, dif_neg htext]
  exact ⟨_, rfl⟩

-- Only starting over changes the questions.
theorem questions_of_turned {interview next : Interview} {turn : Turn}
    (h : Turned interview turn next) (hmove : ∀ again, turn ≠ .restart again) :
    next.questions = interview.questions := by
  cases h with
  | follow => rfl
  | finish => rfl
  | back => rfl
  | restart hstart => exact absurd rfl (hmove _)

theorem questions_play {interview : Interview} {questions : List Question} {turns : List Turn}
    (h : interview.questions = questions)
    (hagain : ∀ again, .restart again ∈ turns → again = questions) :
    (interview.play turns).questions = questions := by
  apply play_induction (P := fun interview => interview.questions = questions) turns h
  intro turn hmem before after hbefore hturned
  by_cases hrestart : ∃ again, turn = .restart again
  · obtain ⟨again, rfl⟩ := hrestart
    cases hturned with
    | follow _ hsaid => cases hsaid
    | restart hstart => rw [questions_of_start hstart, hagain again hmem]
  · rw [questions_of_turned hturned fun again heq => hrestart ⟨again, heq⟩, hbefore]

namespace WellKept

variable {interview next : Interview}

theorem start {questions : List Question} (h : Interview.start questions = .ok next) :
    next.WellKept := by
  cases questions with
  | nil => cases h
  | cons question rest =>
    obtain ⟨message, -, rfl⟩ := Outcome.map_eq_ok_iff.mp h
    refine ⟨by simp, fun entry hentry => ?_, fun entry hentry => ?_, fun hcompleted => ?_⟩
    · cases hentry
    · cases hentry
    · cases hcompleted

-- With one more response the current question is answered as well.
theorem passed_record (h : interview.WellKept) (response : Response) :
    ∀ question ∈ interview.questions.take (interview.index + 1),
      ((interview.record response).get? question.id).isSome = true := by
  intro question hmem
  rw [take_succ_index, List.mem_append, List.mem_singleton] at hmem
  rcases hmem with hpassed | rfl
  · exact OrderedMap.isSome_get?_insert _ _ (h.passed question hpassed)
  · simp [record, OrderedMap.get?_insert]

theorem keyed_record (h : interview.WellKept) (response : Response) :
    ∀ entry ∈ (interview.record response).entries,
      ∃ question ∈ interview.questions, question.id = entry.1 := by
  intro entry hentry
  rcases OrderedMap.mem_insertIn hentry with rfl | hold
  · exact ⟨interview.current, interview.current_mem, rfl⟩
  · exact h.keyed entry hold

theorem trimmed_record (h : interview.WellKept) {turn : Turn} {response : Response}
    (hsaid : turn.response? = some response) :
    ∀ entry ∈ (interview.record response).entries,
      entry.2 ≠ "" ∧ Text.trimmed entry.2 = entry.2 := by
  intro entry hentry
  rcases OrderedMap.mem_insertIn hentry with rfl | hold
  · exact Interview.trimmed_record hsaid
  · exact h.trimmed entry hold

theorem turned (h : interview.WellKept) {turn : Turn} (hturned : Turned interview turn next) :
    next.WellKept := by
  cases hturned with
  | follow hopen hsaid hagreed hlt hasking =>
    refine ⟨h.passed_record _, h.keyed_record _, h.trimmed_record hsaid, fun hcompleted => ?_⟩
    exact absurd (hopen.symm.trans hcompleted) (by decide)
  | @finish terms answer prompt hopen hagreed hlast hprompt hfits =>
    have hsaid : (Turn.advance terms answer).response? = some (.ofAnswer answer) := rfl
    have hall := h.passed_record (.ofAnswer answer)
    refine ⟨fun question hmem => ?_, h.keyed_record _, h.trimmed_record hsaid, fun _ => ⟨hlast, ?_⟩⟩
    · exact hall question (List.take_subset_take_left _ (Nat.le_succ _) hmem)
    · rwa [hlast, List.take_length] at hall
  | back hopen hpos hlt hasking =>
    refine ⟨fun question hmem => ?_, h.keyed, h.trimmed, fun hcompleted => ?_⟩
    · exact h.passed question (List.take_subset_take_left _ (Nat.sub_le _ _) hmem)
    · exact absurd (hopen.symm.trans hcompleted) (by decide)
  | restart hstart => exact .start hstart

theorem play (h : interview.WellKept) (turns : List Turn) : (interview.play turns).WellKept :=
  play_induction turns h fun _ _ _ _ hbefore hturned => hbefore.turned hturned

end WellKept

-- The current question is one of the questions, and every question before it has an answer.
-- Answers belong to questions and are trimmed. A finished interview has all its answers and takes
-- no further move.
theorem well_kept_of_play (questions : List Question) (hne : questions ≠ [])
    (hasked : ∀ question ∈ questions, question.text ≠ "") :
    ∃ first, start questions = .ok first ∧
      ∀ turns interview, first.play turns = interview →
        ((∀ again, .restart again ∈ turns → again = questions) →
          interview.questions = questions) ∧
        interview.index < interview.questions.length ∧
        interview.questions[interview.index]? = some interview.current ∧
        (∀ question ∈ interview.questions.take interview.index,
          ∃ answer, interview.answers.get? question.id = some answer) ∧
        (∀ id ∈ interview.answers.keys, ∃ question ∈ interview.questions, question.id = id) ∧
        (∀ answer ∈ interview.answers.values, answer ≠ "" ∧ Text.trimmed answer = answer) ∧
        (interview.completed = true →
          interview.index + 1 = interview.questions.length ∧
          (∀ question ∈ interview.questions,
            ∃ answer, interview.answers.get? question.id = some answer) ∧
          (∀ terms answer, interview.advance terms answer = refuse finished) ∧
          interview.skip = refuse finished ∧
          interview.back = refuse finished ∧
          finished.kind = .invalidTransition) := by
  obtain ⟨first, hstart⟩ := exists_start hne hasked
  refine ⟨first, hstart, fun turns interview hplay => ?_⟩
  have hkept : interview.WellKept := hplay ▸ (WellKept.start hstart).play turns
  refine ⟨fun hagain => ?_, interview.index_lt, List.getElem?_eq_getElem interview.index_lt,
    fun question hmem => ?_, fun id hid => ?_, fun answer hanswer => ?_, fun hcompleted => ?_⟩
  · rw [← hplay]
    exact questions_play (questions_of_start hstart) hagain
  · exact Option.isSome_iff_exists.mp (hkept.passed question hmem)
  · obtain ⟨entry, hentry, rfl⟩ := List.mem_map.mp hid
    exact hkept.keyed entry hentry
  · obtain ⟨entry, hentry, rfl⟩ := List.mem_map.mp hanswer
    exact hkept.trimmed entry hentry
  · obtain ⟨hlast, hall⟩ := hkept.finished hcompleted
    exact ⟨hlast, fun question hmem => Option.isSome_iff_exists.mp (hall question hmem),
      advance_of_completed hcompleted, interview.passing_skip.refused hcompleted,
      interview.passing_back.refused hcompleted, rfl⟩

-- A skip that is taken back and starting over leave no trace in the answers of a finished interview.
theorem well_kept_of_play_in_background :
    ∃ first interview,
      start Question.standard = .ok first ∧
      first.play [.skip, .back, .advance { lexicon := .standard } " Swift ",
        .restart Question.standard, .advance { lexicon := .standard } "",
        .advance { lexicon := .standard } " Swift ", .skip, .skip, .skip,
        .advance { lexicon := .standard } "FF", .skip] = interview ∧
      interview.completed = true ∧ interview.index = 4 ∧
      (∀ answer ∈ interview.answers.values, answer ≠ "" ∧ Text.trimmed answer = answer) ∧
      interview.back = refuse finished := by
  obtain ⟨first, hstart, hplay⟩ := well_kept_of_play Question.standard (by decide) (by decide)
  obtain rfl := Except.ok.inj hstart
  refine ⟨_, _, rfl, rfl, by decide, by decide, ?_, ?_⟩
  · exact (hplay _ _ rfl).2.2.2.2.2.1
  · exact ((hplay _ _ rfl).2.2.2.2.2.2 (by decide)).2.2.2.2.1

end ClausePrompt.Interview
