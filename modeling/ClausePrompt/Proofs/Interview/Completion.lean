import ClausePrompt.Proofs.Interview.Responses

namespace ClausePrompt.Interview

-- A move of the author under the given terms. Only the limit may change from move to move.
def Turn.Under (terms : Terms) : Turn → Prop
  | .advance found _ => found = { terms with limit := found.limit }
  | .skip | .back => True
  | .restart _ => False

-- Every kept answer but a skipped one is an argument of the keyword of its question.
def Valid (terms : Terms) (questions : List Question) (answers : OrderedMap String String) : Prop :=
  ∀ question ∈ questions, ∀ answer, answers.get? question.id = some answer →
    answer ≠ Response.skippedWord → ∃ clause, readAnswer terms question answer = .ok clause

-- The second reading of the answers cannot fail where the first one did not.
theorem Valid.exists_toPrompt {terms : Terms} {questions : List Question}
    {answers : OrderedMap String String} (h : Valid terms questions answers) :
    ∃ prompt, toPrompt terms questions answers = .ok prompt := by
  apply Outcome.foldlM_total
  intro question hmem prompt
  unfold placeAnswer
  split
  · exact ⟨prompt, rfl⟩
  · rename_i answer hanswer
    split
    · exact ⟨prompt, rfl⟩
    · rename_i hplaced
      obtain ⟨clause, hread⟩ := h question hmem answer hanswer fun hskipped => hplaced (.inr hskipped)
      exact ⟨prompt.place clause, by rw [hread]; rfl⟩

-- Only the answers to the questions matter.
theorem toPrompt_congr {terms : Terms} {questions : List Question}
    {answers others : OrderedMap String String}
    (h : ∀ question ∈ questions, others.get? question.id = answers.get? question.id) :
    toPrompt terms questions others = toPrompt terms questions answers := by
  apply Outcome.foldlM_congr
  intro question hmem prompt
  rw [placeAnswer, h question hmem, placeAnswer]

-- The answer is read again as it was kept.
theorem readAnswer_record {terms : Terms} {question : Question} {answer : String}
    (h : Acceptable terms question answer)
    (hne : (Response.ofAnswer answer).record ≠ Response.skippedWord) :
    ∃ clause, readAnswer terms question (Response.ofAnswer answer).record = .ok clause := by
  unfold Response.ofAnswer at hne ⊢
  split at hne
  · exact absurd rfl hne
  · rename_i htyped
    obtain ⟨clause, hread⟩ := h.resolve_right fun hblank => htyped hblank.1
    refine ⟨clause, ?_⟩
    rw [dif_neg htyped, ← hread]
    simp only [readAnswer, Response.record, normalize_trimmed]

theorem Valid.record {terms : Terms} {interview : Interview} {response : Response}
    (h : Valid terms interview.questions interview.answers)
    (hids : (interview.questions.map (·.id)).Nodup)
    (hresponse : response.record ≠ Response.skippedWord →
      ∃ clause, readAnswer terms interview.current response.record = .ok clause) :
    Valid terms interview.questions (interview.record response) := by
  intro question hmem answer hanswer hne
  rw [get?_record hids hmem] at hanswer
  split at hanswer
  · rename_i hcurrent
    cases hanswer
    exact hcurrent ▸ hresponse hne
  · exact h question hmem answer hanswer hne

theorem current_eq_last {interview : Interview}
    (hlast : interview.index + 1 = interview.questions.length) {question : Question}
    (hquestion : interview.questions.getLast? = some question) :
    interview.current = question := by
  rw [List.getLast?_eq_getElem?, List.getElem?_eq_some_iff] at hquestion
  obtain ⟨hbound, rfl⟩ := hquestion
  have hindex : interview.questions.length - 1 = interview.index := by omega
  simp only [hindex]
  rfl

-- An interview whose answers were given under the terms. The last question has an answer exactly
-- in a finished interview, and the result is what the answers make.
structure Conducted (terms : Terms) (interview : Interview) : Prop where
  ids_nodup : (interview.questions.map (·.id)).Nodup
  valid : Valid terms interview.questions interview.answers
  last : ∀ question, interview.questions.getLast? = some question →
    interview.completed = (interview.answers.get? question.id).isSome
  result : ∀ result, interview.result = some result →
    ∃ prompt, toPrompt terms interview.questions interview.answers = .ok prompt ∧
      prompt.text = result

namespace Conducted

variable {terms : Terms} {interview next : Interview}

theorem start {questions : List Question} (hids : (questions.map (·.id)).Nodup)
    (h : Interview.start questions = .ok next) : next.Conducted terms := by
  cases questions with
  | nil => cases h
  | cons question rest =>
    obtain ⟨message, -, rfl⟩ := Outcome.map_eq_ok_iff.mp h
    refine ⟨hids, fun question _ answer hanswer => ?_, fun question _ => rfl, fun result hresult => ?_⟩
    · cases hanswer
    · cases hresult

-- The response that a turn under the terms gives is read again as it was read first.
theorem read_of_agreed {turn : Turn} {response : Response} (hunder : turn.Under terms)
    (hsaid : turn.response? = some response)
    (hagreed : ∀ terms answer, turn = .advance terms answer →
      Acceptable terms interview.current answer)
    (hne : response.record ≠ Response.skippedWord) :
    ∃ clause, readAnswer terms interview.current response.record = .ok clause := by
  cases turn with
  | advance found answer =>
    cases hsaid
    have hread := readAnswer_record (hagreed found answer rfl) hne
    rwa [hunder] at hread
  | skip =>
    cases hsaid
    exact absurd rfl hne
  | back => cases hsaid
  | restart questions => cases hsaid

theorem current_ne_last (h : interview.Conducted terms)
    (hlt : interview.index + 1 < interview.questions.length) {question : Question}
    (hlast : interview.questions.getLast? = some question) : interview.current ≠ question := by
  intro hcurrent
  have hnodup : interview.questions.Nodup := .of_map _ h.ids_nodup
  rw [List.getLast?_eq_getElem?, List.getElem?_eq_some_iff] at hlast
  obtain ⟨hbound, hfound⟩ := hlast
  have hsame : interview.questions[interview.index] =
      interview.questions[interview.questions.length - 1] := hcurrent.trans hfound.symm
  have hindex := hnodup.getElem_inj_iff.mp hsame
  omega

theorem turned (h : interview.Conducted terms) {turn : Turn} (hunder : turn.Under terms)
    (hturned : Turned interview turn next) : next.Conducted terms := by
  cases hturned with
  | @follow _ response _ hopen hsaid hagreed hlt hasking =>
    have hread := read_of_agreed hunder hsaid hagreed
    refine ⟨h.ids_nodup, h.valid.record h.ids_nodup hread, fun question hlast => ?_,
      fun result hresult => ?_⟩
    · have hne := h.current_ne_last hlt hlast
      dsimp only at hlast ⊢
      rw [get?_record h.ids_nodup (List.mem_of_getLast? hlast), if_neg hne]
      exact h.last question hlast
    · have hnone : interview.result = none := by simpa [completed] using hopen
      exact absurd (hnone.symm.trans hresult) (by simp)
  | @finish found answer prompt hopen hagreed hlast hprompt hfits =>
    have hread := read_of_agreed hunder rfl
      (fun terms answer hturn => by cases hturn; exact hagreed)
    refine ⟨h.ids_nodup, h.valid.record h.ids_nodup hread, fun question hquestion => ?_,
      fun result hresult => ?_⟩
    · dsimp only at hquestion ⊢
      rw [get?_record h.ids_nodup (List.mem_of_getLast? hquestion),
        if_pos (current_eq_last hlast hquestion)]
      rfl
    · cases hresult
      rw [hunder] at hprompt
      exact ⟨prompt, hprompt, rfl⟩
  | back hopen hpos hlt hasking => exact ⟨h.ids_nodup, h.valid, h.last, h.result⟩
  | restart hstart => exact absurd hunder id

-- The same answers make the same result, or none on either side.
theorem result_eq {other : Interview} (h : interview.Conducted terms)
    (hother : other.Conducted terms) (hquestions : other.questions = interview.questions)
    (hanswers : ∀ question ∈ interview.questions,
      other.answers.get? question.id = interview.answers.get? question.id) :
    other.result = interview.result := by
  have hne : interview.questions ≠ [] := List.ne_nil_of_length_pos
    (Nat.lt_of_le_of_lt (Nat.zero_le _) interview.index_lt)
  have hlast := List.getLast?_eq_some_getLast hne
  have hcompleted : other.completed = interview.completed := by
    rw [h.last _ hlast, hother.last _ (by rw [hquestions, hlast]),
      hanswers _ (List.getLast_mem hne)]
  cases hresult : interview.result with
  | none =>
    have hopen : other.completed = false := by rw [hcompleted, completed, hresult]; rfl
    simpa [completed] using hopen
  | some result =>
    have hfinished : other.completed = true := by rw [hcompleted, completed, hresult]; rfl
    obtain ⟨found, hfound⟩ := Option.isSome_iff_exists.mp hfinished
    obtain ⟨prompt, hprompt, rfl⟩ := h.result result hresult
    obtain ⟨again, hagain, rfl⟩ := hother.result found hfound
    rw [hquestions, toPrompt_congr hanswers, hprompt] at hagain
    obtain rfl := Except.ok.inj hagain
    exact hfound

theorem play (h : interview.Conducted terms) {turns : List Turn}
    (hunder : ∀ turn ∈ turns, turn.Under terms) : (interview.play turns).Conducted terms :=
  play_induction turns h fun turn hmem _ _ hbefore hturned =>
    hbefore.turned (hunder turn hmem) hturned

end Conducted

-- At the last question nothing but the length of the prompt is left to refuse an answer for.
theorem advance_of_acceptable (terms : Terms) {interview : Interview} {answer : String}
    {prompt : Prompt} (hopen : interview.completed = false) (hlast : interview.isLast = true)
    (hagreed : Acceptable terms interview.current answer)
    (hprompt : toPrompt terms interview.questions (interview.record (.ofAnswer answer)) =
      .ok prompt) :
    interview.advance terms answer =
        refuse (.malformed (some interview.current.keyword) (Prompt.wouldExceed terms.limit)) ∧
      terms.limit < prompt.length ∨
    ∃ next, interview.advance terms answer = .ok next ∧ next.result = some prompt.text ∧
      prompt.length ≤ terms.limit := by
  have hrespond := respond_eq_ok_iff.mpr ⟨hagreed, rfl⟩
  have hadvance : interview.advance terms answer = interview.finish terms (.ofAnswer answer) := by
    simp [advance, hopen, hrespond, hlast]
  rw [hadvance]
  by_cases hlimit : terms.limit < prompt.length
  · exact .inl ⟨by simp [finish, hprompt, hlimit], hlimit⟩
  · have hfits : (prompt.length : Int) ≤ terms.limit := Int.not_lt.mp hlimit
    exact .inr ⟨_, finish_eq_ok_iff.mpr ⟨prompt, hprompt, hfits, rfl⟩, rfl, hfits⟩

-- The answer that finishes an interview is given to the last question and kept, and all answers
-- together make the result.
theorem prompt_of_advance {terms : Terms} {interview next : Interview} {answer result : String}
    (h : interview.advance terms answer = .ok next) (hresult : next.result = some result) :
    interview.index + 1 = interview.questions.length ∧
      Acceptable terms interview.current answer ∧
      next.answers = interview.record (.ofAnswer answer) ∧
      ∃ prompt, toPrompt terms interview.questions next.answers = .ok prompt ∧
        prompt.text = result ∧ prompt.length ≤ terms.limit := by
  cases turned_of_advance h with
  | follow hopen =>
    have hnone : interview.result = none := by simpa [completed] using hopen
    exact absurd (hnone.symm.trans hresult) (by simp)
  | finish hopen hagreed hlast hprompt hfits =>
    exact ⟨hlast, hagreed, rfl, _, hprompt, Option.some.inj hresult, hfits⟩

-- Every kept answer is the last response to its question, and can be read again. At the last
-- question an acceptable answer is therefore refused only if the prompt becomes too long; else
-- the result is the prompt that the answers make, whatever way led to them.
theorem completion_of_play (terms : Terms) (questions : List Question) (hne : questions ≠ [])
    (hids : (questions.map (·.id)).Nodup) (hasked : ∀ question ∈ questions, question.text ≠ "") :
    ∃ first, start questions = .ok first ∧
      ∀ turns, (∀ turn ∈ turns, turn.Under terms) → ∀ interview, first.play turns = interview →
        (∀ question ∈ questions, interview.answers.get? question.id =
          (lastResponse? question (first.responses turns)).map Response.record) ∧
        (∀ question ∈ questions, ∀ answer, interview.answers.get? question.id = some answer →
          answer ≠ Response.skippedWord →
          ∃ clause, Clause.read terms.lexicon question.keyword
            (normalize terms question answer) = .ok clause) ∧
        (∀ limit answer, interview.completed = false → interview.isLast = true →
          Acceptable terms interview.current answer →
          ∃ prompt,
            toPrompt terms questions (interview.record (.ofAnswer answer)) = .ok prompt ∧
            (interview.advance { terms with limit } answer =
                refuse (.malformed (some interview.current.keyword) (Prompt.wouldExceed limit)) ∧
              limit < prompt.length ∨
            ∃ next, interview.advance { terms with limit } answer = .ok next ∧
              next.result = some prompt.text ∧ prompt.length ≤ limit)) ∧
        (∀ limit answer next result, interview.advance { terms with limit } answer = .ok next →
          next.result = some result →
          ∃ prompt, toPrompt terms questions next.answers = .ok prompt ∧
            prompt.text = result ∧ result.length ≤ limit) ∧
        ∀ others, (∀ turn ∈ others, turn.Under terms) →
          (∀ question ∈ questions, lastResponse? question (first.responses others) =
            lastResponse? question (first.responses turns)) →
          (first.play others).result = interview.result := by
  obtain ⟨first, hstart⟩ := exists_start hne hasked
  refine ⟨first, hstart, ?_⟩
  have hquestions : first.questions = questions := questions_of_start hstart
  -- What holds of every run under the terms.
  have hrun : ∀ turns, (∀ turn ∈ turns, turn.Under terms) →
      (first.play turns).questions = questions ∧ (first.play turns).Conducted terms ∧
        ∀ question ∈ questions, (first.play turns).answers.get? question.id =
          (lastResponse? question (first.responses turns)).map Response.record := by
    intro turns hunder
    have hmoves : ∀ again, Turn.restart again ∉ turns := fun again hmem => hunder _ hmem
    exact ⟨questions_play hquestions fun again hmem => absurd hmem (hmoves again),
      (Conducted.start hids hstart).play hunder, recorded_of_play hids hstart hmoves⟩
  rintro turns hunder _ rfl
  obtain ⟨hsame, hconducted, hrecorded⟩ := hrun turns hunder
  refine ⟨hrecorded, fun question hmem answer hanswer hne => ?_,
    fun limit answer hopen hlast hagreed => ?_, fun limit answer next result hadvance hresult => ?_,
    fun others hothers hresponses => ?_⟩
  · exact hconducted.valid question (by rwa [hsame]) answer hanswer hne
  · obtain ⟨prompt, hprompt⟩ :=
      (hconducted.valid.record hconducted.ids_nodup (readAnswer_record hagreed)).exists_toPrompt
    refine ⟨prompt, hsame ▸ hprompt, ?_⟩
    exact advance_of_acceptable { terms with limit } hopen hlast hagreed hprompt
  · obtain ⟨-, -, -, prompt, hprompt, rfl, hfits⟩ := prompt_of_advance hadvance hresult
    rw [hsame] at hprompt
    exact ⟨prompt, hprompt, rfl, hfits⟩
  · obtain ⟨hsameOther, hother, hrecordedOther⟩ := hrun others hothers
    apply hconducted.result_eq hother (hsameOther.trans hsame.symm)
    intro question hmem
    rw [hsame] at hmem
    rw [hrecorded question hmem, hrecordedOther question hmem, hresponses question hmem]

-- Two ways to the same answers: one with a skip that is taken back, and a direct one. The last
-- answer is too long under a first limit.
theorem completion_of_play_in_background :
    ∃ first interview,
      start Question.standard = .ok first ∧
      first.play [.skip, .back, .advance { lexicon := .standard } " Swift ", .skip, .skip, .skip,
        .advance { lexicon := .standard, limit := 10 } "FF",
        .advance { lexicon := .standard } "FF"] = interview ∧
      interview.answers.get? "platform" = some "Swift" ∧
      interview.result = some "*in* swift | *background* FF" ∧
      (first.play [.advance { lexicon := .standard } "Swift\n", .skip, .skip, .skip,
        .advance { lexicon := .standard, limit := 40 } " FF"]).result = interview.result := by
  obtain ⟨first, hstart, hplay⟩ := completion_of_play { lexicon := .standard } Question.standard
    (by decide) (by decide) (by decide)
  obtain rfl := Except.ok.inj hstart
  refine ⟨_, _, rfl, rfl, ?_, by decide, ?_⟩
  · exact (hplay _ (by simp [Turn.Under]) _ rfl).1 Question.standard[0] List.mem_cons_self
  · exact (hplay _ (by simp [Turn.Under]) _ rfl).2.2.2.2 _ (by simp [Turn.Under]) (by decide)

end ClausePrompt.Interview
