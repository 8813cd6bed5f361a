import ClausePrompt.Proofs.Interview.Direct

namespace ClausePrompt.Interview

theorem mem_entries {terms : Terms} {questions : List Question}
    {answers : OrderedMap String String} {question : Question} {answer : String}
    (hmem : question ∈ questions) (hanswer : answers.get? question.id = some answer)
    (hne : answer ≠ Response.skippedWord) :
    (question.keyword, normalize terms question answer) ∈ entries terms questions answers := by
  refine List.mem_filterMap.mpr ⟨question, hmem, ?_⟩
  simp [entryFor?, hanswer, hne, Option.filter_some]

-- A typed answer is read and placed, and the clauses of other questions leave it in its place.
theorem exists_clause_of_answer {terms : Terms} {questions : List Question}
    {answers : OrderedMap String String} {prompt : Prompt}
    (hkeywords : terms.lexicon.Apart (questions.map (·.keyword)))
    (hblank : ∀ question ∈ questions, answers.get? question.id ≠ some "")
    (hprompt : toPrompt terms questions answers = .ok prompt) {question : Question}
    {answer : String} (hmem : question ∈ questions)
    (hanswer : answers.get? question.id = some answer) (hne : answer ≠ Response.skippedWord) :
    ∃ clause ∈ prompt.clauses,
      Clause.read terms.lexicon question.keyword (normalize terms question answer) =
        .ok clause := by
  rw [toPrompt_eq_enter hblank] at hprompt
  obtain ⟨clause, hclause, hread⟩ := Prompt.exists_mem_of_foldlM_enter
    (nodup_ids_entries hkeywords answers) hprompt (mem_entries hmem hanswer hne)
  exact ⟨clause, hclause, hread⟩

-- An answer to a question that has to be answered says something.
theorem ofAnswer_of_required {terms : Terms} {question : Question} {answer : String}
    (h : Acceptable terms question answer) (hrequired : question.required = true) :
    ∃ hne, Response.ofAnswer answer = .typed (Text.trimmed answer) hne := by
  have htyped : Text.trimmed answer ≠ "" := by
    rcases h with ⟨clause, hread⟩ | ⟨-, hoptional⟩
    · exact trimmed_ne_of_readAnswer hread
    · rw [hrequired] at hoptional
      cases hoptional
  exact ⟨htyped, by rw [Response.ofAnswer, dif_neg htyped]⟩

-- The result holds the clause of every typed answer, except for an answer that is the very word
-- which marks a skipped question. So a last question that has to be answered has its clause.
theorem clause_of_play (terms : Terms) (questions : List Question) (first : Interview)
    (turns : List Turn) (interview next : Interview) (answer result : String)
    (hids : (questions.map (·.id)).Nodup)
    (hkeywords : terms.lexicon.Apart (questions.map (·.keyword)))
    (hstart : start questions = .ok first) (hmoves : ∀ again, .restart again ∉ turns)
    (hplay : first.play turns = interview) (hadvance : interview.advance terms answer = .ok next)
    (hresult : next.result = some result) :
    ∃ prompt, toPrompt terms questions next.answers = .ok prompt ∧ prompt.text = result ∧
      (∀ question ∈ questions, ∀ text htext,
        lastResponse? question (first.responses (turns ++ [.advance terms answer])) =
          some (.typed text htext) → text ≠ Response.skippedWord →
        ∃ clause ∈ prompt.clauses,
          Clause.read terms.lexicon question.keyword (normalize terms question text) =
            .ok clause) ∧
      ∀ last, questions.getLast? = some last → last.required = true →
        Text.trimmed answer ≠ Response.skippedWord →
        ∃ clause ∈ prompt.clauses,
          Clause.read terms.lexicon last.keyword (normalize terms last answer) = .ok clause := by
  subst hplay
  have hkept : (first.play turns).WellKept := (WellKept.start hstart).play turns
  have hquestions : (first.play turns).questions = questions :=
    questions_play (questions_of_start hstart) fun again hmem => absurd hmem (hmoves again)
  obtain ⟨hend, hagreed, hanswers, prompt, hprompt, htext, -⟩ :=
    prompt_of_advance hadvance hresult
  rw [hquestions] at hprompt
  have hblank : ∀ question ∈ questions, next.answers.get? question.id ≠ some "" := by
    intro question _
    rw [hanswers]
    exact hkept.record_ne_blank terms answer question.id
  refine ⟨prompt, hprompt, htext, fun question hmem text htyped hlast hne => ?_,
    fun last hlast hrequired hne => ?_⟩
  · have hall : ∀ again, Turn.restart again ∉ turns ++ [.advance terms answer] := by
      simpa using hmoves
    have hplayed : first.play (turns ++ [.advance terms answer]) = next := by
      rw [play_append, play_cons, play_nil, turn, hadvance]
      rfl
    have hanswer := recorded_of_play hids hstart hall question hmem
    rw [hplayed, hlast] at hanswer
    exact exists_clause_of_answer hkeywords hblank hprompt hmem hanswer hne
  · have hcurrent : (first.play turns).current = last :=
      current_eq_last hend (by rw [hquestions, hlast])
    have hmem : last ∈ questions := List.mem_of_getLast? hlast
    obtain ⟨htyped, hresponse⟩ := ofAnswer_of_required hagreed (by rw [hcurrent, hrequired])
    have hanswer : next.answers.get? last.id = some (Text.trimmed answer) := by
      rw [hanswers, hresponse, get?_record (by rwa [hquestions]) (by rwa [hquestions]),
        if_pos hcurrent]
      rfl
    have hclause := exists_clause_of_answer hkeywords hblank hprompt hmem hanswer hne
    rwa [normalize_trimmed] at hclause

-- A question is answered after it was skipped, and the other answer has to be given.
theorem clause_of_play_in_create :
    ∃ (first interview next : Interview) (prompt : Prompt),
      start [{ id := "platform", text := "Which platform?", keyword := "in" },
        { id := "element", text := "Which element?", keyword := "create" }] = .ok first ∧
      first.play [.skip, .back, .advance { lexicon := .standard } " Swift "] = interview ∧
      interview.advance { lexicon := .standard } "Card" = .ok next ∧
      next.result = some "*in* swift | *create* card" ∧
      prompt.text = "*in* swift | *create* card" ∧
      (∃ clause ∈ prompt.clauses, Clause.read .standard "in" "swift" = .ok clause) ∧
      ∃ clause ∈ prompt.clauses, Clause.read .standard "create" "card" = .ok clause := by
  obtain ⟨prompt, -, htext, hclauses, hlast⟩ := clause_of_play { lexicon := .standard }
    [{ id := "platform", text := "Which platform?", keyword := "in" },
      { id := "element", text := "Which element?", keyword := "create" }] _
    [.skip, .back, .advance { lexicon := .standard } " Swift "] _ _ "Card"
    "*in* swift | *create* card" (by decide) (by decide) rfl (by simp) rfl rfl rfl
  refine ⟨_, _, _, prompt, rfl, rfl, rfl, rfl, htext, ?_, ?_⟩
  · exact hclauses _ List.mem_cons_self "Swift" (by decide) (by decide) (by decide)
  · exact hlast _ rfl rfl (by decide)

-- The word for a skipped question is typed as the answer to the only question, which has to be
-- answered. It is an argument of the keyword and is taken, but the result has no clause.
theorem clause_of_play_skipped :
    ∃ question first next prompt,
      question = { id := "element", text := "Which element?", keyword := "create" } ∧
      question.required = true ∧
      start [question] = .ok first ∧
      first.advance { lexicon := .standard } "skipped" = .ok next ∧
      next.result = some "" ∧
      lastResponse? question (first.responses [.advance { lexicon := .standard } "skipped"]) =
        some (.typed "skipped" (by decide)) ∧
      (∃ clause, Clause.read .standard question.keyword
        (normalize { lexicon := .standard } question "skipped") = .ok clause) ∧
      toPrompt { lexicon := .standard } [question] next.answers = .ok prompt ∧
      ¬ ∃ clause ∈ prompt.clauses, Clause.read .standard question.keyword
        (normalize { lexicon := .standard } question "skipped") = .ok clause :=
  ⟨_, _, _, {}, rfl, rfl, rfl, rfl, rfl, by decide, ⟨_, rfl⟩, rfl, by simp⟩

end ClausePrompt.Interview
