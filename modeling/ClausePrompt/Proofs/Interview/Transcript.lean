import ClausePrompt.Journal.Event
import ClausePrompt.Proofs.Interview.Kept

namespace ClausePrompt.Interview

-- The move that a turn makes. Starting over is none.
def Turn.move? : Turn → Option Move
  | .advance .. => some .advance
  | .skip => some .skip
  | .back => some .back
  | .restart _ => none

-- What the author is seen to say in a turn.
def Turn.words? : Turn → Option String
  | .advance _ answer => some (if Text.trimmed answer = "" then "Skipped" else Text.trimmed answer)
  | .skip => some "Skipped"
  | .back | .restart _ => none

-- The turns of a run that are taken, in order.
def accepted : Interview → List Turn → List Turn
  | _, [] => []
  | interview, turn :: turns =>
    (if (interview.turn turn).isOk then [turn] else []) ++
      (interview.after (interview.turn turn)).accepted turns

-- The moves among them.
def moves (interview : Interview) (turns : List Turn) : List Move :=
  (interview.accepted turns).filterMap Turn.move?

-- What the author says in some messages.
def spoken (messages : List Message) : List String :=
  (messages.filter (·.speaker = .user)).map (·.content)

-- What the author is told in the end: the question that is asked, or the prompt that came out.
def announcement (interview : Interview) : String :=
  match interview.result with
  | none => interview.current.text
  | some result => "Here's your ChimPrompt:\n" ++ result

theorem accepted_cons_of_ok {interview next : Interview} {turn : Turn}
    (h : interview.turn turn = .ok next) (turns : List Turn) :
    interview.accepted (turn :: turns) = turn :: next.accepted turns := by
  rw [accepted, h]
  rfl

theorem accepted_cons_of_error {interview : Interview} {turn : Turn} {failure : Failure}
    (h : interview.turn turn = .error failure) (turns : List Turn) :
    interview.accepted (turn :: turns) = interview.accepted turns := by
  rw [accepted, h]
  rfl

theorem spoken_append (before after : List Message) :
    spoken (before ++ after) = spoken before ++ spoken after := by
  rw [spoken, List.filter_append, List.map_append, spoken, spoken]

theorem asking_eq_ok {question : Question} {message : Message}
    (h : Message.asking question = .ok message) :
    message.speaker = .assistant ∧ message.content = question.text := by
  unfold Message.asking at h
  split at h
  · cases h
  · obtain rfl := Except.ok.inj h
    exact ⟨rfl, rfl⟩

theorem announcement_of_open {interview : Interview} (h : interview.completed = false) :
    interview.announcement = interview.current.text := by
  have hresult : interview.result = none := by simpa [completed] using h
  rw [announcement, hresult]

-- A message with which the author is told what comes next.
structure Announces (interview : Interview) (message : Message) : Prop where
  speaker : message.speaker = .assistant
  content : message.content = interview.announcement

theorem announces_of_asking {interview : Interview} {question : Question} {message : Message}
    (h : Message.asking question = .ok message) (hopen : interview.completed = false)
    (hcurrent : interview.current = question) : interview.Announces message := by
  obtain ⟨hspeaker, hcontent⟩ := asking_eq_ok h
  exact ⟨hspeaker, by rw [announcement_of_open hopen, hcurrent, hcontent]⟩

-- A move adds the response, if there is one, and what the author is told then.
theorem exists_reply_of_turned {interview next : Interview} {turn : Turn}
    (h : Turned interview turn next) (hmove : ∀ again, turn ≠ .restart again) :
    ∃ reply, next.Announces reply ∧
      next.transcript =
        interview.transcript ++ ((turn.response?.map Response.message).toList ++ [reply]) := by
  cases h with
  | @follow _ _ message hopen hsaid hagreed hlt hasking =>
    exact ⟨message, announces_of_asking hasking hopen rfl, by rw [hsaid]; rfl⟩
  | finish => exact ⟨.presenting _, ⟨rfl, rfl⟩, rfl⟩
  | @back message hopen hpos hlt hasking =>
    exact ⟨message, announces_of_asking hasking hopen rfl, rfl⟩
  | restart => exact absurd rfl (hmove _)

-- The messages that a turn adds before the reply are its words.
theorem spoken_response (turn : Turn) :
    spoken (turn.response?.map Response.message).toList = turn.words?.toList := by
  cases turn with
  | advance terms answer =>
    by_cases hblank : Text.trimmed answer = ""
    · simp [Turn.response?, Response.ofAnswer, Response.message, Turn.words?, spoken, hblank]
    · simp [Turn.response?, Response.ofAnswer, Response.message, Turn.words?, spoken, hblank]
  | skip => rfl
  | back => rfl
  | restart questions => rfl

theorem Announces.spoken_append {interview : Interview} {reply : Message}
    (h : interview.Announces reply) (messages : List Message) :
    spoken (messages ++ [reply]) = spoken messages := by
  have hreply : spoken [reply] = [] := by simp [spoken, h.speaker]
  rw [Interview.spoken_append, hreply, List.append_nil]

-- Nothing that is in the transcript is ever changed or taken away. Every turn that is not taken
-- leaves it alone, and the others add two messages, or one if they go back.
theorem exists_added_of_play (interview : Interview) {turns : List Turn}
    (hmoves : ∀ again, .restart again ∉ turns) :
    ∃ added, (interview.play turns).transcript = interview.transcript ++ added ∧
      added.length =
        2 * ((interview.moves turns).count .advance + (interview.moves turns).count .skip) +
          (interview.moves turns).count .back ∧
      spoken added = (interview.accepted turns).filterMap Turn.words? := by
  induction turns generalizing interview with
  | nil => exact ⟨[], (List.append_nil _).symm, rfl, rfl⟩
  | cons turn turns ih =>
    have hmove : ∀ again, turn ≠ .restart again := by
      rintro again rfl
      exact hmoves again List.mem_cons_self
    have hrest : ∀ again, Turn.restart again ∉ turns :=
      fun again hmem => hmoves again (List.mem_cons_of_mem turn hmem)
    cases hturn : interview.turn turn with
    | error failure =>
      obtain ⟨added, htranscript, hlength, hspoken⟩ := ih interview hrest
      rw [play_cons, hturn, moves, accepted_cons_of_error hturn]
      exact ⟨added, htranscript, hlength, hspoken⟩
    | ok next =>
      obtain ⟨added, htranscript, hlength, hspoken⟩ := ih next hrest
      obtain ⟨reply, hreply, hnext⟩ := exists_reply_of_turned (turned_of_turn hturn) hmove
      refine ⟨(turn.response?.map Response.message).toList ++ [reply] ++ added, ?_, ?_, ?_⟩
      · rw [play_cons, hturn, after, htranscript, hnext, List.append_assoc]
      · rw [moves, accepted_cons_of_ok hturn, List.length_append, hlength, moves]
        cases turn with
        | advance terms answer =>
          simp [Turn.response?, Turn.move?]
          omega
        | skip =>
          simp [Turn.response?, Turn.move?]
          omega
        | back =>
          simp [Turn.response?, Turn.move?]
          omega
        | restart again => exact absurd rfl (hmove again)
      · rw [spoken_append, hreply.spoken_append, spoken_response, hspoken,
          accepted_cons_of_ok hturn]
        cases hwords : turn.words? <;> simp [hwords]

-- The last message tells what comes next.
def Ends (interview : Interview) : Prop :=
  ∃ front last, interview.transcript = front ++ [last] ∧ interview.Announces last

theorem ends_of_start {questions : List Question} {first : Interview}
    (h : start questions = .ok first) : first.Ends ∧ first.transcript.length = 1 ∧
      spoken first.transcript = [] := by
  cases questions with
  | nil => cases h
  | cons question rest =>
    obtain ⟨message, hasking, rfl⟩ := Outcome.map_eq_ok_iff.mp h
    have hspeaker := (asking_eq_ok hasking).1
    exact ⟨⟨[], message, rfl, announces_of_asking hasking rfl rfl⟩, rfl, by simp [spoken, hspeaker]⟩

theorem ends_play {interview : Interview} (h : interview.Ends) (turns : List Turn) :
    (interview.play turns).Ends := by
  refine play_induction turns h fun turn _ before after _ hturned => ?_
  by_cases hrestart : ∃ again, turn = .restart again
  · obtain ⟨again, rfl⟩ := hrestart
    cases hturned with
    | follow _ hsaid => cases hsaid
    | restart hstart => exact (ends_of_start hstart).1
  · obtain ⟨reply, hreply, htranscript⟩ :=
      exists_reply_of_turned hturned (not_exists.mp hrestart)
    exact ⟨_, reply, by rw [htranscript, ← List.append_assoc], hreply⟩

-- The transcript is a log of the interview. It only grows, by two messages for an answer or a skip
-- that is taken and by one for a step back; what the author says in it is what was said in these
-- turns, and in the end it asks the current question, or hands over the prompt.
theorem transcript_of_play (questions : List Question) (hne : questions ≠ [])
    (hasked : ∀ question ∈ questions, question.text ≠ "") :
    ∃ first, start questions = .ok first ∧
      ∀ turns, (∀ again, .restart again ∉ turns) → ∀ interview, first.play turns = interview →
        (∀ later, (∀ again, .restart again ∉ later) →
          interview.transcript <+: (first.play (turns ++ later)).transcript) ∧
        interview.transcript.length =
          1 + 2 * ((first.moves turns).count .advance + (first.moves turns).count .skip) +
            (first.moves turns).count .back ∧
        (interview.transcript.filter (·.speaker = .user)).map (·.content) =
          (first.accepted turns).filterMap Turn.words? ∧
        ∃ front last, interview.transcript = front ++ [last] ∧ last.speaker = .assistant ∧
          (interview.completed = false → last.content = interview.current.text) ∧
          ∀ result, interview.result = some result →
            last.content = "Here's your ChimPrompt:\n" ++ result := by
  obtain ⟨first, hstart⟩ := exists_start hne hasked
  refine ⟨first, hstart, ?_⟩
  rintro turns hmoves _ rfl
  obtain ⟨hends, hone, hnothing⟩ := ends_of_start hstart
  obtain ⟨added, htranscript, hlength, hspoken⟩ := exists_added_of_play first hmoves
  obtain ⟨front, last, hlast, hannounces⟩ := ends_play hends turns
  refine ⟨fun later hlater => ?_, ?_, ?_, front, last, hlast, hannounces.speaker,
    fun hopen => ?_, fun result hresult => ?_⟩
  · obtain ⟨more, hmore, -, -⟩ := exists_added_of_play (first.play turns) hlater
    rw [play_append, hmore]
    exact List.prefix_append _ _
  · rw [htranscript, List.length_append, hone, hlength, Nat.add_assoc]
  · have hall : spoken (first.play turns).transcript = spoken added := by
      rw [htranscript, spoken_append, hnothing, List.nil_append]
    exact hall.trans hspoken
  · rw [hannounces.content, announcement_of_open hopen]
  · rw [hannounces.content, announcement, hresult]

-- A skip that is taken back, a blank answer where one is needed, a skip of the last question, and a
-- blank answer that leaves the last question open.
theorem transcript_of_play_in_background :
    ∃ first interview,
      start [{ id := "platform", text := "Which platform?", keyword := "in" },
        { id := "colour", text := "Which colour?", keyword := "background", required := false }] =
          .ok first ∧
      first.play [.skip, .back, .advance { lexicon := .standard } " ",
        .advance { lexicon := .standard } " Swift ", .skip,
        .advance { lexicon := .standard } ""] = interview ∧
      interview.transcript.length = 8 ∧
      (interview.transcript.filter (·.speaker = .user)).map (·.content) =
        ["Skipped", "Swift", "Skipped"] ∧
      interview.transcript <+: (first.play ([.skip, .back, .advance { lexicon := .standard } " ",
        .advance { lexicon := .standard } " Swift ", .skip,
        .advance { lexicon := .standard } ""] ++ [.back])).transcript ∧
      ∃ front last, interview.transcript = front ++ [last] ∧
        last.content = "Here's your ChimPrompt:\n*in* swift" := by
  obtain ⟨first, hstart, hplay⟩ := transcript_of_play
    [{ id := "platform", text := "Which platform?", keyword := "in" },
      { id := "colour", text := "Which colour?", keyword := "background", required := false }]
    (by decide) (by decide)
  obtain rfl := Except.ok.inj hstart
  obtain ⟨hkept, hlength, hspoken, front, last, hlast, -, -, hcontent⟩ :=
    hplay [.skip, .back, .advance { lexicon := .standard } " ",
      .advance { lexicon := .standard } " Swift ", .skip,
      .advance { lexicon := .standard } ""] (by simp) _ rfl
  refine ⟨_, _, rfl, rfl, hlength, hspoken, hkept [.back] (by simp), front, last, hlast, ?_⟩
  exact hcontent "*in* swift" (by decide)

end ClausePrompt.Interview
