import ClausePrompt.Proofs.Interview.Turn
import ClausePrompt.Proofs.OrderedMap
import ClausePrompt.Proofs.Prompt.Overlong

namespace ClausePrompt.Interview

open Outcome (FailsWith)

-- What is typed in a turn, and the questions it starts over with.
def Turn.typed : Turn → List String
  | .advance _ answer => [answer]
  | _ => []

def Turn.asked : Turn → List Question
  | .restart questions => questions
  | _ => []

-- Whatever is kept was typed in one of the texts, unless it marks a question without an answer.
def Kept (texts : List String) (answers : OrderedMap String String) : Prop :=
  ∀ id answer, answers.get? id = some answer →
    answer = Response.skippedWord ∨ ∃ text ∈ texts, answer = Text.trimmed text

-- An interview all of whose questions can be asked, with answers from the texts.
structure Grounded (texts : List String) (interview : Interview) : Prop where
  askable : ∀ question ∈ interview.questions, question.text ≠ ""
  kept : Kept texts interview.answers

theorem Kept.insert {texts : List String} {answers : OrderedMap String String} {id answer : String}
    (h : Kept texts answers)
    (hanswer : answer = Response.skippedWord ∨ ∃ text ∈ texts, answer = Text.trimmed text) :
    Kept texts (answers.insert id answer) := by
  intro key found hfound
  rw [OrderedMap.get?_insert] at hfound
  split at hfound
  · cases hfound
    exact hanswer
  · exact h key found hfound

theorem record_of_respond {terms : Terms} {question : Question} {answer : String}
    {response : Response} (h : respond terms question answer = .ok response) :
    response.record = Response.skippedWord ∨ response.record = Text.trimmed answer := by
  unfold respond at h
  dsimp only at h
  split at h
  · split at h
    · cases h
    · cases h
      exact .inl rfl
  · obtain ⟨-, -, rfl⟩ := Outcome.map_eq_ok_iff.mp h
    exact .inr rfl

theorem asking_of_ne {question : Question} (h : question.text ≠ "") :
    ∃ message, Message.asking question = .ok message := by
  rw [Message.asking, dif_neg h]
  exact ⟨_, rfl⟩

namespace Grounded

variable {texts : List String} {interview next : Interview}

theorem start {questions : List Question} (hasked : ∀ question ∈ questions, question.text ≠ "")
    (h : Interview.start questions = .ok next) : next.Grounded texts := by
  cases questions with
  | nil => cases h
  | cons question rest =>
    obtain ⟨message, -, rfl⟩ := Outcome.map_eq_ok_iff.mp h
    exact ⟨hasked, fun id answer hanswer => by cases hanswer⟩

theorem record (h : interview.Grounded texts) {terms : Terms} {question : Question}
    {answer : String} {response : Response} (hanswer : answer ∈ texts)
    (hrespond : respond terms question answer = .ok response) :
    Kept texts (interview.record response) :=
  h.kept.insert ((record_of_respond hrespond).imp_right fun hrecord => ⟨answer, hanswer, hrecord⟩)

theorem follow (h : interview.Grounded texts) {response : Response}
    (hkept : Kept texts (interview.record response))
    {hmore : interview.isLast = false} (hfollow : interview.follow response hmore = .ok next) :
    next.Grounded texts := by
  obtain ⟨message, -, rfl⟩ := Outcome.map_eq_ok_iff.mp hfollow
  exact ⟨h.askable, hkept⟩

theorem advance (h : interview.Grounded texts) {terms : Terms} {answer : String}
    (hanswer : answer ∈ texts) (hadvance : interview.advance terms answer = .ok next) :
    next.Grounded texts := by
  obtain ⟨-, response, hrespond, hmove⟩ := advance_eq_ok_iff.mp hadvance
  have hkept := h.record hanswer hrespond
  obtain ⟨hmore, hfollow⟩ | ⟨-, hfinish⟩ := hmove
  · exact h.follow hkept hfollow
  · obtain ⟨prompt, -, -, rfl⟩ := finish_eq_ok_iff.mp hfinish
    exact ⟨h.askable, hkept⟩

theorem turn (h : interview.Grounded texts) {turn : Turn}
    (htyped : ∀ text ∈ turn.typed, text ∈ texts)
    (hasked : ∀ question ∈ turn.asked, question.text ≠ "")
    (hturn : interview.turn turn = .ok next) : next.Grounded texts := by
  cases turn with
  | advance terms answer => exact h.advance (htyped answer (List.mem_singleton_self answer)) hturn
  | skip =>
    rw [Interview.turn, Interview.skip] at hturn
    split at hturn
    · cases hturn
    · split at hturn
      · cases hturn
      · exact h.follow (h.kept.insert (.inl rfl)) hturn
  | back =>
    rw [Interview.turn, Interview.back] at hturn
    split at hturn
    · cases hturn
    · split at hturn
      · cases hturn
      · obtain ⟨message, -, rfl⟩ := Outcome.map_eq_ok_iff.mp hturn
        exact ⟨h.askable, h.kept⟩
  | restart questions => exact .start hasked hturn

theorem play (h : interview.Grounded texts) {turns : List Turn}
    (htyped : ∀ turn ∈ turns, ∀ text ∈ turn.typed, text ∈ texts)
    (hasked : ∀ turn ∈ turns, ∀ question ∈ turn.asked, question.text ≠ "") :
    (interview.play turns).Grounded texts := by
  induction turns generalizing interview with
  | nil => exact h
  | cons turn turns ih =>
    obtain ⟨hturnTyped, htyped⟩ := List.forall_mem_cons.mp htyped
    obtain ⟨hturnAsked, hasked⟩ := List.forall_mem_cons.mp hasked
    rw [play_cons]
    refine ih ?_ htyped hasked
    cases hturn : interview.turn turn with
    | error failure => exact h
    | ok next => exact h.turn hturnTyped hturnAsked hturn

end Grounded

-- Neither trimming nor lower case brings a number into an answer.
theorem overlong_of_normalize {terms : Terms} {question : Question} {answer : String}
    {digits : Nat} (h : Numeral.Overlong (normalize terms question answer).toList digits) :
    Numeral.Overlong answer.toList digits := by
  rw [normalize, String.toList_ofList] at h
  split at h
  · exact h.of_lower.of_trim
  · exact h.of_trim

theorem failsWith_readAnswer {texts : List String} {text : String} (htext : text ∈ texts)
    (terms : Terms) (question : Question) :
    FailsWith (Failure.Blames texts) (readAnswer terms question (Text.trimmed text)) := by
  refine (Clause.failsWith_read _ _ _).imp fun failure h => h.transfer fun digits hlong => ?_
  have hanswer := overlong_of_normalize hlong
  rw [Text.toList_trimmed] at hanswer
  exact ⟨text, htext, hanswer.of_trim⟩

theorem failsWith_respond (terms : Terms) (question : Question) (answer : String) :
    FailsWith (Failure.Blames [answer]) (respond terms question answer) := by
  unfold respond
  dsimp only
  split
  · split
    · exact Failure.failsWith_refuse _
    · exact Outcome.failsWith_ok _
  · exact (failsWith_readAnswer (List.mem_singleton_self answer) terms question).map _

theorem failsWith_placeAnswer {texts : List String} {answers : OrderedMap String String}
    (h : Kept texts answers) (terms : Terms) (prompt : Prompt) (question : Question) :
    FailsWith (Failure.Blames texts) (placeAnswer terms answers prompt question) := by
  unfold placeAnswer
  split
  · exact Outcome.failsWith_ok _
  · rename_i answer hanswer
    split
    · exact Outcome.failsWith_ok _
    · rename_i hplaced
      obtain ⟨-, htyped⟩ := not_or.mp hplaced
      obtain ⟨text, htext, rfl⟩ := (h question.id answer hanswer).resolve_left htyped
      exact (failsWith_readAnswer htext terms question).map _

theorem failsWith_finish {texts : List String} {interview : Interview} {response : Response}
    (h : Kept texts (interview.record response)) (terms : Terms) :
    FailsWith (Failure.Blames texts) (interview.finish terms response) := by
  have hprompt : FailsWith (Failure.Blames texts)
      (toPrompt terms interview.questions (interview.record response)) :=
    Outcome.failsWith_foldlM (failsWith_placeAnswer h terms) _ _
  unfold finish
  dsimp only
  split
  · rename_i failure hfailure
    exact Outcome.failsWith_error.mpr (hprompt failure hfailure)
  · split
    · exact Failure.failsWith_refuse _
    · exact Outcome.failsWith_ok _

-- The next question can be asked, so that only the answers are left to blame: the one that was
-- just typed, and those that were kept once they all become clauses.
theorem Grounded.failsWith_advance {texts : List String} {interview : Interview}
    (h : interview.Grounded texts) {answer : String} (hanswer : answer ∈ texts) (terms : Terms) :
    FailsWith (Failure.Blames texts) (interview.advance terms answer) := by
  unfold Interview.advance
  split
  · exact Failure.failsWith_refuse _
  · split
    · rename_i failure hfailure
      have hblames := failsWith_respond terms interview.current answer failure hfailure
      refine Outcome.failsWith_error.mpr (hblames.transfer fun digits hlong => ?_)
      exact ⟨answer, hanswer, hlong⟩
    · rename_i response hrespond
      split
      · rename_i hmore
        have hlt := index_succ_lt hmore
        obtain ⟨message, hmessage⟩ := asking_of_ne
          (h.askable (interview.questions[interview.index + 1]) (List.getElem_mem hlt))
        rw [Interview.follow, hmessage]
        exact Outcome.failsWith_ok _
      · exact failsWith_finish (h.record hanswer hrespond) terms

end ClausePrompt.Interview
