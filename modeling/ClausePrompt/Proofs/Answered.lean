import ClausePrompt.Lexicon.Standard
import ClausePrompt.Proofs.Interview.Overlong
import ClausePrompt.Proofs.Session.Refinement
import ClausePrompt.Sheet

namespace ClausePrompt

open Outcome (FailsWith)

-- The operation gives a result or says why it does not.
def Outcome.Answered {α : Type} (outcome : Outcome α) : Prop :=
  (∃ a, outcome = .ok a) ∨ ∃ refusal, outcome = refuse refusal

-- The operation is answered, unless it breaks off over a number in one of the texts that has more
-- digits than can be converted.
def Outcome.AnsweredOrOverlong {α : Type} (texts : List String) (outcome : Outcome α) : Prop :=
  Answered outcome ∨
    ∃ text ∈ texts, ∃ digits,
      Numeral.Overlong text.toList digits ∧ outcome = breakOff (.tooManyDigits digits)

theorem answeredOrOverlong_of_failsWith {α : Type} {texts : List String} {outcome : Outcome α}
    (h : FailsWith (Failure.Blames texts) outcome) : Outcome.AnsweredOrOverlong texts outcome := by
  cases outcome with
  | ok a => exact .inl (.inl ⟨a, rfl⟩)
  | error failure =>
    have hblames := h failure rfl
    cases failure with
    | refused refusal => exact .inl (.inr ⟨refusal, rfl⟩)
    | broken fault =>
      obtain ⟨text, htext, digits, hlong, rfl⟩ := hblames
      exact .inr ⟨text, htext, digits, hlong, rfl⟩

namespace Sheet

theorem failsWith_place (sheet : Sheet) (typed raw : String) :
    FailsWith (Failure.Blames [raw]) (sheet.place typed raw).outcome := by
  have hread := Clause.failsWith_read sheet.lexicon typed raw
  unfold place
  split
  · rename_i fault hfault
    exact Outcome.failsWith_error.mpr (hread _ hfault)
  · exact Failure.failsWith_refuse _
  · dsimp only
    split
    · exact Failure.failsWith_refuse _
    · exact Outcome.failsWith_ok _

theorem failsWith_load (sheet : Sheet) (text : String) :
    FailsWith (Failure.Blames [text]) (sheet.load text).outcome := by
  have hparse := Prompt.failsWith_parse sheet.lexicon text
  unfold load
  split
  · exact Failure.failsWith_refuse _
  · split
    · rename_i fault hfault
      exact Outcome.failsWith_error.mpr (hparse _ hfault)
    · exact Failure.failsWith_refuse _
    · exact Outcome.failsWith_ok _

end Sheet

namespace Session

def Action.typed : Action → List String
  | .advance answer _ => [answer]
  | _ => []

-- The turn that an action comes to says and asks nothing that the action and the session do not.
theorem source_of_turn? {session : Session} {action : Action} {turn : Interview.Turn}
    (h : session.turn? action = some turn) :
    (∀ text ∈ turn.typed, text ∈ action.typed) ∧
      ∀ question ∈ turn.asked, question ∈ session.questions := by
  cases action with
  | advance answer limit =>
    cases h
    exact ⟨fun text htext => htext, by simp [Interview.Turn.asked]⟩
  | skip =>
    cases h
    simp [Interview.Turn.typed, Interview.Turn.asked]
  | back =>
    cases h
    simp [Interview.Turn.typed, Interview.Turn.asked]
  | restart id =>
    cases h
    exact ⟨by simp [Interview.Turn.typed], fun question hquestion => hquestion⟩
  | close => cases h
  | fire i force =>
    rw [turn?] at h
    split at h
    · cases h
      exact ⟨by simp [Interview.Turn.typed], fun question hquestion => hquestion⟩
    · cases h

theorem source_of_mem_turns {session : Session} {actions : List Action} {turn : Interview.Turn}
    (h : turn ∈ session.turns actions) :
    (∀ text ∈ turn.typed, text ∈ actions.flatMap Action.typed) ∧
      ∀ question ∈ turn.asked, question ∈ session.questions := by
  induction actions generalizing session with
  | nil => cases h
  | cons action actions ih =>
    rw [turns, List.mem_append] at h
    rw [List.flatMap_cons]
    obtain hfirst | hrest := h
    · obtain ⟨htyped, hasked⟩ := source_of_turn? (Option.mem_toList.mp hfirst)
      exact ⟨fun text htext => List.mem_append_left _ (htyped text htext), hasked⟩
    · obtain ⟨htyped, hasked⟩ := ih hrest
      rw [(settings_perform session action).2] at hasked
      exact ⟨fun text htext => List.mem_append_right _ (htyped text htext), hasked⟩

theorem failsWith_advance {session : Session} (hstarted : session.Started)
    (hasked : ∀ question ∈ session.questions, question.text ≠ "") (actions : List Action)
    (answer : String) (limit : Option Int) :
    FailsWith (Failure.Blames (answer :: actions.flatMap Action.typed))
      ((session.run actions).advance answer limit).outcome := by
  have hgrounded : session.first.Grounded (answer :: actions.flatMap Action.typed) :=
    .start hasked session.start_questions
  have hplayed := hgrounded.play
    (fun turn hturn text htext => List.mem_cons_of_mem answer ((source_of_mem_turns hturn).1 text htext))
    fun turn hturn question hquestion => hasked question ((source_of_mem_turns hturn).2 question hquestion)
  rw [outcome_advance, interview_run hstarted.consistent, (started_iff.mp hstarted).1]
  exact hplayed.failsWith_advance List.mem_cons_self _

end Session

-- Everything that reads a text is answered, unless it breaks off over a number in one of the texts
-- that it was given: the argument, the prompt, or an answer that was typed in the interview. Where
-- an index is asked for, such a number does break the reading off.
theorem answered_or_overlong (lexicon : Lexicon) :
    (∀ typed raw, Outcome.AnsweredOrOverlong [raw] (Clause.read lexicon typed raw)) ∧
    (∀ keyword ∈ lexicon.keywords, keyword.shape = .indexRange → ∀ raw : String,
      Numeral.isNumeral raw.toList = true → Numeral.digitLimit < raw.length →
      Clause.read lexicon keyword.id raw = breakOff (.tooManyDigits raw.length)) ∧
    (∀ text, Outcome.AnsweredOrOverlong [text] (Prompt.parse lexicon text)) ∧
    (∀ (sheet : Sheet) (typed raw : String),
      Outcome.AnsweredOrOverlong [raw] (sheet.place typed raw).outcome) ∧
    (∀ (sheet : Sheet) (text : String),
      Outcome.AnsweredOrOverlong [text] (sheet.load text).outcome) ∧
    (∀ (questions : List Question) (first : Interview) (turns : List Interview.Turn)
        (terms : Interview.Terms) (answer : String),
      (∀ question ∈ questions, question.text ≠ "") →
      (∀ turn ∈ turns, ∀ question ∈ turn.asked, question.text ≠ "") →
      Interview.start questions = .ok first →
      Outcome.AnsweredOrOverlong (answer :: turns.flatMap Interview.Turn.typed)
        ((first.play turns).advance terms answer)) ∧
    ∀ (session : Session) (actions : List Session.Action) (answer : String) (limit : Option Int),
      session.Started → (∀ question ∈ session.questions, question.text ≠ "") →
      Outcome.AnsweredOrOverlong (answer :: actions.flatMap Session.Action.typed)
        ((session.run actions).advance answer limit).outcome := by
  refine ⟨fun typed raw => ?_, fun keyword hmem hshape raw hnumeral hlong => ?_, fun text => ?_,
    fun sheet typed raw => ?_, fun sheet text => ?_,
    fun questions first turns terms answer hasked hagain hstart => ?_,
    fun session actions answer limit hstarted hasked => ?_⟩
  · exact answeredOrOverlong_of_failsWith (Clause.failsWith_read lexicon typed raw)
  · exact Clause.read_of_overlong (Lexicon.resolve_id hmem) hshape hnumeral hlong
  · exact answeredOrOverlong_of_failsWith (Prompt.failsWith_parse lexicon text)
  · exact answeredOrOverlong_of_failsWith (Sheet.failsWith_place sheet typed raw)
  · exact answeredOrOverlong_of_failsWith (Sheet.failsWith_load sheet text)
  · have hgrounded : first.Grounded (answer :: turns.flatMap Interview.Turn.typed) :=
      .start hasked hstart
    have hplayed := hgrounded.play (fun turn hturn text htext =>
      List.mem_cons_of_mem answer (List.mem_flatMap.mpr ⟨turn, hturn, htext⟩)) hagain
    exact answeredOrOverlong_of_failsWith (hplayed.failsWith_advance List.mem_cons_self terms)
  · exact answeredOrOverlong_of_failsWith
      (Session.failsWith_advance hstarted hasked actions answer limit)

private theorem isNumeral_ones (n : Nat) :
    Numeral.isNumeral (String.ofList (List.replicate (n + 1) '1')).toList = true := by
  rw [String.toList_ofList]
  refine Numeral.isNumeral_iff.mpr ⟨List.replicate_succ_ne_nil, fun c hc => ?_⟩
  rw [List.eq_of_mem_replicate hc]
  decide

private theorem length_ones (n : Nat) :
    (String.ofList (List.replicate n '1')).length = n := by
  rw [String.length_ofList, List.length_replicate]

-- The interview that every authoring context starts with, begun again after a skip, and an index
-- of a thousand digits more than can be converted.
theorem answered_or_overlong_in_swift :
    ∃ first session,
      Interview.start Question.standard = .ok first ∧
      Session.start { lexicon := .standard } Question.standard 5.0 "wiz_1" = .ok session ∧
      Outcome.AnsweredOrOverlong ["iPhone", " Swift "]
        ((first.play [.skip, .restart Question.standard, .advance session.terms " Swift "]).advance
          session.terms "iPhone") ∧
      Outcome.AnsweredOrOverlong ["iPhone", " Swift "]
        ((session.run [.skip, .back, .advance " Swift " none]).advance "iPhone" none).outcome ∧
      Clause.read .standard "context" (String.ofList (List.replicate 5300 '1')) =
        breakOff (.tooManyDigits 5300) := by
  refine ⟨_, _, rfl, rfl, ?_, ?_, ?_⟩
  · exact (answered_or_overlong .standard).2.2.2.2.2.1 Question.standard _
      [.skip, .restart Question.standard, .advance _ " Swift "] _ "iPhone" (by decide) (by decide)
      rfl
  · exact (answered_or_overlong .standard).2.2.2.2.2.2 _
      [.skip, .back, .advance " Swift " none] "iPhone" none
      (Session.started_iff.mpr ⟨rfl, rfl, rfl, rfl⟩) (by decide)
  · have hbroken := (answered_or_overlong .standard).2.1 Lexicon.standardKeywords[2]
      (List.getElem_mem _) rfl (String.ofList (List.replicate 5300 '1')) (isNumeral_ones 5299)
      (by rw [length_ones]; decide)
    rwa [length_ones] at hbroken

-- One digit more than can be converted, where an index is asked for.
theorem not_answered_of_ones :
    Clause.read .standard "context" (String.ofList (List.replicate 4301 '1')) =
        breakOff (.tooManyDigits 4301) ∧
      ¬ Outcome.Answered
        (Clause.read .standard "context" (String.ofList (List.replicate 4301 '1'))) := by
  have hresolve : Lexicon.resolve .standard "context" = .ok _ := rfl
  have hread := Clause.read_of_overlong hresolve rfl (isNumeral_ones 4300)
    (by rw [length_ones]; decide)
  rw [length_ones] at hread
  refine ⟨hread, ?_⟩
  rintro (⟨clause, hclause⟩ | ⟨refusal, hrefusal⟩)
  · cases hread.symm.trans hclause
  · cases hread.symm.trans hrefusal

end ClausePrompt
