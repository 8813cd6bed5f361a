import ClausePrompt.Lexicon.Standard
import ClausePrompt.Proofs.Desk.Modes
import ClausePrompt.Proofs.Session.Completion

namespace ClausePrompt.Desk

-- What is done with the interview, by the author or by its timers, short of starting the desk over.
def Action.aside : Action → Bool
  | .advance _ | .skip | .back | .pressKey _ | .close | .fire _ _ => true
  | .edit _ | .insertShortcut _ | .finishEditing | .place _ _ | .reset _ => false

def Action.answer? : Action → Option String
  | .advance answer => some answer
  | _ => none

-- Whether an answer finishes the interview of a desk.
def finishes (desk : Desk) (answer : String) : Bool :=
  !desk.session.interview.completed &&
    (desk.advance answer).state.session.interview.completed

-- A stretch of a run in which only the interview is dealt with, and is not finished.
def undisturbed : Desk → List Action → Bool
  | _, [] => true
  | desk, action :: actions =>
    action.aside && action.answer?.all (!desk.finishes ·) &&
      (desk.attempt action).state.undisturbed actions

-- Of all actions only an answer finishes the interview.
theorem finishes_of_attempt {desk : Desk} {action : Action}
    (hbefore : desk.session.interview.completed = false)
    (hafter : (desk.attempt action).state.session.interview.completed = true) :
    ∃ answer, action = .advance answer ∧ desk.finishes answer = true := by
  have hanswer : ∃ answer, action = .advance answer := by
    have hsession := hafter
    rw [session_attempt] at hsession
    cases htaken : desk.sessionAction? action with
    | none => simp [htaken, hbefore] at hsession
    | some taken =>
      rw [htaken] at hsession
      obtain ⟨answer, limit, rfl, -⟩ := Session.perform_of_open hbefore hsession
      exact ⟨answer, eq_advance_of_sessionAction? htaken⟩
  obtain ⟨answer, rfl⟩ := hanswer
  refine ⟨answer, rfl, ?_⟩
  rw [finishes, hbefore]
  exact hafter

-- Apart from the author's moves the session of a desk sees nothing of the desk it belongs to.
theorem session_attempt_congr {desk other : Desk} (h : desk.session = other.session)
    {action : Action} (hunguided : action.guided = false) :
    (desk.attempt action).state.session = (other.attempt action).state.session := by
  cases action with
  | edit | insertShortcut | finishEditing | place =>
    rw [session_of_direct desk rfl, session_of_direct other rfl, h]
  | advance | skip | back | pressKey => cases hunguided
  | reset | close | fire => rw [session_attempt, session_attempt, h]; rfl

-- What the author writes between the firings of the timers can be left out of a run, as far as the
-- session is concerned. The two desks differ from the first such action on.
theorem session_run_filter {desk other : Desk} (h : desk.session = other.session)
    {actions : List Action} (hunguided : ∀ action ∈ actions, action.guided = false) :
    (desk.run actions).session = (other.run (actions.filter (!·.direct))).session := by
  induction actions generalizing desk other with
  | nil => exact h
  | cons action actions ih =>
    obtain ⟨hfirst, hrest⟩ := List.forall_mem_cons.mp hunguided
    rw [run_cons, List.filter_cons]
    split
    · exact ih (session_attempt_congr h hfirst) hrest
    · rename_i hkept
      have hdirect : action.direct = true := by simpa using hkept
      exact ih ((session_of_direct desk hdirect).trans h) hrest

-- A result that is handed to the sheet finishes the interview: while one is shown already no answer
-- is taken.
theorem state_advance {desk : Desk} {answer : String}
    (h : desk.finishes answer = false) :
    (desk.advance answer).state = desk.withSession (desk.advance answer).state.session := by
  by_cases henabled : desk.interviewEnabled = true
  · have houtcome := Session.outcome_advance desk.session answer (some desk.sheet.limit)
    cases hadvance : desk.session.interview.advance
        (desk.session.termsWithin (some desk.sheet.limit)) answer with
    | error failure =>
      rw [hadvance] at houtcome
      rw [advance, if_pos henabled]
      simp only [houtcome]
      rfl
    | ok next =>
      rw [hadvance] at houtcome
      cases hresult : next.result with
      | none =>
        obtain ⟨questions, index, answers, transcript, _, hlt⟩ := next
        obtain rfl := hresult
        rw [advance, if_pos henabled]
        simp only [houtcome]
        rfl
      | some result =>
        have hopen := Interview.completed_of_advance hadvance
        have hcompleted : next.completed = true := by simp [Interview.completed, hresult]
        have hafter : (desk.advance answer).state.session.interview.completed = true := by
          rw [session_advance, if_pos henabled, Session.state_advance, hadvance]
          simp [Session.settle, Session.schedule, hcompleted]
        simp [finishes, hopen, hafter] at h
  · rw [advance, if_neg henabled]
    rfl

-- Beside the session nothing is touched unless the interview is finished.
theorem state_aside {desk : Desk} {action : Action} (haside : action.aside = true)
    (h : ∀ answer, action = .advance answer → desk.finishes answer = false) :
    (desk.attempt action).state = desk.withSession (desk.attempt action).state.session := by
  cases action with
  | advance answer => exact state_advance (h answer rfl)
  | skip | back => exact state_guide desk _
  | pressKey key => exact state_pressKey desk key
  | close => rfl
  | fire i force => rfl
  | edit | insertShortcut | finishEditing | place | reset => cases haside

theorem run_aside {desk : Desk} {actions : List Action} (h : desk.undisturbed actions = true) :
    desk.run actions = desk.withSession (desk.run actions).session := by
  induction actions generalizing desk with
  | nil => rfl
  | cons action actions ih =>
    simp only [undisturbed, Bool.and_eq_true] at h
    obtain ⟨⟨haside, hanswer⟩, hrest⟩ := h
    have hopen : ∀ answer, action = .advance answer → desk.finishes answer = false := by
      rintro answer rfl
      simpa [Action.answer?] using hanswer
    have hstate := state_aside haside hopen
    rw [run_cons, ih hrest, hstate]
    rfl

-- The two modes keep to their own, in whatever state a desk is. What the author writes leaves the
-- session as it is with all its timers, whether or not it is taken; and what is done with the
-- interview leaves the prompt, the draft and the typing as they are, apart from an answer that
-- finishes it, which no other action does. So what is written between timers that fire can be left
-- out as far as the session is concerned, and a stretch of moves and firings as far as the prompt
-- and the draft are.
theorem frame_between_modes (desk : Desk) :
    (∀ action : Action, action.direct = true →
      (desk.attempt action).state.session = desk.session) ∧
    (∀ action : Action, action.aside = true →
      (∀ answer, action = .advance answer → desk.finishes answer = false) →
      (desk.attempt action).state.sheet = desk.sheet ∧
      (desk.attempt action).state.draft = desk.draft ∧
      (desk.attempt action).state.typing = desk.typing) ∧
    (∀ actions : List Action, (∀ action ∈ actions, action.guided = false) →
      (desk.run actions).session = (desk.run (actions.filter (!·.direct))).session) ∧
    (∀ actions : List Action, desk.undisturbed actions = true →
      (desk.run actions).sheet = desk.sheet ∧ (desk.run actions).draft = desk.draft ∧
        (desk.run actions).typing = desk.typing) ∧
    ∀ action : Action, desk.session.interview.completed = false →
      (desk.attempt action).state.session.interview.completed = true →
      ∃ answer, action = .advance answer ∧ desk.finishes answer = true := by
  refine ⟨fun action hdirect => session_of_direct desk hdirect, fun action haside hopen => ?_,
    fun actions hunguided => session_run_filter rfl hunguided, fun actions hundisturbed => ?_,
    fun action => finishes_of_attempt⟩
  · rw [state_aside haside hopen]
    exact ⟨rfl, rfl, rfl⟩
  · rw [run_aside hundisturbed]
    exact ⟨rfl, rfl, rfl⟩

-- A result is shown when the timer fires between two drafts, of which the first is not taken. In
-- the second stretch a timer is forced that has fired, and one answer is blank.
theorem frame_between_modes_in_background :
    ∃ session desk later,
      Session.start { lexicon := .standard }
        [{ id := "platform", text := "Which platform?", keyword := "in" },
          { id := "colour", text := "Which colour?", keyword := "background" }] 5.0 "wiz_1" =
          .ok session ∧
      run { sheet := { lexicon := .standard }, session } [.advance "Swift", .advance "FF"] = desk ∧
      desk.session.completing = true ∧
      desk.run [.edit "*for*", .fire 0 false, .edit "*for* web", .finishEditing, .place "in" ""] =
        later ∧
      later.session = (desk.run [.fire 0 false]).session ∧ later.session.completing = false ∧
      later.sheet.prompt.text = "*for* web" ∧
      (later.attempt (.insertShortcut "w")).state.session = later.session ∧
      (later.attempt (.advance "Swift")).state.draft = "*for* web" ∧
      (later.run [.advance "Swift", .fire 0 true, .back, .skip, .advance " ", .pressKey "-",
        .close]).sheet = later.sheet := by
  refine ⟨_, _, _, rfl, rfl, by decide, rfl, ?_, by decide, by decide, ?_, ?_, ?_⟩
  · exact (frame_between_modes _).2.2.1 [.edit "*for*", .fire 0 false, .edit "*for* web",
      .finishEditing, .place "in" ""] (by decide)
  · exact (frame_between_modes _).1 (.insertShortcut "w") rfl
  · exact ((frame_between_modes _).2.1 (.advance "Swift") rfl
      (fun answer hanswer => by cases hanswer; decide)).2.1
  · exact ((frame_between_modes _).2.2.2.1 [.advance "Swift", .fire 0 true, .back, .skip,
      .advance " ", .pressKey "-", .close] (by decide)).1

end ClausePrompt.Desk
