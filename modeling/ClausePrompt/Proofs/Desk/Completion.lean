import ClausePrompt.Lexicon.Standard
import ClausePrompt.Proofs.Desk.Run
import ClausePrompt.Proofs.Interview.Result

namespace ClausePrompt.Desk

-- The draft and the prompt are what came of the interview, and nothing is typed.
structure Shows (desk : Desk) : Prop where
  draft : desk.session.interview.result = some desk.draft
  prompt : desk.session.interview.result = some desk.sheet.prompt.text
  typing : desk.typing = false

theorem attempt_of_direct {desk : Desk} {action : Action}
    (hcompleting : desk.session.completing = true) (h : action.direct = true) :
    desk.attempt action = desk.conflict locked := by
  have hlocked : desk.directEnabled = false := by simp [directEnabled, hcompleting]
  cases action with
  | edit text => simp only [attempt, edit, hlocked]; rfl
  | insertShortcut key => simp only [attempt, insertShortcut, hlocked]; rfl
  | finishEditing => simp only [attempt, finishEditing, hlocked]; rfl
  | place typed raw => simp only [attempt, place, hlocked]; rfl
  | advance | skip | back | pressKey | reset | close | fire => cases h

namespace Shows

variable {desk : Desk}

theorem completed (h : desk.Shows) : desk.session.interview.completed = true := by
  simp [Interview.completed, h.draft]

theorem interviewEnabled (h : desk.Shows) : desk.interviewEnabled = true := by
  simp [Desk.interviewEnabled, interviewAllowed, h.typing]

theorem advance (h : desk.Shows) (answer : String) :
    (desk.advance answer).outcome = refuse Interview.finished ∧
      (desk.advance answer).state = desk := by
  obtain ⟨houtcome, hstate⟩ :=
    Session.advance_of_completed h.completed answer (some desk.sheet.limit)
  rw [Desk.advance, if_pos h.interviewEnabled]
  simp only [houtcome, refuse]
  exact ⟨houtcome, congrArg desk.withSession hstate⟩

theorem guide (h : desk.Shows) (move : Move) {outcome : Outcome Interview}
    (hpassing : desk.session.interview.Passing outcome) :
    (desk.guide (desk.session.take move outcome)).outcome = refuse Interview.finished ∧
      (desk.guide (desk.session.take move outcome)).state = desk := by
  obtain ⟨houtcome, hstate⟩ := Session.take_of_completed h.completed move hpassing
  rw [Desk.guide, if_pos h.interviewEnabled]
  exact ⟨houtcome, congrArg desk.withSession hstate⟩

theorem pressKey (h : desk.Shows) (key : String) :
    ∃ reason, (desk.pressKey key).outcome = refuse (.invalidTransition reason) ∧
      (desk.pressKey key).state = desk := by
  unfold Desk.pressKey
  split
  · exact ⟨_, h.guide .back desk.session.interview.passing_back⟩
  · exact ⟨_, h.guide .skip desk.session.interview.passing_skip⟩
  · exact ⟨_, rfl, rfl⟩

-- The interview takes no move while its result is shown.
theorem attempt_of_guided (h : desk.Shows) {action : Action} (hguided : action.guided = true) :
    ∃ reason, (desk.attempt action).outcome = refuse (.invalidTransition reason) ∧
      (desk.attempt action).state = desk := by
  cases action with
  | advance answer => exact ⟨_, Step.outcome_discard (h.advance answer).1, (h.advance answer).2⟩
  | skip =>
    obtain ⟨houtcome, hstate⟩ := h.guide .skip desk.session.interview.passing_skip
    exact ⟨_, Step.outcome_discard houtcome, hstate⟩
  | back =>
    obtain ⟨houtcome, hstate⟩ := h.guide .back desk.session.interview.passing_back
    exact ⟨_, Step.outcome_discard houtcome, hstate⟩
  | pressKey key =>
    obtain ⟨reason, houtcome, hstate⟩ := h.pressKey key
    exact ⟨reason, Step.outcome_discard houtcome, hstate⟩
  | edit | insertShortcut | finishEditing | place | reset | close | fire => cases hguided

-- A result that is shown stays as it is, or is not shown any more.
theorem attempt (h : desk.Shows) (hbefore : desk.session.completing = true) {action : Action}
    (hafter : (desk.attempt action).state.session.completing = true) :
    (desk.attempt action).state.Shows := by
  by_cases hdirect : action.direct = true
  · rw [attempt_of_direct hbefore hdirect]
    exact h
  by_cases hguided : action.guided = true
  · obtain ⟨reason, -, hstate⟩ := h.attempt_of_guided hguided
    rw [hstate]
    exact h
  cases action with
  | edit | insertShortcut | finishEditing | place => exact absurd rfl hdirect
  | advance | skip | back | pressKey => exact absurd rfl hguided
  | reset id => cases hafter
  | close => cases hafter
  | fire i force =>
    obtain ⟨-, hinterview⟩ := Session.completing_of_fire hafter
    exact ⟨hinterview ▸ h.draft, hinterview ▸ h.prompt, h.typing⟩

end Shows

theorem advance_of_result {desk : Desk} {answer result : String} {next : Interview}
    (henabled : desk.interviewEnabled = true)
    (houtcome : (desk.session.advance answer (some desk.sheet.limit)).outcome = .ok next)
    (hresult : next.result = some result) :
    desk.advance answer =
      desk.takeResult (desk.session.advance answer (some desk.sheet.limit)) result := by
  obtain ⟨questions, index, answers, transcript, _, hlt⟩ := next
  obtain rfl := hresult
  rw [advance, if_pos henabled]
  simp only [houtcome]

-- The result always loads: it is the text of clauses that were read, and the limit it was made
-- under is not above the limit of the sheet.
theorem load_of_result {desk : Desk} (hcoupled : desk.Coupled) {answer result : String}
    {next : Interview}
    (hadvance : desk.session.interview.advance
      (desk.session.termsWithin (some desk.sheet.limit)) answer = .ok next)
    (hresult : next.result = some result) :
    ∃ prompt : Prompt, prompt.text = result ∧ (desk.sheet.load result).outcome = .ok prompt ∧
      (desk.sheet.load result).state = { desk.sheet with prompt } := by
  obtain ⟨prompt, haccepted, hlength, rfl⟩ := Interview.result_of_advance hadvance hresult
  rw [Session.lexicon_termsWithin, ← hcoupled.lexicon] at haccepted
  have hfits : prompt.length ≤ desk.sheet.limit := by
    by_cases hzero : desk.sheet.limit = 0
    · have hown := hcoupled.limit hzero
      simp only [Session.termsWithin, if_pos hzero] at hlength
      omega
    · simpa only [Session.termsWithin, if_neg hzero] using hlength
  exact ⟨prompt.tidy, Prompt.text_tidy prompt, Sheet.load_text haccepted hfits⟩

theorem shows_of_advance {desk : Desk} (hfitted : desk.Fitted) {answer : String}
    (hbefore : desk.session.completing = false)
    (hafter : (desk.advance answer).state.session.completing = true) :
    (desk.advance answer).state.Shows := by
  have henabled : desk.interviewEnabled = true := by
    by_contra hdisabled
    rw [session_advance, if_neg hdisabled] at hafter
    simp [hbefore] at hafter
  rw [session_advance, if_pos henabled] at hafter
  obtain ⟨next, result, hadvance, hresult, hinterview⟩ :=
    Session.exists_result_of_advance hbefore hafter
  have houtcome := Session.outcome_advance desk.session answer (some desk.sheet.limit)
  rw [hadvance] at houtcome
  obtain ⟨prompt, rfl, hloaded, hsheet⟩ := load_of_result hfitted.coupled hadvance hresult
  rw [advance_of_result henabled houtcome hresult]
  simp only [takeResult, hloaded, hsheet]
  exact ⟨hinterview ▸ hresult, hinterview ▸ hresult, rfl⟩

theorem completing_guide (desk : Desk) (move : Move) (outcome : Outcome Interview) :
    (desk.guide (desk.session.take move outcome)).state.session.completing =
      desk.session.completing := by
  rw [session_guide, Session.state_take]
  split <;> rfl

theorem completing_pressKey (desk : Desk) (key : String) :
    (desk.pressKey key).state.session.completing = desk.session.completing := by
  unfold pressKey
  split
  · exact completing_guide desk .back _
  · exact completing_guide desk .skip _
  · rfl

-- Of all actions only an answer makes a desk show a result.
theorem completing_of_attempt {desk : Desk} {action : Action}
    (hanswer : ∀ answer, action ≠ .advance answer)
    (hafter : (desk.attempt action).state.session.completing = true) :
    desk.session.completing = true := by
  cases action with
  | advance answer => exact absurd rfl (hanswer answer)
  | edit | insertShortcut | finishEditing | place => rwa [session_of_direct desk rfl] at hafter
  | skip | back => exact (completing_guide desk _ _).symm.trans hafter
  | pressKey key => exact (completing_pressKey desk key).symm.trans hafter
  | reset id => cases hafter
  | close => cases hafter
  | fire i force => exact (Session.completing_of_fire hafter).1

theorem shows_attempt {desk : Desk} (hfitted : desk.Fitted)
    (h : desk.session.completing = true → desk.Shows) {action : Action}
    (hafter : (desk.attempt action).state.session.completing = true) :
    (desk.attempt action).state.Shows := by
  cases hbefore : desk.session.completing with
  | false =>
    by_cases hanswer : ∃ answer, action = .advance answer
    · obtain ⟨answer, rfl⟩ := hanswer
      exact shows_of_advance hfitted hbefore hafter
    · have hshown := completing_of_attempt (not_exists.mp hanswer) hafter
      simp [hbefore] at hshown
  | true => exact (h hbefore).attempt hbefore hafter

theorem shows_run {desk : Desk} (hfitted : desk.Fitted)
    (h : desk.session.completing = true → desk.Shows) (actions : List Action)
    (hafter : (desk.run actions).session.completing = true) : (desk.run actions).Shows := by
  induction actions generalizing desk with
  | nil => exact h hafter
  | cons action actions ih =>
    exact ih (hfitted.attempt action) (fun hshown => shows_attempt hfitted h hshown) hafter

-- While a result is shown it is the draft and the text of the prompt, nothing is typed, and the
-- desk takes neither what the author writes nor a move of the interview. A desk on which no result
-- is shown yet may be in any other state to begin with.
theorem result_of_run (desk : Desk) (hlexicon : desk.sheet.lexicon = desk.session.terms.lexicon)
    (hlimit : desk.sheet.limit ≠ 0) (hhidden : desk.session.completing = false)
    (actions : List Action) (hshown : (desk.run actions).session.completing = true) :
    (desk.run actions).session.interview.completed = true ∧
    (desk.run actions).session.interview.result = some (desk.run actions).draft ∧
    (desk.run actions).session.interview.result = some (desk.run actions).sheet.prompt.text ∧
    (desk.run actions).typing = false ∧
    (∀ action : Action, action.direct = true →
      ∃ reason, ((desk.run actions).attempt action).outcome = refuse (.modeConflict reason) ∧
        ((desk.run actions).attempt action).state = desk.run actions) ∧
    ∀ action : Action, action.guided = true →
      ∃ reason, ((desk.run actions).attempt action).outcome = refuse (.invalidTransition reason) ∧
        ((desk.run actions).attempt action).state = desk.run actions := by
  have hstart : desk.session.completing = true → desk.Shows := by
    intro hshown
    simp [hhidden] at hshown
  have hshows := shows_run ⟨hlexicon, hlimit⟩ hstart actions hshown
  refine ⟨hshows.completed, hshows.draft, hshows.prompt, hshows.typing, ?_, ?_⟩
  · intro action hdirect
    rw [attempt_of_direct hshown hdirect]
    exact ⟨_, rfl, rfl⟩
  · intro action hguided
    exact hshows.attempt_of_guided hguided

-- What is typed keeps the first answer away, and the prompt it becomes makes way for the second.
theorem result_of_run_background :
    ∃ session desk,
      Session.start { lexicon := .standard }
        [{ id := "colour", text := "Which colour?", keyword := "background" }] 5.0 "wiz_1" =
          .ok session ∧
      run { sheet := { lexicon := .standard }, session }
        [.edit "*in* swift", .advance "00", .finishEditing, .advance " FF ", .edit "late"] =
          desk ∧
      desk.session.completing = true ∧
      desk.session.interview.result = some desk.sheet.prompt.text ∧
      desk.draft = "*background* ff" ∧
      ∃ reason, (desk.attempt (.pressKey "-")).outcome = refuse (.invalidTransition reason) ∧
        (desk.attempt (.pressKey "-")).state = desk := by
  refine ⟨_, _, rfl, rfl, by decide, ?_, by decide, ?_⟩
  · exact (result_of_run _ rfl (by decide) rfl _ (by decide)).2.2.1
  · exact (result_of_run _ rfl (by decide) rfl _ (by decide)).2.2.2.2.2 (.pressKey "-") rfl

end ClausePrompt.Desk
