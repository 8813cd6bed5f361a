import ClausePrompt.Proofs.Desk.Completion

namespace ClausePrompt.Desk

-- The session takes an answer before the sheet takes the result. A result that the sheet refused
-- would leave the session finished; under one lexicon and one limit there is none.
theorem state_of_advance_error {desk : Desk} (hcoupled : desk.Coupled) {answer : String}
    {failure : Failure} (h : (desk.advance answer).outcome = .error failure) :
    (desk.advance answer).state = desk := by
  by_cases henabled : desk.interviewEnabled = true
  · have houtcome := Session.outcome_advance desk.session answer (some desk.sheet.limit)
    have hstate := Session.state_advance desk.session answer (some desk.sheet.limit)
    cases hadvance : desk.session.interview.advance
        (desk.session.termsWithin (some desk.sheet.limit)) answer with
    | error inner =>
      rw [hadvance] at houtcome hstate
      rw [advance, if_pos henabled]
      simp only [houtcome]
      exact congrArg desk.withSession hstate
    | ok next =>
      rw [hadvance] at houtcome
      cases hresult : next.result with
      | none =>
        obtain ⟨questions, index, answers, transcript, _, hlt⟩ := next
        obtain rfl := hresult
        rw [advance, if_pos henabled] at h
        simp only [houtcome] at h
        cases houtcome.symm.trans h
      | some result =>
        obtain ⟨prompt, -, hloaded, -⟩ := load_of_result hcoupled hadvance hresult
        rw [advance_of_result henabled houtcome hresult] at h
        simp only [takeResult, hloaded] at h
        cases houtcome.symm.trans h
  · rw [advance, if_neg henabled]
    rfl

-- An answer that fails changes nothing at all, in whatever state the desk is by then.
theorem advance_failed_of_run (desk : Desk)
    (hlexicon : desk.sheet.lexicon = desk.session.terms.lexicon)
    (hlimit : desk.sheet.limit = 0 → desk.session.terms.limit ≤ 0) (actions : List Action)
    (answer : String) (failure : Failure)
    (hfailed : ((desk.run actions).advance answer).outcome = .error failure) :
    ((desk.run actions).advance answer).state = desk.run actions :=
  state_of_advance_error (Coupled.run ⟨hlexicon, hlimit⟩ actions) hfailed

-- The first answer leads to a result of one character more than the prompt may hold.
theorem advance_failed_of_run_background :
    ∃ session desk,
      Session.start { lexicon := .standard }
        [{ id := "colour", text := "Which colour?", keyword := "background" }] 5.0 "wiz_1" =
          .ok session ∧
      run { sheet := { lexicon := .standard, limit := 14 }, session }
        [.edit "*in* swift", .finishEditing] = desk ∧
      (desk.advance "FF").outcome =
        refuse (.malformed (some "background") (Prompt.wouldExceed 14)) ∧
      (desk.advance "FF").state = desk ∧
      (desk.advance "F").state.session.completing = true := by
  refine ⟨_, _, rfl, rfl, by decide, ?_, by decide⟩
  exact advance_failed_of_run _ rfl (by decide) _ "FF" _ rfl

-- A limit of zero counts as none for the session, which finishes the interview and sets a timer
-- before the sheet refuses the result.
theorem advance_failed_of_zero_limit :
    ∃ (session : Session) (desk : Desk),
      Session.start { lexicon := .standard }
        [{ id := "colour", text := "Which colour?", keyword := "background" }] 5.0 "wiz_1" =
          .ok session ∧
      desk = { sheet := { lexicon := .standard, limit := 0 }, session } ∧
      desk.sheet.lexicon = desk.session.terms.lexicon ∧
      (desk.advance "FF").outcome = refuse (.malformed none (Sheet.exceeds 0)) ∧
      desk.session.interview.completed = false ∧ desk.session.completing = false ∧
      desk.session.timers = [] ∧
      (desk.advance "FF").state.session.interview.completed = true ∧
      (desk.advance "FF").state.session.completing = true ∧
      (desk.advance "FF").state.session.timers.length = 1 := by
  exact ⟨_, _, rfl, rfl, rfl, by decide, rfl, rfl, rfl, by decide, by decide, by decide⟩

end ClausePrompt.Desk
