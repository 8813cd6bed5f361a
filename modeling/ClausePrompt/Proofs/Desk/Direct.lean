import ClausePrompt.Proofs.Desk.Modes

namespace ClausePrompt.Desk

variable {desk : Desk} {failure : Failure}

theorem state_edit_of_error {text : String} (h : (desk.edit text).outcome = .error failure) :
    (desk.edit text).state = desk := by
  unfold edit at h ⊢
  split at h
  · cases h
  · rename_i hlocked
    rw [if_neg hlocked]
    rfl

theorem state_insertShortcut_of_error {key : String}
    (h : (desk.insertShortcut key).outcome = .error failure) :
    (desk.insertShortcut key).state = desk := by
  unfold insertShortcut at h ⊢
  split at h
  · rename_i hdirect
    rw [if_pos hdirect]
    cases hfound : desk.sheet.lexicon.byShortcut? key with
    | none => rfl
    | some keyword => simp [hfound] at h
  · rename_i hlocked
    rw [if_neg hlocked]
    rfl

theorem place_of_error {typed raw : String} (hdirect : desk.directEnabled = true)
    (h : (desk.sheet.place typed raw).outcome = .error failure) :
    desk.place typed raw =
      (desk.sheet.place typed raw).within fun sheet => { desk with sheet } := by
  rw [place, if_pos hdirect]
  simp only [h]

theorem place_of_ok {typed raw : String} {prompt : Prompt} (hdirect : desk.directEnabled = true)
    (h : (desk.sheet.place typed raw).outcome = .ok prompt) :
    desk.place typed raw =
      (desk.sheet.place typed raw).within fun sheet =>
        { desk with sheet, draft := prompt.text } := by
  rw [place, if_pos hdirect]
  simp only [h]

theorem state_place_of_error {typed raw : String}
    (h : (desk.place typed raw).outcome = .error failure) :
    (desk.place typed raw).state = desk := by
  by_cases hdirect : desk.directEnabled = true
  · cases houtcome : (desk.sheet.place typed raw).outcome with
    | ok prompt =>
      rw [place_of_ok hdirect houtcome] at h
      cases houtcome.symm.trans h
    | error failure =>
      rw [place_of_error hdirect houtcome, Step.within, Sheet.state_place_of_error houtcome]
  · rw [place, if_neg hdirect]
    rfl

-- The typing is over before the draft is read, whether or not it can be. While a result is shown
-- nothing is typed in any case.
theorem state_finishEditing_of_error (hexclusive : desk.Exclusive)
    (h : desk.finishEditing.outcome = .error failure) :
    desk.finishEditing.state = { desk with typing := false } := by
  by_cases hdirect : desk.directEnabled = true
  · rw [finishEditing, if_pos hdirect] at h ⊢
    rw [Step.within, Sheet.state_load_of_error h]
  · have htyping : desk.typing = false :=
      Bool.eq_false_iff.mpr (mt hexclusive.directEnabled_of_typing hdirect)
    rw [finishEditing, if_neg hdirect, ← htyping]
    rfl

theorem state_attempt_of_error {action : Action} (hdirect : action.direct = true)
    (hfinish : action ≠ .finishEditing) (h : (desk.attempt action).outcome = .error failure) :
    (desk.attempt action).state = desk := by
  cases action with
  | edit text => exact state_edit_of_error (Outcome.map_eq_error_iff.mp h)
  | insertShortcut key => exact state_insertShortcut_of_error (Outcome.map_eq_error_iff.mp h)
  | place typed raw => exact state_place_of_error (Outcome.map_eq_error_iff.mp h)
  | finishEditing => exact absurd rfl hfinish
  | advance | skip | back | pressKey | reset | close | fire => cases hdirect

-- What the author writes in vain changes nothing, with one exception: a draft that cannot be read
-- is not typed any more, so that the interview does not wait for it.
theorem direct_failed_of_run (sheet : Sheet) (session : Session) (actions : List Action)
    (desk : Desk) (hrun : run { sheet, session } actions = desk) (action : Action)
    (hdirect : action.direct = true) (failure : Failure)
    (hfailed : (desk.attempt action).outcome = .error failure) :
    (action ≠ .finishEditing ∨ desk.typing = false → (desk.attempt action).state = desk) ∧
    (action = .finishEditing →
      (desk.attempt action).state = { desk with typing := false } ∧
      (desk.typing = true →
        desk.interviewEnabled = false ∧ (desk.attempt action).state.interviewEnabled = true ∧
        desk.directEnabled = true ∧ (desk.attempt action).state.directEnabled = true)) := by
  have hstart : Exclusive { sheet, session } := .of_not_typing rfl
  have hexclusive : desk.Exclusive := hrun ▸ hstart.run actions
  by_cases hfinish : action = .finishEditing
  · subst hfinish
    have hstate : (desk.attempt .finishEditing).state = { desk with typing := false } :=
      state_finishEditing_of_error hexclusive (Outcome.map_eq_error_iff.mp hfailed)
    rw [hstate]
    refine ⟨fun hquiet => ?_, fun _ => ⟨rfl, fun htyping => ?_⟩⟩
    · have htyping : desk.typing = false := hquiet.resolve_left fun hne => hne rfl
      rw [← htyping]
    · have hwaits : desk.interviewEnabled = false := by
        simp [interviewEnabled, interviewAllowed, htyping, hexclusive.draft htyping]
      have henabled := hexclusive.directEnabled_of_typing htyping
      exact ⟨hwaits, rfl, henabled, henabled⟩
  · exact ⟨fun _ => state_attempt_of_error hdirect hfinish hfailed, fun h => absurd h hfinish⟩

-- A clause without an argument is refused while a draft is typed.
theorem direct_failed_of_run_in :
    ∃ session desk,
      Session.start { lexicon := .standard }
        [{ id := "colour", text := "Which colour?", keyword := "background" }] 5.0 "wiz_1" =
          .ok session ∧
      run { sheet := { lexicon := .standard }, session }
        [.place "in" "swift", .insertShortcut "w"] = desk ∧
      desk.typing = true ∧
      (desk.attempt (.place "in" " ")).outcome =
        refuse (.malformed (some "in") "argument is empty") ∧
      (desk.attempt (.place "in" " ")).state = desk := by
  refine ⟨_, _, rfl, rfl, by decide, by decide, ?_⟩
  exact (direct_failed_of_run _ _ _ _ rfl (.place "in" " ") rfl
    (.refused (.malformed (some "in") "argument is empty")) (by decide)).1 (.inl (by decide))

-- The draft ends in a keyword without an argument. It cannot be read, and yet the interview may go
-- on without it.
theorem direct_failed_of_typed :
    ∃ session desk,
      Session.start { lexicon := .standard }
        [{ id := "colour", text := "Which colour?", keyword := "background" }] 5.0 "wiz_1" =
          .ok session ∧
      run { sheet := { lexicon := .standard }, session } [.edit "*in*"] = desk ∧
      (desk.attempt .finishEditing).outcome =
        refuse ((Refusal.malformed (some "in") "argument is empty").atClause 0) ∧
      desk.typing = true ∧ (desk.attempt .finishEditing).state.typing = false ∧
      desk.interviewEnabled = false ∧
      (desk.attempt .finishEditing).state.interviewEnabled = true :=
  ⟨_, _, rfl, rfl, by decide, by decide, by decide, by decide, by decide⟩

end ClausePrompt.Desk
