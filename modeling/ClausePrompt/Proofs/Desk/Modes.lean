import ClausePrompt.Proofs.Desk.Completion
import ClausePrompt.Proofs.Sheet.Run

namespace ClausePrompt.Desk

-- What is typed is not blank, and nothing is typed while a result is shown.
structure Exclusive (desk : Desk) : Prop where
  draft : desk.typing = true → Text.allBlank desk.draft.toList = false
  hidden : desk.typing = true → desk.session.completing = false

-- Where nothing is typed the two modes cannot get into each other's way.
theorem Exclusive.of_not_typing {desk : Desk} (h : desk.typing = false) : desk.Exclusive := by
  constructor <;> simp [h]

-- The interview waits exactly as long as something is typed.
theorem Exclusive.interviewEnabled_iff {desk : Desk} (h : desk.Exclusive) :
    desk.interviewEnabled = true ↔ desk.typing = false := by
  cases htyping : desk.typing with
  | false => simp [interviewEnabled, interviewAllowed, htyping]
  | true => simp [interviewEnabled, interviewAllowed, htyping, h.draft htyping]

-- What is typed can always be finished.
theorem Exclusive.directEnabled_of_typing {desk : Desk} (h : desk.Exclusive)
    (htyping : desk.typing = true) : desk.directEnabled = true := by
  simp [directEnabled, h.hidden htyping]

theorem completing_of_directEnabled {desk : Desk} (h : desk.directEnabled = true) :
    desk.session.completing = false := by
  simpa [directEnabled] using h

theorem allBlank_extendDraft (draft : String) (keyword : Keyword) :
    Text.allBlank (extendDraft draft keyword.insertion).toList = false := by
  have hinsertion : '*' ∈ keyword.insertion.toList := by simp [Keyword.insertion]
  have hdraft : '*' ∈ (extendDraft draft keyword.insertion).toList := by
    unfold extendDraft
    dsimp only
    split
    · exact hinsertion
    · rw [String.toList_append]
      exact List.mem_append_right _ hinsertion
  exact Text.allBlank_eq_false_of_mem hdraft (by decide)

-- A move that brings out no result changes nothing but the session.
theorem state_guide (desk : Desk) (step : Step Session Interview) :
    (desk.guide step).state = desk.withSession (desk.guide step).state.session := by
  unfold guide
  split <;> rfl

theorem state_pressKey (desk : Desk) (key : String) :
    (desk.pressKey key).state = desk.withSession (desk.pressKey key).state.session := by
  unfold pressKey
  split
  · exact state_guide desk _
  · exact state_guide desk _
  · rfl

-- An answer never begins the typing of a draft.
theorem typing_of_advance {desk : Desk} {answer : String}
    (h : (desk.advance answer).state.typing = true) : desk.typing = true := by
  unfold advance at h
  split at h
  · dsimp only at h
    split at h
    · unfold takeResult at h
      dsimp only at h
      split at h
      · cases h
      · exact h
    · exact h
  · exact h

namespace Exclusive

variable {desk : Desk}

theorem edit (h : desk.Exclusive) (text : String) : (desk.edit text).state.Exclusive := by
  unfold Desk.edit
  split
  · rename_i hdirect
    have hhidden := completing_of_directEnabled hdirect
    exact ⟨fun htyping => by simpa using htyping, fun _ => hhidden⟩
  · exact h

theorem finishEditing (h : desk.Exclusive) : desk.finishEditing.state.Exclusive := by
  unfold Desk.finishEditing
  split
  · exact of_not_typing rfl
  · exact h

-- A clause may be placed while a draft is typed. The draft becomes the text of a prompt, which has
-- at least that clause.
theorem place (h : desk.Exclusive) (typed raw : String) :
    (desk.place typed raw).state.Exclusive := by
  unfold Desk.place
  split
  · rename_i hdirect
    have hhidden := completing_of_directEnabled hdirect
    dsimp only
    split
    · rename_i prompt hplaced
      obtain ⟨clause, -, -, rfl, -⟩ := Sheet.place_eq_ok hplaced
      have hmem := Prompt.asterisk_mem_text (Prompt.clauses_place_ne_nil desk.sheet.prompt clause)
      exact ⟨fun _ => Text.allBlank_eq_false_of_mem hmem (by decide), fun _ => hhidden⟩
    · exact ⟨h.draft, h.hidden⟩
  · exact h

theorem insertShortcut (h : desk.Exclusive) (key : String) :
    (desk.insertShortcut key).state.Exclusive := by
  unfold Desk.insertShortcut
  split
  · rename_i hdirect
    have hhidden := completing_of_directEnabled hdirect
    split
    · exact h
    · rename_i keyword _
      exact ⟨fun _ => allBlank_extendDraft desk.draft keyword, fun _ => hhidden⟩
  · exact h

-- While a draft is typed an answer is not taken, and otherwise it leaves nothing typed.
theorem advance (h : desk.Exclusive) (answer : String) : (desk.advance answer).state.Exclusive := by
  cases henabled : desk.interviewEnabled with
  | false =>
    rw [Desk.advance, henabled]
    exact h
  | true =>
    have htyping := h.interviewEnabled_iff.mp henabled
    refine of_not_typing ?_
    cases hafter : (desk.advance answer).state.typing with
    | false => rfl
    | true =>
      have hbefore := typing_of_advance hafter
      simp [htyping] at hbefore

-- A move that changes nothing but the session is harmless unless it shows a result.
theorem withSession (h : desk.Exclusive) {session : Session}
    (hshown : session.completing = true → desk.session.completing = true) :
    (desk.withSession session).Exclusive := by
  refine ⟨h.draft, fun htyping => ?_⟩
  have hhidden := h.hidden htyping
  cases hcompleting : session.completing with
  | false => exact hcompleting
  | true => simp [hshown hcompleting] at hhidden

theorem guide (h : desk.Exclusive) (move : Move) (outcome : Outcome Interview) :
    (desk.guide (desk.session.take move outcome)).state.Exclusive := by
  rw [state_guide]
  exact h.withSession fun hshown => (completing_guide desk move outcome).symm.trans hshown

theorem pressKey (h : desk.Exclusive) (key : String) : (desk.pressKey key).state.Exclusive := by
  rw [state_pressKey]
  exact h.withSession fun hshown => (completing_pressKey desk key).symm.trans hshown

theorem attempt (h : desk.Exclusive) (action : Action) :
    (desk.attempt action).state.Exclusive := by
  cases action with
  | edit text => exact h.edit text
  | insertShortcut key => exact h.insertShortcut key
  | finishEditing => exact h.finishEditing
  | place typed raw => exact h.place typed raw
  | advance answer => exact h.advance answer
  | skip | back => exact h.guide _ _
  | pressKey key => exact h.pressKey key
  | reset id => exact of_not_typing rfl
  | close => exact h.withSession fun hshown => nomatch hshown
  | fire i force =>
    exact h.withSession fun hshown => (Session.completing_of_fire hshown).1

theorem run (h : desk.Exclusive) (actions : List Action) : (desk.run actions).Exclusive := by
  induction actions generalizing desk with
  | nil => exact h
  | cons action actions ih => exact ih (h.attempt action)

end Exclusive

-- The two modes never wait for each other. A desk begins with nothing typed, whatever its prompt
-- and its session are by then; from there on something is typed only while there is a draft to
-- finish and no result to wait for.
theorem modes_of_run (sheet : Sheet) (session : Session) (actions : List Action) :
    ((run { sheet, session } actions).typing = true →
      Text.allBlank (run { sheet, session } actions).draft.toList = false ∧
      (run { sheet, session } actions).session.completing = false) ∧
    ((run { sheet, session } actions).interviewEnabled = true ↔
      (run { sheet, session } actions).typing = false) ∧
    ((run { sheet, session } actions).interviewEnabled = true ∨
      (run { sheet, session } actions).directEnabled = true) := by
  have hstart : Exclusive { sheet, session } := .of_not_typing rfl
  have hexclusive := hstart.run actions
  refine ⟨fun htyping => ⟨hexclusive.draft htyping, hexclusive.hidden htyping⟩,
    hexclusive.interviewEnabled_iff, ?_⟩
  cases htyping : (run { sheet, session } actions).typing with
  | false => exact .inl (hexclusive.interviewEnabled_iff.mpr htyping)
  | true => exact .inr (hexclusive.directEnabled_of_typing htyping)

-- A clause that is placed while a draft is typed leaves a draft that is still typed.
theorem modes_of_run_typing :
    ∃ session desk,
      Session.start { lexicon := .standard }
        [{ id := "colour", text := "Which colour?", keyword := "background" }] 5.0 "wiz_1" =
          .ok session ∧
      run { sheet := { lexicon := .standard }, session }
        [.advance "FF", .fire 0 false, .edit "*for*", .place "in" "swift", .skip] = desk ∧
      desk.typing = true ∧ desk.draft = "*background* ff | *in* swift" ∧
      desk.session.completing = false ∧ desk.interviewEnabled = false ∧
      desk.directEnabled = true := by
  refine ⟨_, _, rfl, rfl, by decide, by decide, ?_, by decide, by decide⟩
  exact ((modes_of_run _ _ _).1 (by decide)).2

end ClausePrompt.Desk
