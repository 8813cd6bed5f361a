import ClausePrompt.Desk
import ClausePrompt.Proofs.Session.Run
import ClausePrompt.Proofs.Sheet.Run

namespace ClausePrompt

-- The step without the value it gives.
def Step.discard {σ α : Type} (step : Step σ α) : Step σ Unit :=
  { outcome := step.outcome.map fun _ => ()
    state := step.state
    log := step.log
    marks := step.marks }

theorem Step.outcome_discard {σ α : Type} {step : Step σ α} {failure : Failure}
    (h : step.outcome = .error failure) : step.discard.outcome = .error failure := by
  rw [discard, h]
  rfl

namespace Desk

-- What can happen to a desk.
inductive Action where
  | edit (text : String)
  | insertShortcut (key : String)
  | finishEditing
  | place (typed raw : String)
  | advance (answer : String)
  | skip
  | back
  | pressKey (key : String)
  | reset (id : String)
  | close
  | fire (i : Nat) (force : Bool)
  deriving DecidableEq

namespace Action

-- The author writes to the draft or to the prompt.
def direct : Action → Bool
  | .edit _ | .insertShortcut _ | .finishEditing | .place _ _ => true
  | _ => false

-- The author is guided by the interview.
def guided : Action → Bool
  | .advance _ | .skip | .back | .pressKey _ => true
  | _ => false

end Action

def attempt (desk : Desk) : Action → Step Desk Unit
  | .edit text => (desk.edit text).discard
  | .insertShortcut key => (desk.insertShortcut key).discard
  | .finishEditing => desk.finishEditing.discard
  | .place typed raw => (desk.place typed raw).discard
  | .advance answer => (desk.advance answer).discard
  | .skip => desk.skip.discard
  | .back => desk.back.discard
  | .pressKey key => (desk.pressKey key).discard
  | .reset id => (desk.reset id).discard
  | .close => { outcome := .ok (), state := desk.close }
  | .fire i force => (desk.fire i force).discard

def run (desk : Desk) (actions : List Action) : Desk :=
  actions.foldl (fun desk action => (desk.attempt action).state) desk

@[simp] theorem run_nil (desk : Desk) : desk.run [] = desk := rfl

@[simp] theorem run_cons (desk : Desk) (action : Action) (actions : List Action) :
    desk.run (action :: actions) = (desk.attempt action).state.run actions := rfl

-- What an action comes to for the session. While a draft is typed the interview is left alone.
def sessionAction? (desk : Desk) : Action → Option Session.Action
  | .advance answer =>
    if desk.interviewEnabled then some (.advance answer (some desk.sheet.limit)) else none
  | .skip => if desk.interviewEnabled then some .skip else none
  | .back => if desk.interviewEnabled then some .back else none
  | .pressKey key =>
    match moveOfKey? key with
    | some .back => if desk.interviewEnabled then some .back else none
    | some .skip => if desk.interviewEnabled then some .skip else none
    | _ => none
  | .reset id => some (.restart id)
  | .close => some .close
  | .fire i force => some (.fire i force)
  | _ => none

theorem session_takeResult (desk : Desk) (step : Step Session Interview) (result : String) :
    (desk.takeResult step result).state.session = step.state := by
  unfold takeResult
  dsimp only
  split <;> rfl

theorem session_advance (desk : Desk) (answer : String) :
    (desk.advance answer).state.session =
      if desk.interviewEnabled then
        (desk.session.advance answer (some desk.sheet.limit)).state
      else desk.session := by
  unfold advance
  split
  · dsimp only
    split
    · exact session_takeResult desk _ _
    · rfl
  · rfl

theorem session_guide (desk : Desk) (step : Step Session Interview) :
    (desk.guide step).state.session =
      if desk.interviewEnabled then step.state else desk.session := by
  unfold guide
  split <;> rfl

theorem session_of_direct (desk : Desk) {action : Action} (h : action.direct = true) :
    (desk.attempt action).state.session = desk.session := by
  cases action with
  | edit text =>
    simp only [attempt, Step.discard, edit]
    split <;> rfl
  | insertShortcut key =>
    simp only [attempt, Step.discard, insertShortcut]
    split
    · split <;> rfl
    · rfl
  | finishEditing =>
    simp only [attempt, Step.discard, finishEditing]
    split <;> rfl
  | place typed raw =>
    simp only [attempt, Step.discard, place]
    split
    · split <;> rfl
    · rfl
  | advance | skip | back | pressKey | reset | close | fire => cases h

-- The session of a desk takes part in nothing but its own actions.
theorem session_attempt (desk : Desk) (action : Action) :
    (desk.attempt action).state.session =
      desk.session.run (desk.sessionAction? action).toList := by
  cases action with
  | edit | insertShortcut | finishEditing | place => exact session_of_direct desk rfl
  | advance answer =>
    refine (session_advance desk answer).trans ?_
    simp only [sessionAction?]
    split <;> rfl
  | skip | back =>
    refine (session_guide desk _).trans ?_
    simp only [sessionAction?]
    split <;> rfl
  | pressKey key =>
    simp only [attempt, Step.discard, pressKey, sessionAction?]
    cases moveOfKey? key with
    | none => rfl
    | some move =>
      cases move with
      | advance => rfl
      | skip | back =>
        refine (session_guide desk _).trans ?_
        split <;> rfl
  | reset id => rfl
  | close => rfl
  | fire i force => rfl

theorem eq_advance_of_sessionAction? {desk : Desk} {action : Action} {answer : String}
    {limit : Option Int} (h : desk.sessionAction? action = some (.advance answer limit)) :
    action = .advance answer := by
  cases action with
  | advance found =>
    simp only [sessionAction?] at h
    split at h
    · cases h
      rfl
    · cases h
  | pressKey key =>
    simp only [sessionAction?] at h
    split at h <;> simp at h
  | edit | insertShortcut | finishEditing | place | skip | back | reset | close | fire =>
    simp [sessionAction?] at h

-- What an action comes to for the sheet. An answer reaches it only with the result of a finished
-- interview.
def sheetAction? (desk : Desk) : Action → Option Sheet.Action
  | .finishEditing => if desk.directEnabled then some (.load desk.draft) else none
  | .place typed raw => if desk.directEnabled then some (.place typed raw) else none
  | .advance answer =>
    if desk.interviewEnabled then
      match (desk.session.advance answer (some desk.sheet.limit)).outcome with
      | .ok { result := some result, .. } => some (.load result)
      | _ => none
    else none
  | .reset _ => some .clear
  | _ => none

theorem sheet_takeResult (desk : Desk) (step : Step Session Interview) (result : String) :
    (desk.takeResult step result).state.sheet = (desk.sheet.load result).state := by
  unfold takeResult
  dsimp only
  split <;> rfl

theorem sheet_advance (desk : Desk) (answer : String) :
    (desk.advance answer).state.sheet =
      desk.sheet.run (desk.sheetAction? (.advance answer)).toList := by
  simp only [advance, sheetAction?]
  split
  · cases houtcome : (desk.session.advance answer (some desk.sheet.limit)).outcome with
    | error failure => rfl
    | ok next =>
      obtain ⟨questions, index, answers, transcript, result, hlt⟩ := next
      cases result with
      | none => rfl
      | some result => exact sheet_takeResult desk _ result
  · rfl

theorem sheet_place (desk : Desk) (typed raw : String) :
    (desk.place typed raw).state.sheet =
      desk.sheet.run (desk.sheetAction? (.place typed raw)).toList := by
  simp only [place, sheetAction?]
  split
  · split <;> rfl
  · rfl

theorem sheet_guide (desk : Desk) (step : Step Session Interview) :
    (desk.guide step).state.sheet = desk.sheet := by
  unfold guide
  split <;> rfl

theorem sheet_pressKey (desk : Desk) (key : String) :
    (desk.pressKey key).state.sheet = desk.sheet := by
  unfold pressKey
  split
  · exact sheet_guide desk _
  · exact sheet_guide desk _
  · rfl

-- The sheet of a desk takes part in nothing but its own actions either.
theorem sheet_attempt (desk : Desk) (action : Action) :
    (desk.attempt action).state.sheet = desk.sheet.run (desk.sheetAction? action).toList := by
  cases action with
  | edit text =>
    simp only [attempt, Step.discard, edit]
    split <;> rfl
  | insertShortcut key =>
    simp only [attempt, Step.discard, insertShortcut]
    split
    · split <;> rfl
    · rfl
  | finishEditing =>
    simp only [attempt, Step.discard, finishEditing, sheetAction?]
    split <;> rfl
  | place typed raw => exact sheet_place desk typed raw
  | advance answer => exact sheet_advance desk answer
  | skip | back => exact sheet_guide desk _
  | pressKey key => exact sheet_pressKey desk key
  | reset id => rfl
  | close => rfl
  | fire i force => rfl

theorem exists_sheet_run (desk : Desk) (actions : List Action) :
    ∃ taken, (desk.run actions).sheet = desk.sheet.run taken := by
  induction actions generalizing desk with
  | nil => exact ⟨[], rfl⟩
  | cons action actions ih =>
    obtain ⟨taken, hrest⟩ := ih (desk.attempt action).state
    refine ⟨(desk.sheetAction? action).toList ++ taken, ?_⟩
    rw [run_cons, hrest, sheet_attempt, Sheet.run_append]

-- The lexicon and the limit of the prompt are given once and for all.
theorem settings_attempt (desk : Desk) (action : Action) :
    (desk.attempt action).state.sheet.lexicon = desk.sheet.lexicon ∧
      (desk.attempt action).state.sheet.limit = desk.sheet.limit := by
  rw [sheet_attempt]
  exact desk.sheet.settings_run _

theorem terms_attempt (desk : Desk) (action : Action) :
    (desk.attempt action).state.session.terms = desk.session.terms := by
  rw [session_attempt]
  exact (Session.settings_run desk.session _).1

-- The prompt and the interview are read under one lexicon, and the prompt has a limit.
structure Fitted (desk : Desk) : Prop where
  lexicon : desk.sheet.lexicon = desk.session.terms.lexicon
  limit : desk.sheet.limit ≠ 0

theorem Fitted.attempt {desk : Desk} (h : desk.Fitted) (action : Action) :
    (desk.attempt action).state.Fitted := by
  obtain ⟨hlexicon, hlimit⟩ := settings_attempt desk action
  constructor
  · rw [hlexicon, terms_attempt]
    exact h.lexicon
  · rw [hlimit]
    exact h.limit

-- The prompt and the interview are read under one lexicon, and a prompt that may hold nothing does
-- not leave the interview a limit of its own.
structure Coupled (desk : Desk) : Prop where
  lexicon : desk.sheet.lexicon = desk.session.terms.lexicon
  limit : desk.sheet.limit = 0 → desk.session.terms.limit ≤ 0

theorem Fitted.coupled {desk : Desk} (h : desk.Fitted) : desk.Coupled :=
  ⟨h.lexicon, fun hzero => absurd hzero h.limit⟩

theorem Coupled.attempt {desk : Desk} (h : desk.Coupled) (action : Action) :
    (desk.attempt action).state.Coupled := by
  obtain ⟨hlexicon, hlimit⟩ := settings_attempt desk action
  constructor
  · rw [hlexicon, terms_attempt]
    exact h.lexicon
  · rw [hlimit, terms_attempt]
    exact h.limit

theorem Coupled.run {desk : Desk} (h : desk.Coupled) (actions : List Action) :
    (desk.run actions).Coupled := by
  induction actions generalizing desk with
  | nil => exact h
  | cons action actions ih => exact ih (h.attempt action)

end Desk

end ClausePrompt
