import ClausePrompt.Proofs.Prompt.Place
import ClausePrompt.Proofs.Sheet.Load

namespace ClausePrompt.Sheet

-- What can happen to a sheet.
inductive Action where
  | place (typed raw : String)
  | load (text : String)
  | clear
  deriving DecidableEq

def perform (sheet : Sheet) : Action → Sheet
  | .place typed raw => (sheet.place typed raw).state
  | .load text => (sheet.load text).state
  | .clear => sheet.clear

def run (sheet : Sheet) (actions : List Action) : Sheet := actions.foldl perform sheet

@[simp] theorem run_nil (sheet : Sheet) : sheet.run [] = sheet := rfl

@[simp] theorem run_cons (sheet : Sheet) (action : Action) (actions : List Action) :
    sheet.run (action :: actions) = (sheet.perform action).run actions := rfl

theorem run_append (sheet : Sheet) (first second : List Action) :
    sheet.run (first ++ second) = (sheet.run first).run second := by
  simp [run]

-- A clause is placed if it was read and the prompt stays within its limit. Nothing else happens.
theorem state_place (sheet : Sheet) (typed raw : String) :
    (sheet.place typed raw).state = sheet ∨
      ∃ clause, Clause.read sheet.lexicon typed raw = .ok clause ∧
        (sheet.prompt.place clause).length ≤ sheet.limit ∧
        (sheet.place typed raw).state = { sheet with prompt := sheet.prompt.place clause } := by
  unfold place
  cases hread : Clause.read sheet.lexicon typed raw with
  | error failure => cases failure <;> exact .inl rfl
  | ok clause =>
    dsimp only
    split
    · exact .inl rfl
    · exact .inr ⟨clause, rfl, by omega, rfl⟩

-- What comes of placing a clause is the prompt that has it.
theorem place_eq_ok {sheet : Sheet} {typed raw : String} {prompt : Prompt}
    (h : (sheet.place typed raw).outcome = .ok prompt) :
    ∃ clause, Clause.read sheet.lexicon typed raw = .ok clause ∧
      prompt.length ≤ sheet.limit ∧ prompt = sheet.prompt.place clause ∧
      (sheet.place typed raw).state = { sheet with prompt } := by
  unfold place at h ⊢
  cases hread : Clause.read sheet.lexicon typed raw with
  | error failure => cases failure <;> simp [hread, reject, refuse, Step.failed] at h
  | ok clause =>
    simp only [hread] at h ⊢
    split at h
    · cases h
    · rename_i hfits
      obtain rfl := Except.ok.inj h
      rw [if_neg hfits]
      exact ⟨clause, rfl, by omega, rfl, rfl⟩

-- A text is loaded if it is within the limit itself and every piece of it was read.
theorem state_load (sheet : Sheet) (text : String) :
    (sheet.load text).state = sheet ∨
      ∃ prompt, Prompt.parse sheet.lexicon text = .ok prompt ∧ text.length ≤ sheet.limit ∧
        (sheet.load text).state = { sheet with prompt } := by
  unfold load
  split
  · exact .inl rfl
  · cases hparse : Prompt.parse sheet.lexicon text with
    | error failure => cases failure <;> exact .inl rfl
    | ok prompt => exact .inr ⟨prompt, rfl, by omega, rfl⟩

-- A clause that is not placed and a text that is not loaded leave the sheet as it is.
theorem state_place_of_error {sheet : Sheet} {typed raw : String} {failure : Failure}
    (h : (sheet.place typed raw).outcome = .error failure) :
    (sheet.place typed raw).state = sheet := by
  unfold place at h ⊢
  cases hread : Clause.read sheet.lexicon typed raw with
  | error failure => cases failure <;> rfl
  | ok clause =>
    simp only [hread] at h ⊢
    split at h
    · rename_i hlong
      rw [if_pos hlong]
      rfl
    · cases h

theorem state_load_of_error {sheet : Sheet} {text : String} {failure : Failure}
    (h : (sheet.load text).outcome = .error failure) : (sheet.load text).state = sheet := by
  unfold load at h ⊢
  split
  · rfl
  · rename_i hfits
    rw [if_neg hfits] at h
    cases hparse : Prompt.parse sheet.lexicon text with
    | error failure => cases failure <;> rfl
    | ok prompt => simp [hparse] at h

theorem settings_perform (sheet : Sheet) (action : Action) :
    (sheet.perform action).lexicon = sheet.lexicon ∧
      (sheet.perform action).limit = sheet.limit := by
  cases action with
  | place typed raw => exact settings_place sheet typed raw
  | load text => exact settings_load sheet text
  | clear => exact ⟨rfl, rfl⟩

theorem settings_run (sheet : Sheet) (actions : List Action) :
    (sheet.run actions).lexicon = sheet.lexicon ∧ (sheet.run actions).limit = sheet.limit := by
  induction actions generalizing sheet with
  | nil => exact ⟨rfl, rfl⟩
  | cons action actions ih =>
    obtain ⟨hlexicon, hlimit⟩ := settings_perform sheet action
    obtain ⟨hrestLexicon, hrestLimit⟩ := ih (sheet.perform action)
    exact ⟨hrestLexicon.trans hlexicon, hrestLimit.trans hlimit⟩

-- The prompt of a sheet consists of clauses that were read under its lexicon.
theorem accepted_perform {sheet : Sheet} (h : sheet.prompt.Accepted sheet.lexicon)
    (action : Action) : (sheet.perform action).prompt.Accepted (sheet.perform action).lexicon := by
  cases action with
  | place typed raw =>
    obtain hsame | ⟨clause, hread, -, hstate⟩ := state_place sheet typed raw
    · rw [perform, hsame]
      exact h
    · rw [perform, hstate]
      exact h.place ⟨typed, raw, hread⟩
  | load text =>
    obtain hsame | ⟨prompt, hparse, -, hstate⟩ := state_load sheet text
    · rw [perform, hsame]
      exact h
    · rw [perform, hstate]
      exact (Prompt.accepted_of_parse hparse).1
  | clear => exact Prompt.accepted_empty sheet.lexicon

theorem accepted_run {sheet : Sheet} (h : sheet.prompt.Accepted sheet.lexicon)
    (actions : List Action) :
    (sheet.run actions).prompt.Accepted (sheet.run actions).lexicon := by
  induction actions generalizing sheet with
  | nil => exact h
  | cons action actions ih => exact ih (accepted_perform h action)

end ClausePrompt.Sheet
