import ClausePrompt.Lexicon.Standard
import ClausePrompt.Proofs.Prompt.Length
import ClausePrompt.Proofs.Sheet.Run

namespace ClausePrompt.Sheet

-- The allowance is what a prompt may grow beyond the text that it is read from. Placing a clause
-- uses none of it.
theorem length_perform {allowance : Prompt → Nat} {sheet : Sheet} (hlimit : 0 ≤ sheet.limit)
    (h : sheet.prompt.length ≤ sheet.limit + allowance sheet.prompt) {action : Action}
    (hload : ∀ text, action = .load text → ∀ prompt,
      Prompt.parse sheet.lexicon text = .ok prompt →
        prompt.length ≤ text.length + allowance prompt) :
    (sheet.perform action).prompt.length ≤
      sheet.limit + allowance (sheet.perform action).prompt := by
  cases action with
  | place typed raw =>
    obtain hsame | ⟨clause, -, hfits, hstate⟩ := state_place sheet typed raw
    · rw [perform, hsame]
      exact h
    · rw [perform, hstate]
      dsimp only
      omega
  | load text =>
    obtain hsame | ⟨prompt, hparse, hfits, hstate⟩ := state_load sheet text
    · rw [perform, hsame]
      exact h
    · have hgrown := hload text rfl prompt hparse
      rw [perform, hstate]
      dsimp only
      omega
  | clear =>
    have hempty : (sheet.perform .clear).prompt.length = 0 := rfl
    omega

theorem length_run (allowance : Prompt → Nat) (sheet : Sheet) (hlimit : 0 ≤ sheet.limit)
    (h : sheet.prompt.length ≤ sheet.limit + allowance sheet.prompt) {actions : List Action}
    (hloads : ∀ text, .load text ∈ actions → ∀ prompt,
      Prompt.parse sheet.lexicon text = .ok prompt →
        prompt.length ≤ text.length + allowance prompt) :
    (sheet.run actions).prompt.length ≤ sheet.limit + allowance (sheet.run actions).prompt := by
  induction actions generalizing sheet with
  | nil => exact h
  | cons action actions ih =>
    obtain ⟨hlexicon, hsame⟩ := settings_perform sheet action
    have hnext := length_perform hlimit h fun text haction =>
      hloads text (haction ▸ List.mem_cons_self)
    rw [← hsame] at hlimit hnext ⊢
    refine ih _ hlimit hnext fun text hmem => ?_
    rw [hlexicon]
    exact hloads text (List.mem_cons_of_mem action hmem)

-- The limit is on the prompt where a clause is placed, but on the text where a text is loaded, so
-- that a prompt may be longer than its limit by what the texts left out. If no text leaves
-- anything out the limit is kept, and the sheet takes its own text back.
theorem length_of_run (lexicon : Lexicon) (limit : Int) (hlimit : 0 ≤ limit)
    (actions : List Action) (sheet : Sheet) (hrun : run { lexicon, limit } actions = sheet) :
    sheet.prompt.length ≤ limit + (3 * sheet.prompt.clauses.length - 2 : Nat) ∧
    ((∀ text, .load text ∈ actions → ∀ prompt, Prompt.parse lexicon text = .ok prompt →
        prompt.length ≤ text.length) →
      sheet.prompt.length ≤ limit ∧
      (sheet.load sheet.prompt.text).outcome = .ok sheet.prompt.tidy) := by
  subst hrun
  have hempty : (({} : Prompt).length : Int) = 0 := rfl
  constructor
  · refine length_run (fun prompt => 3 * prompt.clauses.length - 2) { lexicon, limit } hlimit ?_
      fun text _ prompt hparse => Prompt.length_of_parse hparse
    dsimp only
    omega
  · intro hloads
    have hlength := length_run (fun _ => 0) { lexicon, limit } hlimit (by dsimp only; omega) hloads
    have hfits : (run { lexicon, limit } actions).prompt.length ≤ limit := by simpa using hlength
    have haccepted : (run { lexicon, limit } actions).prompt.Accepted
        (run { lexicon, limit } actions).lexicon :=
      accepted_run (Prompt.accepted_empty lexicon) actions
    obtain ⟨-, hsame⟩ := settings_run { lexicon, limit } actions
    exact ⟨hfits, (load_text haccepted (by rwa [hsame])).1⟩

-- A text with more blanks than it needs, and a clause that fills the prompt up to its limit.
theorem length_of_run_in_for :
    ∃ sheet,
      run { lexicon := .standard, limit := 22 }
        [.load "*in*  swift ", .place "for" "web", .place "create" "x", .load "*in*"] = sheet ∧
      sheet.prompt.text = "*in* swift | *for* web" ∧
      sheet.prompt.length ≤ (22 : Int) ∧
      (sheet.load sheet.prompt.text).outcome = .ok sheet.prompt.tidy := by
  refine ⟨_, rfl, by decide, (length_of_run .standard 22 (by decide) _ _ rfl).2 ?_⟩
  intro text hmem prompt hparse
  simp only [List.mem_cons, reduceCtorEq, Action.load.injEq, List.not_mem_nil, or_false,
    false_or] at hmem
  obtain rfl | rfl := hmem
  · have hread : Prompt.parse .standard "*in*  swift " = .ok ⟨[_]⟩ := rfl
    obtain rfl := Except.ok.inj (hread.symm.trans hparse)
    decide
  · have hread : Prompt.parse .standard "*in*" = .error _ := rfl
    cases hread.symm.trans hparse

-- A text without the blank after its keyword is read as a prompt of one character more.
theorem length_of_run_compact :
    ∃ sheet,
      run { lexicon := .standard, limit := 5 } [.load "*in*x"] = sheet ∧
      sheet.prompt.text = "*in* x" ∧ (5 : Int) < sheet.prompt.length ∧
      (sheet.load sheet.prompt.text).outcome = refuse (.malformed none (exceeds 5)) :=
  ⟨_, rfl, by decide, by decide, by decide⟩

end ClausePrompt.Sheet
