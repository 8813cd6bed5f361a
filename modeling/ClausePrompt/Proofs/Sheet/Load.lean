import ClausePrompt.Proofs.Prompt.RoundTrip
import ClausePrompt.Sheet

namespace ClausePrompt.Sheet

theorem settings_load (sheet : Sheet) (text : String) :
    (sheet.load text).state.lexicon = sheet.lexicon ∧
      (sheet.load text).state.limit = sheet.limit := by
  unfold load
  split
  · exact ⟨rfl, rfl⟩
  · split <;> exact ⟨rfl, rfl⟩

theorem settings_place (sheet : Sheet) (typed raw : String) :
    (sheet.place typed raw).state.lexicon = sheet.lexicon ∧
      (sheet.place typed raw).state.limit = sheet.limit := by
  unfold place
  split
  · exact ⟨rfl, rfl⟩
  · exact ⟨rfl, rfl⟩
  · dsimp only
    split <;> exact ⟨rfl, rfl⟩

-- A text within the limit is loaded if it can be read.
theorem load_of_parse {sheet : Sheet} {text : String} {prompt : Prompt}
    (h : Prompt.parse sheet.lexicon text = .ok prompt) (hfits : text.length ≤ sheet.limit) :
    (sheet.load text).outcome = .ok prompt ∧
      (sheet.load text).state = { sheet with prompt } := by
  rw [load, if_neg (Int.not_lt.mpr hfits), h]
  exact ⟨rfl, rfl⟩

-- A sheet takes the text of clauses that were read, as far as its limit allows.
theorem load_text {sheet : Sheet} {prompt : Prompt} (h : prompt.Accepted sheet.lexicon)
    (hlimit : prompt.length ≤ sheet.limit) :
    (sheet.load prompt.text).outcome = .ok prompt.tidy ∧
      (sheet.load prompt.text).state = { sheet with prompt := prompt.tidy } :=
  load_of_parse (Prompt.parse_text h) hlimit

end ClausePrompt.Sheet
