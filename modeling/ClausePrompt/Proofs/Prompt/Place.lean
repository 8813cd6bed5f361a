import ClausePrompt.Proofs.Prompt.RoundTrip

namespace ClausePrompt.Prompt

theorem mem_placeIn {clause c : Clause} {cs : List Clause} (h : c ∈ placeIn clause cs) :
    c = clause ∨ c ∈ cs := by
  induction cs with
  | nil => exact .inl (List.mem_singleton.mp h)
  | cons d cs ih =>
    rw [placeIn] at h
    split at h
    · exact (List.mem_cons.mp h).imp_right (List.mem_cons_of_mem d)
    · obtain rfl | hmem := List.mem_cons.mp h
      · exact .inr List.mem_cons_self
      · exact (ih hmem).imp_right (List.mem_cons_of_mem d)

theorem clauses_place_ne_nil (prompt : Prompt) (clause : Clause) :
    (prompt.place clause).clauses ≠ [] := by
  obtain ⟨clauses⟩ := prompt
  cases clauses with
  | nil => exact List.cons_ne_nil clause []
  | cons first rest =>
    simp only [place, placeIn]
    split <;> exact List.cons_ne_nil _ _

theorem accepted_empty (lexicon : Lexicon) : Prompt.Accepted lexicon {} :=
  fun _ hmem => absurd hmem List.not_mem_nil

theorem Accepted.place {lexicon : Lexicon} {prompt : Prompt} {clause : Clause}
    (h : prompt.Accepted lexicon) (hclause : clause.Accepted lexicon) :
    (prompt.place clause).Accepted lexicon := by
  intro c hc
  obtain rfl | hmem := mem_placeIn hc
  · exact hclause
  · exact h c hmem

end ClausePrompt.Prompt
