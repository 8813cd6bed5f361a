import ClausePrompt.Proofs.Prompt.Entries
import ClausePrompt.Sheet

namespace ClausePrompt.Sheet

-- The sheet after the clauses of entries were placed one after another.
def enter (sheet : Sheet) (entries : List (String × String)) : Sheet :=
  entries.foldl (fun sheet entry => (sheet.place entry.1 entry.2).state) sheet

-- What comes of placing each of them.
def outcomes : Sheet → List (String × String) → List (Outcome Prompt)
  | _, [] => []
  | sheet, entry :: entries =>
    let step := sheet.place entry.1 entry.2
    step.outcome :: step.state.outcomes entries

theorem place_of_fits {sheet : Sheet} {typed raw : String} {clause : Clause}
    (hread : Clause.read sheet.lexicon typed raw = .ok clause)
    (hfits : (sheet.prompt.place clause).length ≤ sheet.limit) :
    (sheet.place typed raw).outcome = .ok (sheet.prompt.place clause) ∧
      (sheet.place typed raw).state = { sheet with prompt := sheet.prompt.place clause } := by
  have hlimit : ¬ sheet.limit < (sheet.prompt.place clause).length := Int.not_lt.mpr hfits
  rw [place, hread]
  dsimp only
  rw [if_neg hlimit]
  exact ⟨rfl, rfl⟩

theorem place_of_exceeds {sheet : Sheet} {typed raw : String} {clause : Clause}
    (hread : Clause.read sheet.lexicon typed raw = .ok clause)
    (hlong : sheet.limit < (sheet.prompt.place clause).length) :
    (sheet.place typed raw).outcome =
      refuse (.malformed (some clause.keyword.id) (Prompt.wouldExceed sheet.limit)) := by
  simp only [place, hread, if_pos hlong]
  rfl

-- Entries that only add to the prompt are all taken if the prompt fits in the end, since no prompt
-- on the way is longer.
theorem enter_of_fits (sheet : Sheet) {entries : List (String × String)} {last : Prompt}
    (hids : (sheet.prompt.keywords ++ sheet.lexicon.ids (entries.map (·.1))).Nodup)
    (h : entries.foldlM (Prompt.enter sheet.lexicon) sheet.prompt = .ok last)
    (hfits : last.length ≤ sheet.limit) :
    (∀ outcome ∈ sheet.outcomes entries, ∃ prompt, outcome = .ok prompt) ∧
      sheet.enter entries = { sheet with prompt := last } := by
  induction entries generalizing sheet with
  | nil =>
    obtain rfl : sheet.prompt = last := Except.ok.inj h
    exact ⟨fun outcome hmem => absurd hmem List.not_mem_nil, rfl⟩
  | cons entry entries ih =>
    rw [List.foldlM_cons] at h
    obtain ⟨next, hnext, hrest⟩ := Outcome.bind_eq_ok_iff.mp h
    obtain ⟨clause, hread, rfl⟩ := Outcome.map_eq_ok_iff.mp hnext
    obtain ⟨-, hids'⟩ := Prompt.nodup_place hread hids
    obtain ⟨clauses, -, hclauses⟩ := Prompt.clauses_of_foldlM_enter hids' hrest
    have hgrows : (sheet.prompt.place clause).length ≤ last.length := by
      have hlength := Prompt.length_le_append (sheet.prompt.place clause).clauses clauses
      rwa [← hclauses] at hlength
    obtain ⟨houtcome, hstate⟩ := place_of_fits hread (by omega)
    have hstep := ih { sheet with prompt := sheet.prompt.place clause } hids' hrest hfits
    rw [outcomes, enter, List.foldl_cons, hstate, List.forall_mem_cons]
    exact ⟨⟨⟨_, houtcome⟩, hstep.1⟩, hstep.2⟩

-- If the prompt does not fit in the end, one of the entries made it too long.
theorem exceeds_of_long (sheet : Sheet) {entries : List (String × String)} {last : Prompt}
    (h : entries.foldlM (Prompt.enter sheet.lexicon) sheet.prompt = .ok last)
    (hfits : sheet.prompt.length ≤ sheet.limit) (hlong : sheet.limit < last.length) :
    ∃ keyword, refuse (.malformed (some keyword) (Prompt.wouldExceed sheet.limit)) ∈
      sheet.outcomes entries := by
  induction entries generalizing sheet with
  | nil =>
    obtain rfl : sheet.prompt = last := Except.ok.inj h
    omega
  | cons entry entries ih =>
    rw [List.foldlM_cons] at h
    obtain ⟨next, hnext, hrest⟩ := Outcome.bind_eq_ok_iff.mp h
    obtain ⟨clause, hread, rfl⟩ := Outcome.map_eq_ok_iff.mp hnext
    rw [outcomes]
    by_cases hplaced : sheet.limit < (sheet.prompt.place clause).length
    · refine ⟨clause.keyword.id, ?_⟩
      rw [place_of_exceeds hread hplaced]
      exact List.mem_cons_self
    · have hnow : (sheet.prompt.place clause).length ≤ sheet.limit := Int.not_lt.mp hplaced
      obtain ⟨-, hstate⟩ := place_of_fits hread hnow
      obtain ⟨keyword, hmem⟩ :=
        ih { sheet with prompt := sheet.prompt.place clause } hrest hnow hlong
      refine ⟨keyword, ?_⟩
      rw [hstate]
      exact List.mem_cons_of_mem _ hmem

end ClausePrompt.Sheet
