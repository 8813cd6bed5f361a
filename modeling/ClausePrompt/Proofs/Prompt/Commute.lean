import ClausePrompt.Lexicon.Standard
import ClausePrompt.Proofs.Prompt.Entries

namespace ClausePrompt.Prompt

variable {first second clause : Clause} {cs : List Clause}

theorem placeIn_cons_of_eq {c : Clause} (h : c.keyword.id = clause.keyword.id)
    (cs : List Clause) : placeIn clause (c :: cs) = clause :: cs := by
  rw [placeIn, if_pos h]

theorem placeIn_cons_of_ne {c : Clause} (h : c.keyword.id ≠ clause.keyword.id)
    (cs : List Clause) : placeIn clause (c :: cs) = c :: placeIn clause cs := by
  rw [placeIn, if_neg h]

-- Of two clauses of one keyword only the later one is left.
theorem placeIn_placeIn_of_eq (h : first.keyword.id = second.keyword.id) (cs : List Clause) :
    placeIn second (placeIn first cs) = placeIn second cs := by
  induction cs with
  | nil => exact placeIn_cons_of_eq h []
  | cons c cs ih =>
    by_cases hc : c.keyword.id = first.keyword.id
    · rw [placeIn_cons_of_eq hc, placeIn_cons_of_eq h, placeIn_cons_of_eq (hc.trans h)]
    · have hc' : c.keyword.id ≠ second.keyword.id := h ▸ hc
      rw [placeIn_cons_of_ne hc, placeIn_cons_of_ne hc', placeIn_cons_of_ne hc', ih]

-- A clause of a keyword that is there has its place already, so that it does not matter when it
-- comes. Up to that place the other clause may have found its own.
theorem placeIn_comm_of_mem (hne : first.keyword.id ≠ second.keyword.id)
    (hmem : first.keyword.id ∈ cs.map (·.keyword.id)) :
    placeIn second (placeIn first cs) = placeIn first (placeIn second cs) := by
  induction cs with
  | nil => cases hmem
  | cons c cs ih =>
    by_cases hfirst : c.keyword.id = first.keyword.id
    · have hsecond : c.keyword.id ≠ second.keyword.id := hfirst ▸ hne
      rw [placeIn_cons_of_eq hfirst, placeIn_cons_of_ne hne, placeIn_cons_of_ne hsecond,
        placeIn_cons_of_eq hfirst]
    · have hrest := (List.mem_cons.mp hmem).resolve_left (Ne.symm hfirst)
      rw [placeIn_cons_of_ne hfirst]
      by_cases hsecond : c.keyword.id = second.keyword.id
      · rw [placeIn_cons_of_eq hsecond, placeIn_cons_of_eq hsecond,
          placeIn_cons_of_ne (Ne.symm hne)]
      · rw [placeIn_cons_of_ne hsecond, placeIn_cons_of_ne hsecond, placeIn_cons_of_ne hfirst,
          ih hrest]

theorem keywords_placeIn_of_mem (h : clause.keyword.id ∈ cs.map (·.keyword.id)) :
    (placeIn clause cs).map (·.keyword.id) = cs.map (·.keyword.id) := by
  induction cs with
  | nil => cases h
  | cons c cs ih =>
    by_cases hc : c.keyword.id = clause.keyword.id
    · rw [placeIn_cons_of_eq hc, List.map_cons, List.map_cons, hc]
    · have hrest := (List.mem_cons.mp h).resolve_left (Ne.symm hc)
      rw [placeIn_cons_of_ne hc, List.map_cons, List.map_cons, ih hrest]

-- A clause brings its keyword with it, unless the prompt has it.
theorem keywords_place (prompt : Prompt) (clause : Clause) :
    (prompt.place clause).keywords =
      if clause.keyword.id ∈ prompt.keywords then prompt.keywords
      else prompt.keywords ++ [clause.keyword.id] := by
  split
  · rename_i hmem
    exact keywords_placeIn_of_mem hmem
  · rename_i hnew
    rw [place_of_not_mem hnew, keywords, List.map_append]
    rfl

-- A prompt in which no keyword comes twice stays so.
theorem nodup_keywords_place {prompt : Prompt} (h : prompt.keywords.Nodup) (clause : Clause) :
    (prompt.place clause).keywords.Nodup := by
  rw [keywords_place]
  split
  · exact h
  · rename_i hnew
    exact List.nodup_append_comm.mp (List.nodup_cons.mpr ⟨hnew, h⟩)

-- Clauses of two keywords that are new stand in the order in which they came.
theorem place_place_of_new {prompt : Prompt} (hne : first.keyword.id ≠ second.keyword.id)
    (hfirst : first.keyword.id ∉ prompt.keywords)
    (hsecond : second.keyword.id ∉ prompt.keywords) :
    (prompt.place first).place second = ⟨prompt.clauses ++ [first, second]⟩ := by
  have hafter : second.keyword.id ∉ (prompt.place first).keywords := by
    rw [keywords_place, if_neg hfirst, List.mem_append, List.mem_singleton]
    exact not_or.mpr ⟨hsecond, Ne.symm hne⟩
  rw [place_of_not_mem hafter, place_of_not_mem hfirst, List.append_assoc]
  rfl

theorem place_comm_iff {prompt : Prompt} (hne : first.keyword.id ≠ second.keyword.id) :
    (prompt.place first).place second = (prompt.place second).place first ↔
      first.keyword.id ∈ prompt.keywords ∨ second.keyword.id ∈ prompt.keywords := by
  constructor
  · intro hcomm
    by_contra hnew
    obtain ⟨hfirst, hsecond⟩ := not_or.mp hnew
    rw [place_place_of_new hne hfirst hsecond, place_place_of_new (Ne.symm hne) hsecond hfirst,
      Prompt.mk.injEq, List.append_cancel_left_eq] at hcomm
    exact hne (congrArg (·.keyword.id) (List.cons.inj hcomm).1)
  · rintro (hmem | hmem)
    · exact congrArg Prompt.mk (placeIn_comm_of_mem hne hmem)
    · exact congrArg Prompt.mk (placeIn_comm_of_mem (Ne.symm hne) hmem).symm

-- Of two clauses of one keyword the later one is left. Two clauses of different keywords may come
-- in either order, except where both keywords are new: these go to the end, one after the other.
theorem place_absorbs_or_commutes (prompt : Prompt) (first second : Clause) :
    (first.keyword.id = second.keyword.id →
      (prompt.place first).place second = prompt.place second) ∧
    (first.keyword.id ≠ second.keyword.id →
      ((prompt.place first).place second = (prompt.place second).place first ↔
        first.keyword.id ∈ prompt.keywords ∨ second.keyword.id ∈ prompt.keywords)) ∧
    (first.keyword.id ∈ prompt.keywords → (prompt.place first).keywords = prompt.keywords) ∧
    (first.keyword.id ∉ prompt.keywords →
      (prompt.place first).keywords = prompt.keywords ++ [first.keyword.id]) := by
  refine ⟨fun heq => ?_, place_comm_iff, fun hmem => ?_, fun hnew => ?_⟩
  · exact congrArg Prompt.mk (placeIn_placeIn_of_eq heq prompt.clauses)
  · rw [keywords_place, if_pos hmem]
  · rw [keywords_place, if_neg hnew]

-- A prompt that has a keyword twice, a clause of that keyword, and clauses of two that are new.
theorem place_absorbs_or_commutes_repeated :
    ∃ prompt swift card button,
      parse .standard "*in* a | *for* b | *in* c" = .ok prompt ∧
      Clause.read .standard "in" "swift" = .ok swift ∧
      Clause.read .standard "create" "card" = .ok card ∧
      Clause.read .standard "rare" "button" = .ok button ∧
      (prompt.place swift).text = "*in* swift | *for* b | *in* c" ∧
      (prompt.place swift).place card = (prompt.place card).place swift ∧
      (prompt.place card).place button ≠ (prompt.place button).place card ∧
      (prompt.place card).keywords = ["in", "for", "in", "create"] := by
  refine ⟨_, _, _, _, rfl, rfl, rfl, rfl, by decide +kernel, ?_, fun hcomm => ?_, by decide⟩
  · exact ((place_absorbs_or_commutes _ _ _).2.1 (by decide)).mpr (.inl (by decide))
  · have hknown := ((place_absorbs_or_commutes _ _ _).2.1 (by decide)).mp hcomm
    exact absurd hknown (by decide)

end ClausePrompt.Prompt
