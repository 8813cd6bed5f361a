import ClausePrompt.Proofs.Prompt.Entries
import Mathlib.Data.List.Induction

namespace ClausePrompt.Prompt

-- The last of the clauses of a keyword.
def latest? (clauses : List Clause) (id : String) : Option Clause :=
  clauses.reverse.find? (·.keyword.id = id)

-- The clauses of the prompt, where the first one of every keyword gives way to the latest.
def renewed (prompt : Prompt) (clauses : List Clause) : List Clause :=
  prompt.clauses.mapIdx fun i old =>
    if prompt.indexOf? old.keyword.id = some i then (latest? clauses old.keyword.id).getD old
    else old

-- The keywords that the prompt does not have, in the order in which they come first.
def newcomers (prompt : Prompt) (clauses : List Clause) : List String :=
  ((clauses.map (·.keyword.id)).filter (· ∉ prompt.keywords)).eraseDups

def overlay (prompt : Prompt) (clauses : List Clause) : Prompt :=
  ⟨prompt.renewed clauses ++ (prompt.newcomers clauses).filterMap (latest? clauses)⟩

section Latest

theorem latest?_append_singleton (clauses : List Clause) (clause : Clause) (id : String) :
    latest? (clauses ++ [clause]) id =
      if clause.keyword.id = id then some clause else latest? clauses id := by
  rw [latest?, List.reverse_append, List.reverse_singleton, List.singleton_append, List.find?_cons]
  by_cases hid : clause.keyword.id = id <;> simp [hid, latest?]

theorem keyword_of_latest? {clauses : List Clause} {id : String} {clause : Clause}
    (h : latest? clauses id = some clause) : clause.keyword.id = id := by
  simpa using List.find?_some h

theorem exists_latest? {clauses : List Clause} {id : String}
    (h : id ∈ clauses.map (·.keyword.id)) : ∃ clause, latest? clauses id = some clause := by
  obtain ⟨clause, hclause, hid⟩ := List.mem_map.mp h
  rw [← Option.isSome_iff_exists, latest?, List.find?_isSome]
  exact ⟨clause, List.mem_reverse.mpr hclause, by simpa using hid⟩

-- Ids that all have a latest clause are the ids of these clauses.
theorem keywords_filterMap_latest? {clauses : List Clause} {ids : List String}
    (h : ∀ id ∈ ids, id ∈ clauses.map (·.keyword.id)) :
    (ids.filterMap (latest? clauses)).map (·.keyword.id) = ids := by
  induction ids with
  | nil => rfl
  | cons id ids ih =>
    rw [List.forall_mem_cons] at h
    obtain ⟨clause, hclause⟩ := exists_latest? h.1
    rw [List.filterMap_cons_some hclause, List.map_cons, keyword_of_latest? hclause, ih h.2]

end Latest

section Newcomers

theorem mem_newcomers {prompt : Prompt} {clauses : List Clause} {id : String} :
    id ∈ prompt.newcomers clauses ↔
      id ∈ clauses.map (·.keyword.id) ∧ id ∉ prompt.keywords := by
  rw [newcomers, List.mem_eraseDups, List.mem_filter, decide_eq_true_iff]

theorem mem_keywords_of_mem_newcomers (prompt : Prompt) (clauses : List Clause) :
    ∀ id ∈ prompt.newcomers clauses, id ∈ clauses.map (·.keyword.id) :=
  fun _ hid => (mem_newcomers.mp hid).1

theorem eraseDups_append_singleton (ids : List String) (id : String) :
    (ids ++ [id]).eraseDups = if id ∈ ids then ids.eraseDups else ids.eraseDups ++ [id] := by
  rw [List.eraseDups_append]
  by_cases hid : id ∈ ids <;> simp [hid, List.removeAll, List.eraseDups_cons]

-- A keyword is new once, and only if the prompt does not have it.
theorem newcomers_of_known {prompt : Prompt} {clauses : List Clause} {clause : Clause}
    (h : clause.keyword.id ∈ prompt.keywords ∨ clause.keyword.id ∈ prompt.newcomers clauses) :
    prompt.newcomers (clauses ++ [clause]) = prompt.newcomers clauses := by
  rw [newcomers, List.map_append, List.filter_append, List.map_singleton]
  by_cases hold : clause.keyword.id ∈ prompt.keywords
  · simp [hold, newcomers]
  · have hseen := h.resolve_left hold
    rw [newcomers, List.mem_eraseDups] at hseen
    rw [List.filter_cons_of_pos (by simpa using hold), List.filter_nil, eraseDups_append_singleton,
      if_pos hseen, newcomers]

theorem newcomers_of_new {prompt : Prompt} {clauses : List Clause} {clause : Clause}
    (hold : clause.keyword.id ∉ prompt.keywords)
    (hseen : clause.keyword.id ∉ prompt.newcomers clauses) :
    prompt.newcomers (clauses ++ [clause]) = prompt.newcomers clauses ++ [clause.keyword.id] := by
  rw [newcomers, List.mem_eraseDups] at hseen
  rw [newcomers, List.map_append, List.filter_append, List.map_singleton,
    List.filter_cons_of_pos (by simpa using hold), List.filter_nil, eraseDups_append_singleton,
    if_neg hseen, newcomers]

theorem nodup_newcomers (prompt : Prompt) (clauses : List Clause) :
    (prompt.newcomers clauses).Nodup := by
  induction clauses using List.reverseRecOn with
  | nil => exact List.nodup_nil
  | append_singleton clauses clause ih =>
    by_cases hknown :
        clause.keyword.id ∈ prompt.keywords ∨ clause.keyword.id ∈ prompt.newcomers clauses
    · rw [newcomers_of_known hknown]
      exact ih
    · obtain ⟨hold, hseen⟩ := not_or.mp hknown
      rw [newcomers_of_new hold hseen]
      exact List.nodup_append_comm.mp (List.nodup_cons.mpr ⟨hseen, ih⟩)

end Newcomers

section Place

variable {clause : Clause}

theorem placeIn_append_of_mem {front : List Clause}
    (h : clause.keyword.id ∈ front.map (·.keyword.id)) (back : List Clause) :
    placeIn clause (front ++ back) = placeIn clause front ++ back := by
  induction front with
  | nil => cases h
  | cons c front ih =>
    rw [List.cons_append, placeIn, placeIn]
    split
    · rfl
    · rename_i hne
      rw [ih ((List.mem_cons.mp h).resolve_left (Ne.symm hne)), List.cons_append]

theorem placeIn_append_of_not_mem {front : List Clause}
    (h : clause.keyword.id ∉ front.map (·.keyword.id)) (back : List Clause) :
    placeIn clause (front ++ back) = front ++ placeIn clause back := by
  induction front with
  | nil => rfl
  | cons c front ih =>
    rw [List.map_cons, List.mem_cons, not_or] at h
    rw [List.cons_append, placeIn, if_neg (Ne.symm h.1), ih h.2, List.cons_append]

-- A clause of a keyword that is there takes the place of the first one.
theorem placeIn_eq_mapIdx {cs : List Clause}
    (h : clause.keyword.id ∈ cs.map (·.keyword.id)) :
    placeIn clause cs = cs.mapIdx fun i old =>
      if cs.findIdx? (·.keyword.id == clause.keyword.id) = some i then clause else old := by
  induction cs with
  | nil => cases h
  | cons c cs ih =>
    rw [placeIn, List.findIdx?_cons, List.mapIdx_cons]
    by_cases hc : c.keyword.id = clause.keyword.id
    · have hsame : cs.mapIdx (fun _ old => old) = cs :=
        List.ext_getElem? fun i => by simp
      simp [hc, hsame]
    · have hrest := ih ((List.mem_cons.mp h).resolve_left (Ne.symm hc))
      rw [if_neg hc, hrest]
      simp [hc]

end Place

section Overlay

variable {prompt : Prompt} {clauses : List Clause} {clause : Clause}

-- A renewed prompt has the keywords that it had.
theorem keywords_renewed (prompt : Prompt) (clauses : List Clause) :
    (prompt.renewed clauses).map (·.keyword.id) = prompt.keywords := by
  apply List.ext_getElem?
  intro i
  rw [renewed, keywords, List.getElem?_map, List.getElem?_mapIdx, List.getElem?_map,
    Option.map_map]
  refine Option.map_congr fun old _ => ?_
  dsimp only [Function.comp_apply]
  split
  · cases hlatest : latest? clauses old.keyword.id with
    | none => rfl
    | some clause => exact keyword_of_latest? hlatest
  · rfl

theorem keywords_overlay (prompt : Prompt) (clauses : List Clause) :
    (prompt.overlay clauses).keywords = prompt.keywords ++ prompt.newcomers clauses := by
  rw [keywords, overlay, List.map_append, keywords_renewed,
    keywords_filterMap_latest? (mem_keywords_of_mem_newcomers prompt clauses)]

theorem indexOf?_eq_findIdx?_keywords (prompt : Prompt) (id : String) :
    prompt.indexOf? id = prompt.keywords.findIdx? (· == id) := by
  rw [indexOf?, keywords, List.findIdx?_map]
  rfl

theorem keyword_of_indexOf? {i : Nat} {id : String} (h : prompt.indexOf? id = some i)
    (hi : i < prompt.clauses.length) : prompt.clauses[i].keyword.id = id := by
  obtain ⟨_, hid, -⟩ := List.findIdx?_eq_some_iff_getElem.mp h
  simpa using hid

-- One more clause of a keyword of the prompt renews its first clause again.
theorem placeIn_renewed (h : clause.keyword.id ∈ prompt.keywords) :
    placeIn clause (prompt.renewed clauses) = prompt.renewed (clauses ++ [clause]) := by
  have hmem : clause.keyword.id ∈ (prompt.renewed clauses).map (·.keyword.id) := by
    rwa [keywords_renewed]
  have hindex : (prompt.renewed clauses).findIdx? (·.keyword.id == clause.keyword.id) =
      prompt.indexOf? clause.keyword.id := by
    rw [indexOf?_eq_findIdx?_keywords, ← keywords_renewed prompt clauses, List.findIdx?_map]
    rfl
  rw [placeIn_eq_mapIdx hmem, hindex, renewed, renewed, List.mapIdx_mapIdx,
    List.mapIdx_eq_mapIdx_iff]
  intro i hi
  dsimp only [Function.comp_apply]
  rw [latest?_append_singleton]
  by_cases hid : clause.keyword.id = prompt.clauses[i].keyword.id
  · rw [← hid, if_pos rfl]
    split <;> rfl
  · have hother : prompt.indexOf? clause.keyword.id ≠ some i :=
      fun hfound => hid (keyword_of_indexOf? hfound hi).symm
    rw [if_neg hother, if_neg hid]

-- And a clause of any other keyword renews none.
theorem renewed_of_not_mem (h : clause.keyword.id ∉ prompt.keywords) :
    prompt.renewed (clauses ++ [clause]) = prompt.renewed clauses := by
  rw [renewed, renewed, List.mapIdx_eq_mapIdx_iff]
  intro i hi
  have hne : clause.keyword.id ≠ prompt.clauses[i].keyword.id := fun heq =>
    h (List.mem_map.mpr ⟨_, List.getElem_mem hi, heq.symm⟩)
  rw [latest?_append_singleton, if_neg hne]

theorem filterMap_latest?_of_not_mem {ids : List String} (h : clause.keyword.id ∉ ids) :
    ids.filterMap (latest? (clauses ++ [clause])) = ids.filterMap (latest? clauses) := by
  refine List.filterMap_congr fun id hid => ?_
  have hne : clause.keyword.id ≠ id := fun heq => h (heq ▸ hid)
  rw [latest?_append_singleton, if_neg hne]

-- Among different keywords the one of the clause has it as its latest.
theorem placeIn_filterMap_latest? {ids : List String} (hids : ids.Nodup)
    (hall : ∀ id ∈ ids, id ∈ clauses.map (·.keyword.id)) (h : clause.keyword.id ∈ ids) :
    placeIn clause (ids.filterMap (latest? clauses)) =
      ids.filterMap (latest? (clauses ++ [clause])) := by
  induction ids with
  | nil => cases h
  | cons id ids ih =>
    rw [List.forall_mem_cons] at hall
    rw [List.nodup_cons] at hids
    obtain ⟨old, hold⟩ := exists_latest? hall.1
    have hkeyword : old.keyword.id = id := keyword_of_latest? hold
    rw [List.filterMap_cons_some hold, placeIn, hkeyword]
    by_cases hid : id = clause.keyword.id
    · subst hid
      have hfirst : latest? (clauses ++ [clause]) clause.keyword.id = some clause := by
        rw [latest?_append_singleton, if_pos rfl]
      rw [if_pos rfl, List.filterMap_cons_some hfirst, filterMap_latest?_of_not_mem hids.1]
    · have hfirst : latest? (clauses ++ [clause]) id = some old := by
        rw [latest?_append_singleton, if_neg (Ne.symm hid), hold]
      have hrest : clause.keyword.id ∈ ids := (List.mem_cons.mp h).resolve_left (Ne.symm hid)
      rw [if_neg hid, List.filterMap_cons_some hfirst, ih hids.2 hall.2 hrest]

-- To place a clause over an overlay is to overlay one clause more.
theorem place_overlay (prompt : Prompt) (clauses : List Clause) (clause : Clause) :
    (prompt.overlay clauses).place clause = prompt.overlay (clauses ++ [clause]) := by
  have hkeywords := keywords_renewed prompt clauses
  have hnew := mem_keywords_of_mem_newcomers prompt clauses
  rw [place, overlay, overlay]
  congr 1
  by_cases hold : clause.keyword.id ∈ prompt.keywords
  · -- the keyword is in the prompt
    have hnot : clause.keyword.id ∉ prompt.newcomers clauses :=
      fun hmem => (mem_newcomers.mp hmem).2 hold
    rw [placeIn_append_of_mem (hkeywords ▸ hold), placeIn_renewed hold,
      newcomers_of_known (.inl hold), filterMap_latest?_of_not_mem hnot]
  · rw [placeIn_append_of_not_mem (hkeywords ▸ hold), renewed_of_not_mem hold]
    congr 1
    by_cases hseen : clause.keyword.id ∈ prompt.newcomers clauses
    · -- it came before
      rw [newcomers_of_known (.inr hseen),
        placeIn_filterMap_latest? (nodup_newcomers prompt clauses) hnew hseen]
    · -- it comes for the first time
      have habsent : clause.keyword.id ∉
          ((prompt.newcomers clauses).filterMap (latest? clauses)).map (·.keyword.id) := by
        rwa [keywords_filterMap_latest? hnew]
      have hlast : [clause.keyword.id].filterMap (latest? (clauses ++ [clause])) = [clause] := by
        simp [latest?_append_singleton]
      rw [placeIn_of_not_mem habsent, newcomers_of_new hold hseen, List.filterMap_append, hlast,
        filterMap_latest?_of_not_mem hseen]

theorem overlay_nil (prompt : Prompt) : prompt.overlay [] = prompt := by
  have hsame : prompt.renewed [] = prompt.clauses :=
    List.ext_getElem? fun i => by simp [renewed, latest?]
  rw [overlay, hsame]
  exact congrArg Prompt.mk (List.append_nil _)

theorem foldl_place (prompt : Prompt) (clauses : List Clause) :
    clauses.foldl place prompt = prompt.overlay clauses := by
  induction clauses using List.reverseRecOn with
  | nil => exact (overlay_nil prompt).symm
  | append_singleton clauses clause ih =>
    rw [List.foldl_append, ih, List.foldl_cons, List.foldl_nil, place_overlay]

-- No keyword comes twice if none did before.
theorem nodup_keywords_overlay (h : prompt.keywords.Nodup) (clauses : List Clause) :
    (prompt.overlay clauses).keywords.Nodup := by
  rw [keywords_overlay, List.nodup_append]
  refine ⟨h, nodup_newcomers prompt clauses, fun id hold other hnew heq => ?_⟩
  subst heq
  exact (mem_newcomers.mp hnew).2 hold

end Overlay

end ClausePrompt.Prompt
