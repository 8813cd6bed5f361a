import ClausePrompt.Proofs.Prompt.Length
import ClausePrompt.Proofs.Prompt.Place

namespace ClausePrompt

namespace Lexicon

-- No two of the texts are typed for the same keyword. A text that is none is like no other.
def Apart (lexicon : Lexicon) (typed : List String) : Prop :=
  (typed.filterMap lexicon.find?).Nodup

instance (lexicon : Lexicon) (typed : List String) : Decidable (lexicon.Apart typed) :=
  inferInstanceAs (Decidable (List.Nodup _))

-- The ids of the keywords that are typed.
def ids (lexicon : Lexicon) (typed : List String) : List String :=
  (typed.filterMap lexicon.find?).map (·.id)

theorem ids_cons_of_resolve {lexicon : Lexicon} {typed : String} {keyword : Keyword}
    (h : lexicon.resolve typed = .ok keyword) (rest : List String) :
    lexicon.ids (typed :: rest) = keyword.id :: lexicon.ids rest := by
  have hfind : lexicon.find? typed = some keyword :=
    find?_eq_some_iff.mpr (resolve_eq_ok_iff.mp h)
  simp [ids, hfind]

-- Different keywords have different ids.
theorem Apart.nodup_ids {lexicon : Lexicon} {typed : List String} (h : lexicon.Apart typed) :
    (lexicon.ids typed).Nodup := by
  refine List.Nodup.map_on (fun a ha b hb hab => ?_) h
  obtain ⟨first, -, hfirst⟩ := List.mem_filterMap.mp ha
  obtain ⟨second, -, hsecond⟩ := List.mem_filterMap.mp hb
  have hmem := (find?_eq_some_iff.mp hfirst).1
  have hmem' := (find?_eq_some_iff.mp hsecond).1
  exact List.inj_on_of_nodup_map lexicon.ids_nodup hmem hmem' hab

theorem Apart.sublist {lexicon : Lexicon} {typed fewer : List String} (h : lexicon.Apart typed)
    (hfewer : fewer.Sublist typed) : lexicon.Apart fewer :=
  List.Nodup.sublist (hfewer.filterMap _) h

end Lexicon

namespace Prompt

-- Places the clause of an entry: of a keyword as it is typed and a text for its argument.
def enter (lexicon : Lexicon) (prompt : Prompt) (entry : String × String) : Outcome Prompt :=
  (Clause.read lexicon entry.1 entry.2).map prompt.place

theorem placeIn_of_not_mem {clause : Clause} {cs : List Clause}
    (h : clause.keyword.id ∉ cs.map (·.keyword.id)) : placeIn clause cs = cs ++ [clause] := by
  induction cs with
  | nil => rfl
  | cons c cs ih =>
    rw [List.map_cons, List.mem_cons, not_or] at h
    obtain ⟨hne, hrest⟩ := h
    rw [placeIn, if_neg (Ne.symm hne), ih hrest, List.cons_append]

theorem place_of_not_mem {prompt : Prompt} {clause : Clause}
    (h : clause.keyword.id ∉ prompt.keywords) :
    prompt.place clause = ⟨prompt.clauses ++ [clause]⟩ := by
  rw [place, placeIn_of_not_mem h]

-- The ids of a prompt and of the entries to come stay one list without duplicates.
theorem nodup_place {lexicon : Lexicon} {prompt : Prompt} {entry : String × String}
    {entries : List (String × String)} {clause : Clause}
    (hread : Clause.read lexicon entry.1 entry.2 = .ok clause)
    (hids : (prompt.keywords ++ lexicon.ids ((entry :: entries).map (·.1))).Nodup) :
    prompt.place clause = ⟨prompt.clauses ++ [clause]⟩ ∧
      ((prompt.place clause).keywords ++ lexicon.ids (entries.map (·.1))).Nodup := by
  have hresolve := (Clause.read_eq_ok_iff.mp hread).1
  rw [List.map_cons, Lexicon.ids_cons_of_resolve hresolve] at hids
  have hnew : clause.keyword.id ∉ prompt.keywords := fun hold =>
    (List.nodup_append.mp hids).2.2 _ hold _ List.mem_cons_self rfl
  have hplaced := place_of_not_mem hnew
  refine ⟨hplaced, ?_⟩
  rw [hplaced, keywords, List.map_append, List.append_assoc]
  exact hids

-- Entries of keywords that are neither in the prompt nor twice among them add their clauses at the
-- end, in order.
theorem clauses_of_foldlM_enter {lexicon : Lexicon} {entries : List (String × String)}
    {prompt last : Prompt} (hids : (prompt.keywords ++ lexicon.ids (entries.map (·.1))).Nodup)
    (h : entries.foldlM (enter lexicon) prompt = .ok last) :
    ∃ clauses,
      List.Forall₂ (fun entry clause => Clause.read lexicon entry.1 entry.2 = .ok clause)
        entries clauses ∧
      last.clauses = prompt.clauses ++ clauses := by
  induction entries generalizing prompt with
  | nil =>
    obtain rfl : prompt = last := Except.ok.inj h
    exact ⟨[], .nil, (List.append_nil _).symm⟩
  | cons entry entries ih =>
    rw [List.foldlM_cons] at h
    obtain ⟨next, hnext, hrest⟩ := Outcome.bind_eq_ok_iff.mp h
    obtain ⟨clause, hread, rfl⟩ := Outcome.map_eq_ok_iff.mp hnext
    obtain ⟨hplaced, hids'⟩ := nodup_place hread hids
    obtain ⟨clauses, hreads, hclauses⟩ := ih hids' hrest
    refine ⟨clause :: clauses, .cons hread hreads, ?_⟩
    rw [hclauses, hplaced, List.append_assoc]
    rfl

-- Each of them is still there in the end.
theorem exists_mem_of_foldlM_enter {lexicon : Lexicon} {entries : List (String × String)}
    {prompt last : Prompt} (hids : (prompt.keywords ++ lexicon.ids (entries.map (·.1))).Nodup)
    (h : entries.foldlM (enter lexicon) prompt = .ok last) {entry : String × String}
    (hmem : entry ∈ entries) :
    ∃ clause ∈ last.clauses, Clause.read lexicon entry.1 entry.2 = .ok clause := by
  obtain ⟨clauses, hreads, hclauses⟩ := clauses_of_foldlM_enter hids h
  obtain ⟨i, hi, rfl⟩ := List.getElem_of_mem hmem
  have hi' : i < clauses.length := hreads.length_eq ▸ hi
  refine ⟨clauses[i], ?_, hreads.get hi hi'⟩
  rw [hclauses]
  exact List.mem_append_right _ (List.getElem_mem hi')

-- A prompt that goes on is not shorter than its beginning.
theorem length_le_append (cs ds : List Clause) : length ⟨cs⟩ ≤ length ⟨cs ++ ds⟩ := by
  by_cases hnil : cs = []
  · rw [hnil]
    exact Nat.zero_le _
  · have hcs : cs.map Clause.canonicalChars ≠ [] := by simpa using hnil
    have hall : (cs ++ ds).map Clause.canonicalChars ≠ [] := by simp [hnil]
    have hfirst := Text.length_intercalate separator.toList hcs
    have hboth := Text.length_intercalate separator.toList hall
    have hseparator : separator.toList.length = 3 := by decide
    rw [← length_eq_length_intercalate ⟨cs⟩, List.length_map, hseparator] at hfirst
    rw [← length_eq_length_intercalate ⟨cs ++ ds⟩, List.length_map, hseparator, List.map_append,
      List.flatten_append, List.length_append, List.length_append] at hboth
    omega

end Prompt

end ClausePrompt
