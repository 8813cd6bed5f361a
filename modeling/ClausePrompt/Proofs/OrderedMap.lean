import ClausePrompt.OrderedMap
import Mathlib.Data.List.Nodup

namespace ClausePrompt

-- Where no two share a key, the first one with a key is the only one.
theorem find?_eq_some_iff_of_nodup {α β : Type} [BEq β] [LawfulBEq β] {f : α → β} {xs : List α}
    (hxs : (xs.map f).Nodup) {key : β} {x : α} :
    xs.find? (f · == key) = some x ↔ x ∈ xs ∧ f x = key := by
  constructor
  · intro h
    exact ⟨List.mem_of_find?_eq_some h, by simpa using List.find?_some h⟩
  · rintro ⟨hmem, hkey⟩
    cases hfind : xs.find? (f · == key) with
    | none =>
      have hall := List.find?_eq_none.mp hfind x hmem
      simp [hkey] at hall
    | some found =>
      have hfound : f found = key := by simpa using List.find?_some hfind
      have hsame := List.inj_on_of_nodup_map hxs
        (List.mem_of_find?_eq_some hfind) hmem (hfound.trans hkey.symm)
      rw [hsame]

namespace OrderedMap

variable {α β : Type} [DecidableEq α]

theorem find?_insertIn (key k : α) (value : β) (entries : List (α × β)) :
    ((insertIn key value entries).find? (·.1 = k)).map (·.2) =
      if k = key then some value else (entries.find? (·.1 = k)).map (·.2) := by
  induction entries with
  | nil =>
    by_cases hk : k = key
    · simp [insertIn, hk]
    · simp [insertIn, hk, Ne.symm hk]
  | cons entry rest ih =>
    obtain ⟨found, old⟩ := entry
    by_cases hfound : found = key
    · subst hfound
      by_cases hk : k = found
      · simp [insertIn, hk]
      · simp [insertIn, hk, Ne.symm hk]
    · rw [insertIn, if_neg hfound]
      by_cases hk : found = k
      · subst hk
        simp [hfound]
      · simpa [hk] using ih

-- The map gives the new value for its key, and what it gave before for every other key.
theorem get?_insert (map : OrderedMap α β) (key k : α) (value : β) :
    (map.insert key value).get? k = if k = key then some value else map.get? k :=
  find?_insertIn key k value map.entries

-- An insertion takes no value away from a key.
theorem isSome_get?_insert {map : OrderedMap α β} {k : α} (key : α) (value : β)
    (h : (map.get? k).isSome = true) : ((map.insert key value).get? k).isSome = true := by
  rw [get?_insert]
  split
  · rfl
  · exact h

theorem mem_insertIn {key : α} {value : β} {entries : List (α × β)} {entry : α × β}
    (h : entry ∈ insertIn key value entries) : entry = (key, value) ∨ entry ∈ entries := by
  induction entries with
  | nil => exact .inl (List.mem_singleton.mp h)
  | cons first rest ih =>
    obtain ⟨k, v⟩ := first
    rw [insertIn] at h
    split at h
    · rename_i hk
      rcases List.mem_cons.mp h with rfl | hmem
      · exact .inl (by rw [hk])
      · exact .inr (List.mem_cons_of_mem (k, v) hmem)
    · rcases List.mem_cons.mp h with rfl | hmem
      · exact .inr List.mem_cons_self
      · exact (ih hmem).imp_right (List.mem_cons_of_mem (k, v))

-- A key that was not there goes to the end.
theorem insertIn_of_not_mem {key : α} {entries : List (α × β)}
    (h : key ∉ entries.map (·.1)) (value : β) :
    insertIn key value entries = entries ++ [(key, value)] := by
  induction entries with
  | nil => rfl
  | cons first rest ih =>
    obtain ⟨k, v⟩ := first
    rw [List.map_cons, List.mem_cons, not_or] at h
    rw [insertIn, if_neg (Ne.symm h.1), ih h.2]
    rfl

-- A key that is there keeps its place, and so do all the others.
theorem insertIn_of_mem {key : α} {entries : List (α × β)}
    (hnodup : (entries.map (·.1)).Nodup) (h : key ∈ entries.map (·.1)) (value : β) :
    insertIn key value entries =
      entries.map fun entry => if entry.1 = key then (key, value) else entry := by
  induction entries with
  | nil => cases h
  | cons first rest ih =>
    obtain ⟨k, v⟩ := first
    rw [List.map_cons, List.nodup_cons] at hnodup
    by_cases hk : k = key
    · subst hk
      have hrest : ∀ entry ∈ rest, (if entry.1 = k then (k, value) else entry) = id entry := by
        intro entry hentry
        have hne : entry.1 ≠ k := fun he =>
          hnodup.1 (List.mem_map.mpr ⟨entry, hentry, he⟩)
        rw [if_neg hne, id]
      simp only [insertIn, List.map_cons, if_true, List.map_congr_left hrest, List.map_id]
    · have hmem : key ∈ rest.map (·.1) := (List.mem_cons.mp h).resolve_left (Ne.symm hk)
      simp only [insertIn, List.map_cons, if_neg hk, ih hnodup.2 hmem]

-- No two entries share a key, so that the map gives the value of every entry.
theorem get?_eq_some_iff {map : OrderedMap α β} {key : α} {value : β} :
    map.get? key = some value ↔ (key, value) ∈ map.entries := by
  rw [get?, Option.map_eq_some_iff]
  constructor
  · rintro ⟨entry, hfind, rfl⟩
    obtain ⟨hmem, rfl⟩ := (find?_eq_some_iff_of_nodup map.keys_nodup).mp hfind
    exact hmem
  · intro hmem
    exact ⟨(key, value), (find?_eq_some_iff_of_nodup map.keys_nodup).mpr ⟨hmem, rfl⟩, rfl⟩

theorem get?_erase (map : OrderedMap α β) (key k : α) :
    (map.erase key).get? k = if k = key then none else map.get? k := by
  unfold get? erase
  rw [List.find?_filter]
  by_cases hk : k = key
  · subst hk
    simp
  · rw [if_neg hk]
    congr 2
    funext entry
    by_cases hentry : entry.1 = k
    · simp [hentry, hk]
    · simp [hentry]

-- A value that is replaced by one of its sort leaves the keys of that sort as they are.
theorem keys_filter_insertIn {p : β → Bool} {key : α} {old : β} {entries : List (α × β)} (value : β)
    (h : (entries.find? (·.1 = key)).map (·.2) = some old) (hp : p value = p old) :
    ((insertIn key value entries).filter (p ·.2)).map (·.1) =
      (entries.filter (p ·.2)).map (·.1) := by
  induction entries with
  | nil => cases h
  | cons entry rest ih =>
    obtain ⟨found, present⟩ := entry
    by_cases hfound : found = key
    · subst hfound
      obtain rfl : present = old := by simpa using h
      rw [insertIn, if_pos rfl]
      cases hpresent : p present <;> simp [hp, hpresent]
    · rw [List.find?_cons_of_neg (by simpa using hfound)] at h
      rw [insertIn, if_neg hfound]
      cases hpresent : p present <;> simp [hpresent, ih h]

-- An insertion puts one value in place of the one that was there, if any.
theorem countP_insertIn (p : β → Bool) (key : α) (value : β) (entries : List (α × β)) :
    ((insertIn key value entries).map (·.2)).countP p +
        (((entries.find? (·.1 = key)).map (·.2)).any p).toNat =
      (entries.map (·.2)).countP p + (p value).toNat := by
  induction entries with
  | nil => cases hvalue : p value <;> simp [insertIn, hvalue]
  | cons entry rest ih =>
    obtain ⟨found, old⟩ := entry
    by_cases hfound : found = key
    · subst hfound
      cases hold : p old <;> cases hvalue : p value <;> simp [insertIn, hold, hvalue]
    · rw [insertIn, if_neg hfound, List.find?_cons_of_neg (by simpa using hfound)]
      simp only [List.map_cons, List.countP_cons]
      omega

theorem countP_values_insert (map : OrderedMap α β) (key : α) (value : β) (p : β → Bool) :
    (map.insert key value).values.countP p + ((map.get? key).any p).toNat =
      map.values.countP p + (p value).toNat :=
  countP_insertIn p key value map.entries

theorem countP_values_erase (map : OrderedMap α β) (key : α) (p : β → Bool) :
    (map.erase key).values.countP p + ((map.get? key).any p).toNat = map.values.countP p := by
  obtain ⟨entries, hnodup⟩ := map
  change ((entries.filter (·.1 ≠ key)).map (·.2)).countP p +
    (((entries.find? (·.1 = key)).map (·.2)).any p).toNat = (entries.map (·.2)).countP p
  induction entries with
  | nil => rfl
  | cons entry rest ih =>
    obtain ⟨found, old⟩ := entry
    rw [List.map_cons, List.nodup_cons] at hnodup
    by_cases hfound : found = key
    · subst hfound
      -- the key is not in the rest, which is kept as it is
      have hrest : rest.filter (·.1 ≠ found) = rest := by
        rw [List.filter_eq_self]
        intro entry hentry
        have hne : entry.1 ≠ found := fun heq =>
          hnodup.1 (List.mem_map.mpr ⟨entry, hentry, heq⟩)
        simpa using hne
      rw [List.filter_cons_of_neg (by simp), hrest]
      cases hold : p old <;> simp [hold]
    · have hcount := ih hnodup.2
      rw [List.find?_cons_of_neg (by simpa using hfound),
        List.filter_cons_of_pos (by simpa using hfound)]
      simp only [List.map_cons, List.countP_cons]
      omega

end OrderedMap

end ClausePrompt
