namespace ClausePrompt

-- A map that keeps its keys in the order in which they came.
structure OrderedMap (α β : Type) where
  entries : List (α × β)
  keys_nodup : (entries.map (·.1)).Nodup
  deriving DecidableEq, Repr

namespace OrderedMap

variable {α β : Type} [DecidableEq α]

def empty : OrderedMap α β := ⟨[], .nil⟩

instance : Inhabited (OrderedMap α β) := ⟨empty⟩

def keys (map : OrderedMap α β) : List α := map.entries.map (·.1)

def values (map : OrderedMap α β) : List β := map.entries.map (·.2)

def size (map : OrderedMap α β) : Nat := map.entries.length

def get? (map : OrderedMap α β) (key : α) : Option β :=
  (map.entries.find? (·.1 = key)).map (·.2)

-- A key that is there keeps its place, and a new key goes to the end.
def insertIn (key : α) (value : β) : List (α × β) → List (α × β)
  | [] => [(key, value)]
  | (k, v) :: rest => if k = key then (k, value) :: rest else (k, v) :: insertIn key value rest

theorem keys_insertIn (key : α) (value : β) (entries : List (α × β)) :
    (insertIn key value entries).map (·.1) =
      if key ∈ entries.map (·.1) then entries.map (·.1) else entries.map (·.1) ++ [key] := by
  induction entries with
  | nil => simp [insertIn]
  | cons entry rest ih =>
    obtain ⟨k, v⟩ := entry
    by_cases h : k = key
    · simp [insertIn, h]
    · by_cases hm : key ∈ rest.map (·.1)
      · simp_all [insertIn]
      · have hne : key ≠ k := fun he => h he.symm
        simp_all [insertIn]

theorem nodup_insertIn (key : α) (value : β) (entries : List (α × β))
    (h : (entries.map (·.1)).Nodup) : ((insertIn key value entries).map (·.1)).Nodup := by
  rw [keys_insertIn]
  split
  · exact h
  · rename_i hm
    rw [List.nodup_append]
    exact ⟨h, by simp, fun a ha b hb hab => hm (by simp_all)⟩

def insert (map : OrderedMap α β) (key : α) (value : β) : OrderedMap α β :=
  ⟨insertIn key value map.entries, nodup_insertIn key value map.entries map.keys_nodup⟩

def erase (map : OrderedMap α β) (key : α) : OrderedMap α β :=
  ⟨map.entries.filter (·.1 ≠ key), map.keys_nodup.sublist (List.filter_sublist.map _)⟩

end OrderedMap

end ClausePrompt
