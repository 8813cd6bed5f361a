import ClausePrompt.Library
import ClausePrompt.Proofs.OrderedMap
import Mathlib.Data.List.Nodup
import Mathlib.Data.List.Perm.Basic

namespace ClausePrompt.Library

-- What can happen to a library. A new snippet comes with its id and its time.
inductive Action where
  | create (draft : Snippet.Draft) (id : String) (createdAt : Nat)
  | update (id : String) (changes : Snippet.Changes)
  | delete (id : String)
  deriving DecidableEq

def Action.created? : Action → Option String
  | .create _ id _ => some id
  | .update _ _ | .delete _ => none

def perform (library : Library) : Action → Library
  | .create draft id createdAt => (library.create draft id createdAt).state
  | .update id changes => (library.update id changes).state
  | .delete id => (library.delete id).state

def run (library : Library) (actions : List Action) : Library := actions.foldl perform library

theorem run_append (library : Library) (first second : List Action) :
    library.run (first ++ second) = (library.run first).run second := by
  simp [run]

theorem run_append_singleton (library : Library) (actions : List Action) (action : Action) :
    library.run (actions ++ [action]) = (library.run actions).perform action := by
  simp [run]

-- What an update gives is what is found under the id after it.
theorem outcome_update (library : Library) (id : String) (changes : Snippet.Changes) :
    (library.update id changes).outcome = .ok ((library.update id changes).state.get? id) := by
  unfold update
  cases hget : library.get? id with
  | none => rw [hget]
  | some snippet =>
    have hinsert := OrderedMap.get?_insert library.snippets id id (snippet.change changes)
    rw [if_pos rfl] at hinsert
    exact congrArg Except.ok hinsert.symm

theorem outcome_delete (library : Library) (id : String) :
    (library.delete id).outcome = .ok (library.get? id).isSome := by
  unfold delete
  cases library.get? id <;> rfl

-- These are the snippets of the library in their order, each under its own id.
def Holds (library : Library) (snippets : List Snippet) : Prop :=
  library.snippets.entries = snippets.map fun snippet => (snippet.id, snippet)

-- What a draft makes when these are the snippets so far.
def drafted (snippets : List Snippet) (draft : Snippet.Draft) (id : String) (createdAt : Nat) :
    Snippet :=
  { id
    name := draft.name.getD
      (draft.kind.title ++ " " ++ toString (snippets.countP (·.kind = draft.kind) + 1))
    content := draft.content
    comment := draft.comment
    isPublic := draft.isPublic
    kind := draft.kind
    createdAt }

theorem ne_of_find?_eq_none {snippets : List Snippet} {id : String}
    (h : snippets.find? (·.id = id) = none) : ∀ snippet ∈ snippets, snippet.id ≠ id := by
  simpa using h

namespace Holds

variable {library : Library} {snippets : List Snippet} (h : library.Holds snippets)
include h

theorem keys_eq : library.snippets.entries.map (·.1) = snippets.map (·.id) := by
  rw [h, List.map_map]
  rfl

theorem values_eq : library.snippets.values = snippets := by
  rw [OrderedMap.values, h, List.map_map]
  exact List.map_id snippets

theorem nodup : (snippets.map (·.id)).Nodup := by
  rw [← h.keys_eq]
  exact library.snippets.keys_nodup

theorem size_eq : library.size = snippets.length := by
  rw [size, OrderedMap.size, h, List.length_map]

theorem get?_eq (id : String) : library.get? id = snippets.find? (·.id = id) := by
  rw [Library.get?, OrderedMap.get?, h, List.find?_map, Option.map_map]
  exact Option.map_id'

theorem list_eq (isPublic : Bool) (kind : Option SnippetKind) :
    library.list isPublic kind =
      snippets.filter fun snippet => snippet.isPublic = isPublic ∧ ∀ k ∈ kind, snippet.kind = k := by
  rw [list, h.values_eq]
  apply List.filter_congr
  intro snippet _
  rw [Bool.eq_iff_iff]
  cases kind <;> simp

-- The public and the private snippets together are all of them.
theorem list_perm (kind : Option SnippetKind) :
    (library.list true kind ++ library.list false kind).Perm
      (snippets.filter fun snippet => ∀ k ∈ kind, snippet.kind = k) := by
  have hsplit := List.filter_append_perm (·.isPublic)
    (snippets.filter fun snippet => ∀ k ∈ kind, snippet.kind = k)
  rw [List.filter_filter, List.filter_filter] at hsplit
  rw [h.list_eq, h.list_eq]
  simpa using hsplit

theorem create (draft : Snippet.Draft) {id : String} (createdAt : Nat)
    (hid : id ∉ snippets.map (·.id)) :
    (library.create draft id createdAt).outcome = .ok (drafted snippets draft id createdAt) ∧
      (library.create draft id createdAt).state.Holds
        (snippets ++ [drafted snippets draft id createdAt]) := by
  have hname : library.defaultName draft.kind =
      draft.kind.title ++ " " ++ toString (snippets.countP (·.kind = draft.kind) + 1) := by
    rw [defaultName, countOf, h.values_eq]
  unfold Library.create
  rw [hname]
  refine ⟨rfl, ?_⟩
  change OrderedMap.insertIn id _ library.snippets.entries = _
  rw [OrderedMap.insertIn_of_not_mem (h.keys_eq ▸ hid), h, List.map_append]
  rfl

-- The snippet of this id is changed where it stands.
theorem update (id : String) (changes : Snippet.Changes) :
    (library.update id changes).state.Holds
      (snippets.map fun snippet => if snippet.id = id then snippet.change changes else snippet) := by
  unfold Library.update
  rw [h.get?_eq]
  cases hfind : snippets.find? (·.id = id) with
  | none =>
    have hnone : ∀ snippet ∈ snippets,
        (if snippet.id = id then snippet.change changes else snippet) = snippet := by
      intro snippet hmem
      rw [if_neg (ne_of_find?_eq_none hfind snippet hmem)]
    rw [List.map_congr_left hnone, List.map_id']
    exact h
  | some found =>
    have hfound : found.id = id := by simpa using List.find?_some hfind
    have hmem : found ∈ snippets := List.mem_of_find?_eq_some hfind
    have hkey : id ∈ library.snippets.entries.map (·.1) := by
      rw [h.keys_eq]
      exact List.mem_map.mpr ⟨found, hmem, hfound⟩
    change OrderedMap.insertIn id (found.change changes) library.snippets.entries = _
    rw [OrderedMap.insertIn_of_mem library.snippets.keys_nodup hkey, h, List.map_map, List.map_map]
    apply List.map_congr_left
    intro snippet hsnippet
    by_cases hid : snippet.id = id
    · -- the ids are distinct, so this is the snippet that was found
      obtain rfl : snippet = found :=
        List.inj_on_of_nodup_map h.nodup hsnippet hmem (hid.trans hfound.symm)
      simp [hid, Snippet.change]
    · simp [hid]

theorem delete (id : String) :
    (library.delete id).state.Holds (snippets.filter (·.id ≠ id)) := by
  unfold Library.delete
  rw [h.get?_eq]
  cases hfind : snippets.find? (·.id = id) with
  | none =>
    have hall : snippets.filter (·.id ≠ id) = snippets := by
      rw [List.filter_eq_self]
      simpa using ne_of_find?_eq_none hfind
    rw [hall]
    exact h
  | some found =>
    change library.snippets.entries.filter (·.1 ≠ id) = _
    rw [h, List.filter_map]
    rfl

end Holds

end ClausePrompt.Library
