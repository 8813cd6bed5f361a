import ClausePrompt.Proofs.Library.Stock

namespace ClausePrompt.Library

variable (library : Library) (kind : SnippetKind)

-- The ids of the snippets of a kind, oldest first.
def idsOf : List String := (library.snippets.entries.filter (·.2.kind = kind)).map (·.1)

def Action.deleted? : Action → Option String
  | .delete id => some id
  | .create _ _ _ | .update _ _ => none

-- Whatever a run takes out of the snippets of the kind is the newest of them.
def takesNewest : Library → List Action → Bool
  | _, [] => true
  | library, action :: actions =>
    (!library.removes kind action || (library.idsOf kind).getLast? == action.deleted?) &&
      takesNewest (library.perform action) actions

variable {library} {kind}

theorem takesNewest_append (first second : List Action) :
    takesNewest kind library (first ++ second) =
      (takesNewest kind library first && takesNewest kind (library.run first) second) := by
  induction first generalizing library with
  | nil => rfl
  | cons action first ih =>
    rw [List.cons_append, takesNewest, ih, takesNewest, Bool.and_assoc]
    rfl

theorem length_idsOf : (library.idsOf kind).length = library.countOf kind := by
  rw [idsOf, List.length_map, countOf, OrderedMap.values, List.countP_map,
    List.countP_eq_length_filter]
  rfl

theorem mem_idsOf_iff {id : String} :
    id ∈ library.idsOf kind ↔ ∃ snippet, library.get? id = some snippet ∧ snippet.kind = kind := by
  rw [idsOf, List.mem_map]
  constructor
  · rintro ⟨⟨key, snippet⟩, hentry, rfl⟩
    rw [List.mem_filter, decide_eq_true_iff] at hentry
    exact ⟨snippet, OrderedMap.get?_eq_some_iff.mpr hentry.1, hentry.2⟩
  · rintro ⟨snippet, hget, hkind⟩
    have hentry := OrderedMap.get?_eq_some_iff.mp hget
    exact ⟨(id, snippet), List.mem_filter.mpr ⟨hentry, decide_eq_true hkind⟩, rfl⟩

theorem nodup_idsOf : (library.idsOf kind).Nodup :=
  library.snippets.keys_nodup.sublist (List.filter_sublist.map _)

-- A new id goes to the end.
theorem idsOf_create (draft : Snippet.Draft) {id : String} (createdAt : Nat)
    (hfree : library.get? id = none) :
    (library.create draft id createdAt).state.idsOf kind =
      library.idsOf kind ++ if draft.kind = kind then [id] else [] := by
  have hkey : id ∉ library.snippets.entries.map (·.1) := by
    intro hmem
    obtain ⟨⟨key, snippet⟩, hentry, rfl⟩ := List.mem_map.mp hmem
    cases hfree.symm.trans (OrderedMap.get?_eq_some_iff.mpr hentry)
  have hgrown : (library.create draft id createdAt).state.snippets.entries =
      library.snippets.entries ++ [(id, drafted library.snippets.values draft id createdAt)] :=
    OrderedMap.insertIn_of_not_mem hkey _
  rw [idsOf, idsOf, hgrown, List.filter_append, List.map_append]
  by_cases hkind : draft.kind = kind
  · rw [if_pos hkind, List.filter_cons_of_pos (by simpa [drafted] using hkind)]
    rfl
  · rw [if_neg hkind, List.filter_cons_of_neg (by simpa [drafted] using hkind)]
    rfl

theorem idsOf_update (id : String) (changes : Snippet.Changes) :
    (library.update id changes).state.idsOf kind = library.idsOf kind := by
  unfold update
  cases hget : library.get? id with
  | none => rfl
  | some found =>
    have hkind : (found.change changes).kind = found.kind := rfl
    exact OrderedMap.keys_filter_insertIn (p := (·.kind = kind)) (found.change changes) hget
      (by rw [hkind])

theorem idsOf_delete (id : String) :
    (library.delete id).state.idsOf kind = (library.idsOf kind).filter (· ≠ id) := by
  unfold delete
  cases hget : library.get? id with
  | none =>
    have hall : (library.idsOf kind).filter (· ≠ id) = library.idsOf kind := by
      rw [List.filter_eq_self]
      intro other hmem
      obtain ⟨snippet, hother, -⟩ := mem_idsOf_iff.mp hmem
      have hne : other ≠ id := by
        rintro rfl
        cases hget.symm.trans hother
      simpa using hne
    exact hall.symm
  | some found =>
    change ((library.snippets.entries.filter (·.1 ≠ id)).filter (·.2.kind = kind)).map (·.1) = _
    rw [idsOf, List.filter_map, List.filter_filter, List.filter_filter]
    congr 1
    apply List.filter_congr
    intro entry _
    exact Bool.and_comm _ _

theorem get?_delete_self (library : Library) (id : String) :
    (library.delete id).state.get? id = none := by
  unfold delete
  cases hget : library.get? id with
  | none => exact hget
  | some found =>
    have herase := OrderedMap.get?_erase library.snippets id id
    rw [if_pos rfl] at herase
    exact herase

-- Up to a snippet that is kept, the ids of its kind stay as they are, as long as only the newest is
-- taken out.
theorem prefix_idsOf_perform {action : Action} {ids : List String} {last : String}
    (hbegins : ids <+: library.idsOf kind) (hlast : ids.getLast? = some last)
    (hfree : ∀ id ∈ action.created?, library.get? id = none)
    (hkept : (library.perform action).get? last ≠ none)
    (hnewest : library.removes kind action = true →
      (library.idsOf kind).getLast? = action.deleted?) :
    ids <+: (library.perform action).idsOf kind := by
  cases action with
  | create draft id createdAt =>
    rw [perform, idsOf_create draft createdAt (hfree id rfl)]
    exact hbegins.trans (List.prefix_append _ _)
  | update id changes =>
    rw [perform, idsOf_update]
    exact hbegins
  | delete id =>
    rw [perform, idsOf_delete]
    by_cases hremoves : library.removes kind (.delete id) = true
    · have hend : (library.idsOf kind).getLast? = some id := hnewest hremoves
      obtain ⟨init, hinit⟩ := List.getLast?_eq_some_iff.mp hend
      have hnodup : (library.idsOf kind).Nodup := nodup_idsOf
      rw [hinit] at hbegins hnodup ⊢
      have hcut : (init ++ [id]).filter (· ≠ id) = init := by
        have hothers : ∀ other ∈ init, other ≠ id := fun other hmem =>
          (List.nodup_append.mp hnodup).2.2 other hmem id List.mem_cons_self
        rw [List.filter_append, List.filter_eq_self.mpr (by simpa using hothers)]
        simp
      have hne : last ≠ id := by
        rintro rfl
        exact hkept (get?_delete_self library last)
      rw [hcut]
      obtain heq | hshort := List.prefix_concat_iff.mp hbegins
      · rw [heq, List.getLast?_concat] at hlast
        exact absurd (Option.some.inj hlast).symm hne
      · exact hshort
    · have hall : (library.idsOf kind).filter (· ≠ id) = library.idsOf kind := by
        rw [List.filter_eq_self]
        intro other hmem
        obtain ⟨snippet, hother, hkind⟩ := mem_idsOf_iff.mp hmem
        have hne : other ≠ id := by
          rintro rfl
          exact hremoves (by simp [removes, hother, hkind])
        simpa using hne
      rw [hall]
      exact hbegins

-- So it is in a whole run, if the last of the ids is still there in the end.
theorem prefix_idsOf_run {actions : List Action} {ids : List String} {last : String}
    (hbegins : ids <+: library.idsOf kind) (hlast : ids.getLast? = some last)
    (hfresh : library.Fresh actions) (hcreated : last ∉ actions.filterMap Action.created?)
    (hkept : (library.run actions).get? last ≠ none)
    (hnewest : takesNewest kind library actions = true) :
    ids <+: (library.run actions).idsOf kind := by
  induction actions generalizing library with
  | nil => exact hbegins
  | cons action actions ih =>
    rw [takesNewest, Bool.and_eq_true] at hnewest
    rw [created_cons, List.mem_append, not_or] at hcreated
    have hnext : (library.perform action).get? last ≠ none := by
      intro hnone
      cases hget : (library.run (action :: actions)).get? last with
      | none => exact hkept hget
      | some snippet =>
        have hrest : ((library.perform action).run actions).get? last = some snippet := hget
        obtain ⟨before, hbefore, -⟩ := exists_get?_of_run hrest hcreated.2
        cases hnone.symm.trans hbefore
    have hstep : library.removes kind action = true →
        (library.idsOf kind).getLast? = action.deleted? := by
      intro hremoves
      simpa [hremoves] using hnewest.1
    have hfirst := prefix_idsOf_perform hbegins hlast hfresh.head hnext hstep
    exact ih hfirst hfresh.tail hcreated.2 hkept hnewest.2

end ClausePrompt.Library
