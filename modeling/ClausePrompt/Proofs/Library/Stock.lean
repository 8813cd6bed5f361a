import ClausePrompt.Proofs.Library.Run

namespace ClausePrompt.Library

theorem created_cons (action : Action) (actions : List Action) :
    (action :: actions).filterMap Action.created? =
      action.created?.toList ++ actions.filterMap Action.created? := by
  cases action <;> rfl

-- What is put into the library is what the draft makes of the snippets so far.
theorem get?_create (library : Library) (draft : Snippet.Draft) (new : String) (createdAt : Nat)
    (id : String) :
    (library.create draft new createdAt).state.get? id =
      if id = new then some (drafted library.snippets.values draft new createdAt)
      else library.get? id :=
  OrderedMap.get?_insert library.snippets new id _

-- What is under an id that an action does not create was there before, apart from its content and
-- its comment.
theorem exists_get?_of_perform {library : Library} {action : Action} {id : String}
    {snippet : Snippet} (h : (library.perform action).get? id = some snippet)
    (hid : id ∉ action.created?) :
    ∃ before, library.get? id = some before ∧ snippet.name = before.name ∧
      snippet.kind = before.kind := by
  cases action with
  | create draft new createdAt =>
    have hne : id ≠ new := fun heq => hid (congrArg some heq.symm)
    rw [perform, get?_create, if_neg hne] at h
    exact ⟨snippet, h, rfl, rfl⟩
  | update changed changes =>
    rw [perform, Library.update] at h
    cases hfound : library.get? changed with
    | none =>
      rw [hfound] at h
      exact ⟨snippet, h, rfl, rfl⟩
    | some found =>
      rw [hfound] at h
      have hget := OrderedMap.get?_insert library.snippets changed id (found.change changes)
      have hafter := hget.symm.trans h
      by_cases heq : id = changed
      · rw [if_pos heq] at hafter
        obtain rfl := Option.some.inj hafter
        exact ⟨found, by rw [heq, hfound], rfl, rfl⟩
      · rw [if_neg heq] at hafter
        exact ⟨snippet, hafter, rfl, rfl⟩
  | delete removed =>
    rw [perform, Library.delete] at h
    cases hfound : library.get? removed with
    | none =>
      rw [hfound] at h
      exact ⟨snippet, h, rfl, rfl⟩
    | some found =>
      rw [hfound] at h
      have hafter := (OrderedMap.get?_erase library.snippets removed id).symm.trans h
      by_cases heq : id = removed
      · rw [if_pos heq] at hafter
        cases hafter
      · rw [if_neg heq] at hafter
        exact ⟨snippet, hafter, rfl, rfl⟩

theorem exists_get?_of_run {library : Library} {actions : List Action} {id : String}
    {snippet : Snippet} (h : (library.run actions).get? id = some snippet)
    (hid : id ∉ actions.filterMap Action.created?) :
    ∃ before, library.get? id = some before ∧ snippet.name = before.name ∧
      snippet.kind = before.kind := by
  induction actions generalizing library with
  | nil => exact ⟨snippet, h, rfl, rfl⟩
  | cons action actions ih =>
    rw [created_cons, List.mem_append, not_or, Option.mem_toList] at hid
    obtain ⟨between, hbetween, hname, hkind⟩ := ih h hid.2
    obtain ⟨before, hbefore, hnameBefore, hkindBefore⟩ := exists_get?_of_perform hbetween hid.1
    exact ⟨before, hbefore, hname.trans hnameBefore, hkind.trans hkindBefore⟩

-- Nothing is found under an id before it is created.
theorem get?_perform_of_free {library : Library} {action : Action} {id : String}
    (hfree : library.get? id = none) (hid : id ∉ action.created?) :
    (library.perform action).get? id = none := by
  cases hget : (library.perform action).get? id with
  | none => rfl
  | some snippet =>
    obtain ⟨before, hbefore, -⟩ := exists_get?_of_perform hget hid
    cases hfree.symm.trans hbefore

-- The ids that a run creates are different, and there is nothing under any of them yet.
structure Fresh (library : Library) (actions : List Action) : Prop where
  nodup : (actions.filterMap Action.created?).Nodup
  free : ∀ id ∈ actions.filterMap Action.created?, library.get? id = none

namespace Fresh

variable {library : Library} {action : Action} {actions first second : List Action}

theorem empty (h : (actions.filterMap Action.created?).Nodup) : Fresh {} actions :=
  ⟨h, fun _ _ => rfl⟩

theorem head (h : library.Fresh (action :: actions)) :
    ∀ id ∈ action.created?, library.get? id = none := by
  intro id hid
  apply h.free
  rw [created_cons]
  exact List.mem_append_left _ (Option.mem_toList.mpr hid)

-- An id that is created later is still free after the first action.
theorem tail (h : library.Fresh (action :: actions)) :
    (library.perform action).Fresh actions := by
  obtain ⟨hnodup, hfree⟩ := h
  rw [created_cons] at hnodup hfree
  obtain ⟨-, hrest, hnew⟩ := List.nodup_append.mp hnodup
  refine ⟨hrest, fun id hid => ?_⟩
  apply get?_perform_of_free (hfree id (List.mem_append_right _ hid))
  intro hcreated
  exact hnew id (Option.mem_toList.mpr hcreated) id hid rfl

theorem left (h : library.Fresh (first ++ second)) : library.Fresh first := by
  obtain ⟨hnodup, hfree⟩ := h
  rw [List.filterMap_append] at hnodup hfree
  exact ⟨(List.nodup_append.mp hnodup).1, fun id hid => hfree id (List.mem_append_left _ hid)⟩

theorem right (h : library.Fresh (first ++ second)) : (library.run first).Fresh second := by
  induction first generalizing library with
  | nil => exact h
  | cons action first ih => exact ih h.tail

theorem not_created_again {draft : Snippet.Draft} {id : String} {createdAt : Nat}
    (h : library.Fresh (.create draft id createdAt :: actions)) :
    id ∉ actions.filterMap Action.created? := by
  obtain ⟨hnodup, -⟩ := h
  rw [created_cons] at hnodup
  exact (List.nodup_cons.mp hnodup).1

end Fresh

section Counting

variable (library : Library) (kind : SnippetKind)

-- The action puts a snippet of the kind into the library.
def Action.adds : Action → Bool
  | .create draft _ _ => draft.kind = kind
  | .update _ _ | .delete _ => false

-- The action takes a snippet of the kind out of the library.
def removes : Action → Bool
  | .delete id => (library.get? id).any (·.kind = kind)
  | .create _ _ _ | .update _ _ => false

-- How many snippets of the kind are taken out in a run.
def removals : Library → List Action → Nat
  | _, [] => 0
  | library, action :: actions =>
    (library.removes kind action).toNat + removals (library.perform action) actions

variable {library}

theorem countOf_create (draft : Snippet.Draft) {id : String} (createdAt : Nat)
    (hfree : library.get? id = none) :
    (library.create draft id createdAt).state.countOf kind =
      library.countOf kind + (decide (draft.kind = kind)).toNat := by
  have hcount := OrderedMap.countP_values_insert library.snippets id
    (drafted library.snippets.values draft id createdAt) (·.kind = kind)
  have hnone : library.snippets.get? id = none := hfree
  rw [hnone] at hcount
  exact hcount

-- A change leaves the kind of a snippet as it is.
theorem countOf_update (id : String) (changes : Snippet.Changes) :
    (library.update id changes).state.countOf kind = library.countOf kind := by
  unfold update
  cases hget : library.get? id with
  | none => rfl
  | some snippet =>
    have hcount := OrderedMap.countP_values_insert library.snippets id (snippet.change changes)
      (·.kind = kind)
    have hfound : library.snippets.get? id = some snippet := hget
    rw [hfound] at hcount
    exact Nat.add_right_cancel hcount

theorem countOf_delete (id : String) :
    (library.delete id).state.countOf kind + ((library.get? id).any (·.kind = kind)).toNat =
      library.countOf kind := by
  have hcount := OrderedMap.countP_values_erase library.snippets id (·.kind = kind)
  unfold delete
  cases hget : library.get? id with
  | none => rfl
  | some snippet =>
    have hfound : library.snippets.get? id = some snippet := hget
    rw [hfound] at hcount
    exact hcount

-- What is in the library after an action, together with what was taken out by it, is what was there
-- before together with what was put in.
theorem countOf_perform {action : Action}
    (hfree : ∀ id ∈ action.created?, library.get? id = none) :
    (library.perform action).countOf kind + (library.removes kind action).toNat =
      library.countOf kind + (action.adds kind).toNat := by
  cases action with
  | create draft id createdAt => exact countOf_create kind draft createdAt (hfree id rfl)
  | update id changes => exact congrArg (· + 0) (countOf_update kind id changes)
  | delete id => exact countOf_delete kind id

theorem countOf_run {actions : List Action} (hfresh : library.Fresh actions) :
    (library.run actions).countOf kind + removals kind library actions =
      library.countOf kind + actions.countP (·.adds kind) := by
  induction actions generalizing library with
  | nil => rfl
  | cons action actions ih =>
    have hstep := countOf_perform kind hfresh.head
    have hrun : (library.run (action :: actions)).countOf kind +
        removals kind (library.perform action) actions =
          (library.perform action).countOf kind + actions.countP (·.adds kind) := ih hfresh.tail
    have hadds : (action :: actions).countP (·.adds kind) =
        actions.countP (·.adds kind) + (action.adds kind).toNat := by
      rw [List.countP_cons]
      cases action.adds kind <;> rfl
    rw [removals, hadds]
    omega

end Counting

end ClausePrompt.Library
