import ClausePrompt.Proofs.Library.Run
import Mathlib.Data.List.Induction

namespace ClausePrompt.Library

-- A snippet as it was created, and everything that was done after that.
structure Account where
  created : Snippet
  later : List Action := []

namespace Account

variable {α : Type}

def extend (account : Account) (action : Action) : Account :=
  { account with later := account.later ++ [action] }

def kept (account : Account) : Bool := Action.delete account.created.id ∉ account.later

-- What an action gives for a field of the snippet of this id.
def given? (id : String) (field : Snippet.Changes → Option α) : Action → Option α
  | .update changed changes => if id = changed then field changes else none
  | .create _ _ _ | .delete _ => none

-- The last value that was given for the field.
def latest? (account : Account) (field : Snippet.Changes → Option α) : Option α :=
  (account.later.filterMap (given? account.created.id field)).getLast?

def current (account : Account) : Snippet :=
  { account.created with
    content := (account.latest? (·.content)).getD account.created.content
    comment := (account.latest? (·.comment)).or account.created.comment }

theorem kept_extend (account : Account) (action : Action) :
    (account.extend action).kept =
      (account.kept && Action.delete account.created.id ≠ action) := by
  rw [Bool.eq_iff_iff]
  simp [kept, extend]

theorem latest?_extend (account : Account) (action : Action)
    (field : Snippet.Changes → Option α) :
    (account.extend action).latest? field =
      (given? account.created.id field action).or (account.latest? field) := by
  unfold latest? extend
  rw [List.filterMap_append]
  cases hgiven : given? account.created.id field action with
  | none => simp [hgiven]
  | some value => simp [hgiven]

theorem current_extend_create (account : Account) (draft : Snippet.Draft) (id : String)
    (createdAt : Nat) : (account.extend (.create draft id createdAt)).current = account.current := by
  simp only [current, latest?_extend, given?, Option.none_or]
  rfl

theorem current_extend_delete (account : Account) (id : String) :
    (account.extend (.delete id)).current = account.current := by
  simp only [current, latest?_extend, given?, Option.none_or]
  rfl

-- An update puts the values that it gives over those that were there.
theorem current_extend_update (account : Account) (id : String) (changes : Snippet.Changes) :
    (account.extend (.update id changes)).current =
      if account.current.id = id then account.current.change changes else account.current := by
  simp only [current, latest?_extend, given?]
  by_cases hid : account.created.id = id
  · subst hid
    simp only [extend, if_true, Snippet.change, Option.or_assoc]
    cases changes.content <;> rfl
  · simp [extend, hid]

end Account

-- The snippets that were created and not deleted since, as they are now.
def standing (accounts : List Account) : List Snippet :=
  (accounts.filter (·.kept)).map (·.current)

def opened (accounts : List Account) : Action → List Account
  | .create draft id createdAt => [{ created := drafted (standing accounts) draft id createdAt }]
  | .update _ _ | .delete _ => []

-- Every account goes on, and a new snippet opens one.
def record (accounts : List Account) (action : Action) : List Account :=
  accounts.map (·.extend action) ++ opened accounts action

def accounts (actions : List Action) : List Account := actions.foldl record []

def holdings (actions : List Action) : List Snippet := standing (accounts actions)

theorem ids_record (accounts : List Account) (action : Action) :
    (record accounts action).map (·.created.id) =
      accounts.map (·.created.id) ++ action.created?.toList := by
  rw [record, List.map_append, List.map_map]
  cases action <;> rfl

theorem accounts_append_singleton (actions : List Action) (action : Action) :
    accounts (actions ++ [action]) = record (accounts actions) action := by
  simp [accounts]

theorem ids_accounts (actions : List Action) :
    (accounts actions).map (·.created.id) = actions.filterMap Action.created? := by
  induction actions using List.reverseRecOn with
  | nil => rfl
  | append_singleton actions action ih =>
    rw [accounts_append_singleton, ids_record, ih, List.filterMap_append]
    cases action <;> rfl

theorem mem_ids_of_mem_standing {accounts : List Account} {id : String}
    (h : id ∈ (standing accounts).map (·.id)) : id ∈ accounts.map (·.created.id) := by
  obtain ⟨snippet, hsnippet, rfl⟩ := List.mem_map.mp h
  obtain ⟨account, haccount, rfl⟩ := List.mem_map.mp hsnippet
  exact List.mem_map.mpr ⟨account, List.mem_of_mem_filter haccount, rfl⟩

theorem standing_append (front back : List Account) :
    standing (front ++ back) = standing front ++ standing back := by
  simp [standing]

-- An action that deletes nothing keeps every account.
theorem standing_map_extend {action : Action} (hkept : ∀ id, Action.delete id ≠ action)
    (accounts : List Account) :
    standing (accounts.map (·.extend action)) =
      (accounts.filter (·.kept)).map fun account => (account.extend action).current := by
  have hsame : ((·.kept) ∘ fun account : Account => account.extend action) = (·.kept) := by
    funext account
    simp [Account.kept_extend, hkept]
  rw [standing, List.filter_map, hsame, List.map_map]
  rfl

theorem standing_record_create (accounts : List Account) (draft : Snippet.Draft) (id : String)
    (createdAt : Nat) :
    standing (record accounts (.create draft id createdAt)) =
      standing accounts ++ [drafted (standing accounts) draft id createdAt] := by
  rw [record, standing_append, standing_map_extend (by simp)]
  simp only [Account.current_extend_create]
  rfl

theorem standing_record_update (accounts : List Account) (id : String)
    (changes : Snippet.Changes) :
    standing (record accounts (.update id changes)) =
      (standing accounts).map fun snippet =>
        if snippet.id = id then snippet.change changes else snippet := by
  rw [record, opened, List.append_nil, standing_map_extend (by simp)]
  simp only [Account.current_extend_update]
  rw [standing, List.map_map]
  rfl

theorem standing_record_delete (accounts : List Account) (id : String) :
    standing (record accounts (.delete id)) = (standing accounts).filter (·.id ≠ id) := by
  have hkept : ∀ account : Account, (account.extend (.delete id)).kept =
      (decide (account.created.id ≠ id) && account.kept) := by
    intro account
    rw [Account.kept_extend, Bool.and_comm]
    simp
  rw [record, opened, List.append_nil, standing, standing, List.filter_map, List.filter_map,
    List.map_map, List.filter_filter]
  simp only [Function.comp_def, Account.current_extend_delete, hkept]
  rfl

-- What one action makes of the library is what it makes of the accounts.
theorem Holds.perform {library : Library} {accounts : List Account}
    (h : library.Holds (standing accounts)) (action : Action)
    (hfresh : ∀ id ∈ action.created?, id ∉ accounts.map (·.created.id)) :
    (library.perform action).Holds (standing (record accounts action)) := by
  cases action with
  | create draft id createdAt =>
    have hid : id ∉ (standing accounts).map (·.id) :=
      mt mem_ids_of_mem_standing (hfresh id rfl)
    rw [standing_record_create]
    exact (h.create draft createdAt hid).2
  | update id changes =>
    rw [standing_record_update]
    exact h.update id changes
  | delete id =>
    rw [standing_record_delete]
    exact h.delete id

theorem holds_run {actions : List Action} (hids : (actions.filterMap Action.created?).Nodup) :
    (run {} actions).Holds (holdings actions) := by
  induction actions using List.reverseRecOn with
  | nil => rfl
  | append_singleton actions action ih =>
    rw [List.filterMap_append, List.nodup_append] at hids
    obtain ⟨hbefore, -, hnew⟩ := hids
    rw [run_append_singleton, holdings, accounts_append_singleton]
    apply (ih hbefore).perform
    -- an id that is created last is not the id of any account, not even of one that was deleted
    intro id hid hmem
    rw [ids_accounts] at hmem
    exact hnew id hmem id (by simpa using hid) rfl

-- A library has the snippets that were created and not deleted since, in the order of their
-- creation and each as its last updates left it. All that it tells is told of this list.
theorem holdings_of_run {actions : List Action} {library : Library} (hrun : run {} actions = library)
    (hids : (actions.filterMap Action.created?).Nodup) :
    library.snippets.values = holdings actions ∧
      library.size = (holdings actions).length ∧
      ((holdings actions).map (·.id)).Nodup ∧
      (∀ id, library.get? id = (holdings actions).find? (·.id = id)) ∧
      (∀ draft id createdAt, id ∉ actions.filterMap Action.created? →
        ∃ snippet, (library.create draft id createdAt).outcome = .ok snippet ∧
          holdings (actions ++ [.create draft id createdAt]) = holdings actions ++ [snippet]) ∧
      (∀ id changes, (library.update id changes).outcome =
        .ok ((holdings (actions ++ [.update id changes])).find? (·.id = id))) ∧
      (∀ id, (library.delete id).outcome = .ok ((holdings actions).any (·.id = id))) ∧
      (∀ isPublic kind, library.list isPublic kind = (holdings actions).filter fun snippet =>
        snippet.isPublic = isPublic ∧ ∀ k ∈ kind, snippet.kind = k) ∧
      ∀ kind, (library.list true kind ++ library.list false kind).Perm
        ((holdings actions).filter fun snippet => ∀ k ∈ kind, snippet.kind = k) := by
  subst hrun
  have hholds := holds_run hids
  refine ⟨hholds.values_eq, hholds.size_eq, hholds.nodup, hholds.get?_eq, ?_, ?_, ?_,
    hholds.list_eq, hholds.list_perm⟩
  · intro draft id createdAt hid
    have hfresh : id ∉ (holdings actions).map (·.id) := fun hmem =>
      hid (ids_accounts actions ▸ mem_ids_of_mem_standing hmem)
    refine ⟨_, (hholds.create draft createdAt hfresh).1, ?_⟩
    rw [holdings, accounts_append_singleton, standing_record_create]
    rfl
  · intro id changes
    have hafter : ((run {} actions).update id changes).state.Holds
        (holdings (actions ++ [.update id changes])) := by
      rw [holdings, accounts_append_singleton, standing_record_update]
      exact hholds.update id changes
    rw [outcome_update, hafter.get?_eq]
  · intro id
    rw [outcome_delete, hholds.get?_eq, List.isSome_find?]

theorem holdings_of_run_updated :
    let swift : Snippet.Draft := { content := "*in* swift" }
    let slow : Snippet.Draft := { content := "*in* slow", name := some "Slow", kind := .mold }
    let actions : List Action := [.create swift "a" 10, .create slow "b" 20,
      .update "a" { comment := some "first" }, .update "c" { content := some "*in* lost" },
      .update "a" { content := some "*in* quick" }, .delete "d", .delete "b", .create swift "c" 30]
    (run {} actions).snippets.values =
      [{ id := "a", name := "Prompt 1", content := "*in* quick", comment := some "first",
          isPublic := false, kind := .prompt, createdAt := 10 },
        { id := "c", name := "Prompt 2", content := "*in* swift", comment := none,
          isPublic := false, kind := .prompt, createdAt := 30 }] :=
  (holdings_of_run rfl (by decide)).1.trans (by decide)

end ClausePrompt.Library
