import ClausePrompt.Proofs.Library.Newest

namespace ClausePrompt

-- The titles begin with different letters, so that a name tells the kind and the number that it was
-- made from.
theorem SnippetKind.numbered_eq_iff {first second : SnippetKind} {n m : Nat} :
    first.title ++ " " ++ toString n = second.title ++ " " ++ toString m ↔
      first = second ∧ n = m := by
  constructor
  · intro h
    have hkind : first = second := by
      have hhead := congrArg (fun text : String => text.toList.head?) h
      cases first <;> cases second <;> simp [title] at hhead ⊢
    subst hkind
    have hnumber := (String.append_right_inj (first.title ++ " ")).mp h
    have hdigits : Nat.toDigits 10 n = Nat.toDigits 10 m := String.ofList_injective hnumber
    have hread := congrArg (Nat.ofDigitChars 10 · 0) hdigits
    simp only [Nat.ofDigitChars_toDigits (by decide : 1 < 10) (by decide : 10 ≤ 10)] at hread
    exact ⟨rfl, hread⟩
  · rintro ⟨rfl, rfl⟩
    rfl

namespace Library

-- A snippet has the name that it was created with as long as it is kept.
theorem name_of_created {front back : List Action} {draft : Snippet.Draft} {id : String}
    {createdAt : Nat} {snippet : Snippet} (hname : draft.name = none)
    (hback : id ∉ back.filterMap Action.created?)
    (h : (run {} (front ++ .create draft id createdAt :: back)).get? id = some snippet) :
    snippet.name = (run {} front).defaultName draft.kind ∧ snippet.kind = draft.kind := by
  rw [run_append] at h
  have hrun : (((run {} front).create draft id createdAt).state.run back).get? id = some snippet :=
    h
  obtain ⟨created, hcreated, hsame, hkind⟩ := exists_get?_of_run hrun hback
  rw [get?_create, if_pos rfl] at hcreated
  obtain rfl := Option.some.inj hcreated
  refine ⟨hsame.trans ?_, hkind⟩
  rw [drafted, hname]
  rfl

-- What is found after a run was created in it.
theorem exists_creation {actions : List Action} {id : String} {snippet : Snippet}
    (h : (run {} actions).get? id = some snippet) :
    ∃ draft createdAt, .create draft id createdAt ∈ actions := by
  have hmem : id ∈ actions.filterMap Action.created? := by
    by_contra hnot
    obtain ⟨before, hbefore, -⟩ := exists_get?_of_run h hnot
    cases hbefore
  obtain ⟨action, haction, hcreated⟩ := List.mem_filterMap.mp hmem
  cases action with
  | create draft new createdAt =>
    obtain rfl := Option.some.inj hcreated
    exact ⟨draft, createdAt, haction⟩
  | update | delete => cases hcreated

section Created

variable {front middle back actions : List Action} {first second : Snippet.Draft}
  {older younger : String} {createdFirst createdSecond : Nat} {a b : Snippet}

-- Two snippets that were created without a name have one name if they are of one kind and there
-- were as many of that kind before the one as before the other.
theorem name_eq_iff_countOf
    (hactions : actions = front ++ .create first older createdFirst ::
      (middle ++ .create second younger createdSecond :: back))
    (hids : (actions.filterMap Action.created?).Nodup)
    (hfirst : first.name = none) (hsecond : second.name = none)
    (ha : (run {} actions).get? older = some a) (hb : (run {} actions).get? younger = some b) :
    a.name = b.name ↔ a.kind = b.kind ∧ (run {} front).countOf a.kind =
      (run {} (front ++ .create first older createdFirst :: middle)).countOf a.kind := by
  have hregroup : actions = (front ++ .create first older createdFirst :: middle) ++
      .create second younger createdSecond :: back := by
    simp [hactions]
  have hlater : older ∉ (middle ++ .create second younger createdSecond :: back).filterMap
      Action.created? := (Fresh.empty (hactions ▸ hids)).right.not_created_again
  have hlast : younger ∉ back.filterMap Action.created? :=
    (Fresh.empty (hregroup ▸ hids)).right.not_created_again
  obtain ⟨hnameFirst, hkindFirst⟩ := name_of_created hfirst hlater (hactions ▸ ha)
  obtain ⟨hnameSecond, hkindSecond⟩ := name_of_created hsecond hlast (hregroup ▸ hb)
  rw [hnameFirst, hnameSecond, ← hkindFirst, ← hkindSecond, defaultName, defaultName,
    SnippetKind.numbered_eq_iff]
  constructor
  · rintro ⟨hkind, hnumbers⟩
    rw [← hkind] at hnumbers
    exact ⟨hkind, Nat.succ.inj hnumbers⟩
  · rintro ⟨hkind, hcounts⟩
    rw [← hkind, ← hcounts]
    exact ⟨rfl, rfl⟩

-- The older of them counts as well, so that one more has to be taken out than is put in for its
-- number to come again.
theorem countOf_eq_iff_removals {kind : SnippetKind} (hkind : first.kind = kind)
    (hids : ((front ++ .create first older createdFirst :: middle).filterMap
      Action.created?).Nodup) :
    (run {} front).countOf kind =
        (run {} (front ++ .create first older createdFirst :: middle)).countOf kind ↔
      removals kind (run {} (front ++ [.create first older createdFirst])) middle =
        middle.countP (·.adds kind) + 1 := by
  have hbetween := countOf_run kind (Fresh.empty hids).right
  have hmoved : removals kind (run {} front) (.create first older createdFirst :: middle) =
      removals kind (run {} (front ++ [.create first older createdFirst])) middle := by
    rw [run_append_singleton, removals]
    exact Nat.zero_add _
  have hadds : (Action.create first older createdFirst :: middle).countP (·.adds kind) =
      middle.countP (·.adds kind) + 1 := by
    rw [List.countP_cons]
    simp [Action.adds, hkind]
  rw [← run_append, hmoved, hadds] at hbetween
  omega

-- Where only the newest of a kind are taken out, the number does not come again.
theorem name_ne_of_takesNewest
    (hactions : actions = front ++ .create first older createdFirst ::
      (middle ++ .create second younger createdSecond :: back))
    (hids : (actions.filterMap Action.created?).Nodup)
    (hfirst : first.name = none) (hsecond : second.name = none)
    (ha : (run {} actions).get? older = some a) (hb : (run {} actions).get? younger = some b)
    (hnewest : takesNewest a.kind {} actions = true) : a.name ≠ b.name := by
  intro hname
  obtain ⟨-, hcounts⟩ := (name_eq_iff_countOf hactions hids hfirst hsecond ha hb).mp hname
  have hregroup : actions = (front ++ [.create first older createdFirst]) ++
      (middle ++ .create second younger createdSecond :: back) := by
    simp [hactions]
  have hopening := (Fresh.empty (hactions ▸ hids)).right
  have hlater := hopening.not_created_again
  have hkind := (name_of_created hfirst hlater (hactions ▸ ha)).2
  rw [List.filterMap_append, List.mem_append, not_or] at hlater
  rw [hregroup] at hids ha hnewest
  have hfresh := (Fresh.empty hids).right
  rw [takesNewest_append, Bool.and_eq_true] at hnewest
  have hmiddle := hnewest.2
  rw [takesNewest_append, Bool.and_eq_true] at hmiddle
  -- after its creation the older one is the last of its kind, and it is there until the younger one
  -- is created
  have hends : (run {} (front ++ [.create first older createdFirst])).idsOf a.kind =
      (run {} front).idsOf a.kind ++ [older] := by
    rw [run_append_singleton, perform, idsOf_create first createdFirst (hopening.head older rfl),
      if_pos hkind.symm]
  have hkept : ((run {} (front ++ [.create first older createdFirst])).run middle).get? older ≠
      none := by
    intro hnone
    rw [run_append, run_append] at ha
    obtain ⟨before, hbefore, -⟩ := exists_get?_of_run ha hlater.2
    cases hnone.symm.trans hbefore
  have hbegins := prefix_idsOf_run (List.prefix_refl _) (by rw [hends, List.getLast?_concat])
    hfresh.left hlater.1 hkept hmiddle.1
  -- so there is one more of the kind than before the older one
  have hlength := hbegins.length_le
  rw [hends, List.length_append, length_idsOf, length_idsOf, List.length_singleton, ← run_append,
    List.append_assoc, List.singleton_append] at hlength
  omega

end Created

-- Two ids that are found after a run were created one after the other.
theorem exists_creations {actions : List Action} {id other : String} {a b : Snippet}
    (ha : (run {} actions).get? id = some a) (hb : (run {} actions).get? other = some b)
    (hne : id ≠ other) :
    ∃ front middle back first second createdFirst createdSecond,
      actions = front ++ .create first id createdFirst ::
          (middle ++ .create second other createdSecond :: back) ∨
        actions = front ++ .create second other createdSecond ::
          (middle ++ .create first id createdFirst :: back) := by
  obtain ⟨first, createdFirst, hfirst⟩ := exists_creation ha
  obtain ⟨second, createdSecond, hsecond⟩ := exists_creation hb
  obtain ⟨front, back, rfl⟩ := List.append_of_mem hfirst
  rcases List.mem_append.mp hsecond with hbefore | hafter
  · obtain ⟨start, middle, rfl⟩ := List.append_of_mem hbefore
    exact ⟨start, middle, back, first, second, createdFirst, createdSecond, .inr (by simp)⟩
  · rcases List.mem_cons.mp hafter with hsame | hlater
    · cases hsame
      exact absurd rfl hne
    · obtain ⟨middle, rest, rfl⟩ := List.append_of_mem hlater
      exact ⟨front, middle, rest, first, second, createdFirst, createdSecond, .inl rfl⟩

-- A name that was not given counts the snippets of the kind at the time. In a library that was
-- filled without names, two snippets have one name exactly if they are of one kind and, between the
-- creation of the older and that of the younger, one more of that kind was taken out than was put
-- in. No two snippets have one name if whatever is taken out is the newest of its kind.
theorem names_of_run {actions : List Action} {library : Library} (hrun : run {} actions = library)
    (hids : (actions.filterMap Action.created?).Nodup)
    (hunnamed : ∀ draft id createdAt, .create draft id createdAt ∈ actions → draft.name = none) :
    (∀ front middle back first second older younger createdFirst createdSecond,
      actions = front ++ .create first older createdFirst ::
        (middle ++ .create second younger createdSecond :: back) →
      ∀ a b, library.get? older = some a → library.get? younger = some b →
        (a.name = b.name ↔ a.kind = b.kind ∧
          removals a.kind (run {} (front ++ [.create first older createdFirst])) middle =
            middle.countP (·.adds a.kind) + 1)) ∧
    ((∀ kind, takesNewest kind {} actions = true) →
      (library.snippets.values.map (·.name)).Nodup) := by
  subst hrun
  constructor
  · intro front middle back first second older younger createdFirst createdSecond hactions a b ha hb
    have hfirst := hunnamed first older createdFirst (by simp [hactions])
    have hsecond := hunnamed second younger createdSecond (by simp [hactions])
    have hlater := (Fresh.empty (hactions ▸ hids)).right.not_created_again
    have hkind := (name_of_created hfirst hlater (hactions ▸ ha)).2
    have hregroup : actions = (front ++ .create first older createdFirst :: middle) ++
        .create second younger createdSecond :: back := by
      simp [hactions]
    have hbefore := (Fresh.empty (hregroup ▸ hids)).left.nodup
    rw [name_eq_iff_countOf hactions hids hfirst hsecond ha hb,
      countOf_eq_iff_removals hkind.symm hbefore]
  · intro hnewest
    rw [OrderedMap.values, List.map_map]
    apply List.Nodup.map_on _ (List.Nodup.of_map _ (run {} actions).snippets.keys_nodup)
    rintro ⟨id, a⟩ ha ⟨other, b⟩ hb hname
    by_contra hdistinct
    have hne : id ≠ other := fun heq => hdistinct
      (List.inj_on_of_nodup_map (run {} actions).snippets.keys_nodup ha hb heq)
    have hgetFirst : (run {} actions).get? id = some a := OrderedMap.get?_eq_some_iff.mpr ha
    have hgetSecond : (run {} actions).get? other = some b := OrderedMap.get?_eq_some_iff.mpr hb
    obtain ⟨front, middle, back, first, second, createdFirst, createdSecond, hactions | hactions⟩ :=
      exists_creations hgetFirst hgetSecond hne
    · have hfirst := hunnamed first id createdFirst (by simp [hactions])
      have hsecond := hunnamed second other createdSecond (by simp [hactions])
      exact name_ne_of_takesNewest hactions hids hfirst hsecond hgetFirst hgetSecond
        (hnewest a.kind) hname
    · have hfirst := hunnamed first id createdFirst (by simp [hactions])
      have hsecond := hunnamed second other createdSecond (by simp [hactions])
      exact name_ne_of_takesNewest hactions hids hsecond hfirst hgetSecond hgetFirst
        (hnewest b.kind) hname.symm

-- The number two comes again after the first of two snippets was taken out, whatever was updated.
theorem names_of_run_again :
    let swift : Snippet.Draft := { content := "*in* swift" }
    let actions : List Action := [.create swift "a" 10, .create swift "b" 20, .delete "a",
      .update "b" { comment := some "kept" }, .create swift "c" 30]
    (run {} actions).snippets.values.map (·.name) = ["Prompt 2", "Prompt 2"] ∧
      ¬ ((run {} actions).snippets.values.map (·.name)).Nodup := by
  decide

-- A snippet of another kind and the newest of its kind are taken out between two that keep their
-- names apart. In the second run it is the older one that is taken out, and the names are one.
theorem names_of_run_newest :
    let swift : Snippet.Draft := { content := "*in* swift" }
    let page : Snippet.Draft := { content := "*mold* [home]", kind := .mold }
    let actions : List Action := [.create swift "a" 10, .create page "b" 20, .create swift "c" 30,
      .delete "c", .delete "b", .create swift "d" 40, .create page "e" 50, .delete "x"]
    let again : List Action := [.create swift "a" 10, .create swift "b" 20, .create page "c" 30,
      .delete "a", .create swift "d" 40]
    (run {} actions).snippets.values.map (·.name) = ["Prompt 1", "Prompt 2", "Mold 1"] ∧
      ((run {} actions).snippets.values.map (·.name)).Nodup ∧
      ∃ first second, (run {} again).get? "b" = some first ∧
        (run {} again).get? "d" = some second ∧ first.name = second.name := by
  intro swift page actions again
  have hunnamed : ∀ draft id createdAt,
      .create draft id createdAt ∈ actions ++ again → draft.name = none := by
    intro draft id createdAt hmem
    simp only [actions, again, List.mem_append, List.mem_cons, reduceCtorEq, Action.create.injEq,
      List.not_mem_nil, or_false, false_or] at hmem
    grind
  have hnewest : ∀ kind, takesNewest kind {} actions = true := by
    intro kind
    cases kind <;> decide
  refine ⟨by decide, ?_, _, _, rfl, rfl, ?_⟩
  · apply (names_of_run rfl (by decide) ?_).2 hnewest
    intro draft id createdAt hmem
    exact hunnamed draft id createdAt (List.mem_append_left _ hmem)
  · have hlater : ∀ draft id createdAt, .create draft id createdAt ∈ again → draft.name = none :=
      fun draft id createdAt hmem => hunnamed draft id createdAt (List.mem_append_right _ hmem)
    exact ((names_of_run rfl (by decide) hlater).1 [.create swift "a" 10]
      [.create page "c" 30, .delete "a"] [] swift swift "b" "d" 20 40 rfl _ _ rfl rfl).mpr
        ⟨rfl, by decide⟩

end Library

end ClausePrompt
