import ClausePrompt.Proofs.Form.Field
import ClausePrompt.Proofs.Library.Run
import ClausePrompt.Proofs.Prompt.Joined

namespace ClausePrompt

namespace Snippet

-- What a library may hold: a trimmed text of at least one standard clause.
structure IsContent (content : String) : Prop where
  trimmed : Text.trimmed content = content
  ne_empty : content ≠ ""
  parses : ∃ prompt, Prompt.parse .standard content = .ok prompt ∧ prompt.clauses ≠ []

-- A text is checked successfully exactly if it is content apart from the blanks around it.
theorem checkContent_eq_ok_iff {source content : String} :
    checkContent source = .ok content ↔ Text.trimmed source = content ∧ IsContent content := by
  unfold checkContent
  constructor
  · intro h
    dsimp only at h
    split at h
    · cases h
    · rename_i hne
      split at h
      · rename_i prompt hparse
        obtain rfl := Except.ok.inj h
        exact ⟨rfl, Text.trimmed_trimmed source, hne, prompt, hparse,
          Prompt.clauses_ne_nil_of_parse (Text.allBlank_trimmed hne) hparse⟩
      · cases h
      · cases h
  · rintro ⟨rfl, hcontent⟩
    obtain ⟨prompt, hparse, -⟩ := hcontent.parses
    dsimp only
    rw [if_neg hcontent.ne_empty, hparse]

theorem isContent_of_firstContent {value : Value} {content : String}
    (h : firstContent value = .ok content) : IsContent content := by
  obtain ⟨source, -, hrest⟩ := Outcome.bind_eq_ok_iff.mp h
  split at hrest
  · cases hrest
  · exact (checkContent_eq_ok_iff.mp hrest).2

theorem isContent_of_newContent {value : Value} {content : String}
    (h : newContent value = .ok (some content)) : IsContent content := by
  obtain ⟨given, -, hrest⟩ := Outcome.bind_eq_ok_iff.mp h
  cases given with
  | none => cases hrest
  | some source =>
    obtain ⟨checked, hchecked, hsame⟩ := Outcome.bind_eq_ok_iff.mp hrest
    obtain rfl : checked = content := Option.some.inj (Except.ok.inj hsame)
    exact (checkContent_eq_ok_iff.mp hchecked).2

section Fields

variable {fields : Fields}

-- A draft is read from fields if each of them can be read and there is no other.
theorem Draft.ofFields_eq_ok_iff {draft : Draft} :
    Draft.ofFields fields = .ok draft ↔
      Field.required firstContent fields "content" = .ok draft.content ∧
        Field.withDefault givenName none fields "name" = .ok draft.name ∧
        Field.withDefault Field.optionalText none fields "comment" = .ok draft.comment ∧
        Field.withDefault Field.flag false fields "is_public" = .ok draft.isPublic ∧
        Field.withDefault (Field.choice SnippetKind.name SnippetKind.all) .prompt fields "kind" =
          .ok draft.kind ∧
        Field.unexpected Draft.names fields = .ok () := by
  constructor
  · intro h
    simp only [Draft.ofFields, Checked.give_eq_ok_iff] at h
    obtain ⟨_, _, ⟨_, _, hkeep, ⟨_, _, ⟨_, _, ⟨_, _, ⟨_, _, ⟨_, _, hmk, hcontent, rfl⟩, hname, rfl⟩,
      hcomment, rfl⟩, hpublic, rfl⟩, hkind, rfl⟩, rfl⟩, hunexpected, rfl⟩ := h
    cases hkeep
    cases hmk
    exact ⟨hcontent, hname, hcomment, hpublic, hkind, hunexpected⟩
  · rintro ⟨hcontent, hname, hcomment, hpublic, hkind, hunexpected⟩
    rw [Draft.ofFields, hcontent, hname, hcomment, hpublic, hkind, hunexpected]
    rfl

theorem Changes.ofFields_eq_ok_iff {changes : Changes} :
    Changes.ofFields fields = .ok changes ↔
      Field.withDefault newContent none fields "content" = .ok changes.content ∧
        Field.withDefault Field.optionalText none fields "comment" = .ok changes.comment ∧
        Field.unexpected Changes.names fields = .ok () := by
  constructor
  · intro h
    simp only [Changes.ofFields, Checked.give_eq_ok_iff] at h
    obtain ⟨_, _, ⟨_, _, hkeep, ⟨_, _, ⟨_, _, hmk, hcontent, rfl⟩, hcomment, rfl⟩, rfl⟩,
      hunexpected, rfl⟩ := h
    cases hkeep
    cases hmk
    exact ⟨hcontent, hcomment, hunexpected⟩
  · rintro ⟨hcontent, hcomment, hunexpected⟩
    rw [Changes.ofFields, hcontent, hcomment, hunexpected]
    rfl

theorem Draft.isContent_of_ofFields {draft : Draft} (h : Draft.ofFields fields = .ok draft) :
    IsContent draft.content := by
  obtain ⟨value, -, hread⟩ := Field.required_eq_ok_iff.mp (Draft.ofFields_eq_ok_iff.mp h).1
  exact isContent_of_firstContent hread

theorem Changes.isContent_of_ofFields {changes : Changes} {content : String}
    (h : Changes.ofFields fields = .ok changes) (hcontent : changes.content = some content) :
    IsContent content := by
  have hfield := (Changes.ofFields_eq_ok_iff.mp h).1
  rw [hcontent] at hfield
  obtain ⟨value, -, hread⟩ | ⟨-, hnone⟩ := Field.withDefault_eq_ok_iff.mp hfield
  · exact isContent_of_newContent hread
  · cases hnone

-- A change gives a snippet content, or leaves it what it has.
theorem isContent_change {snippet : Snippet} {changes : Changes}
    (hsnippet : IsContent snippet.content) (h : Changes.ofFields fields = .ok changes) :
    IsContent (snippet.change changes).content := by
  unfold change
  cases hcontent : changes.content with
  | none => exact hsnippet
  | some content => exact Changes.isContent_of_ofFields h hcontent

end Fields

end Snippet

namespace Library

-- What an action brings in has passed the check of its fields.
def Action.Checked : Action → Prop
  | .create draft _ _ => ∃ fields, Snippet.Draft.ofFields fields = .ok draft
  | .update _ changes => ∃ fields, Snippet.Changes.ofFields fields = .ok changes
  | .delete _ => True

-- Every snippet has content.
def Sound (library : Library) : Prop :=
  ∀ entry ∈ library.snippets.entries, Snippet.IsContent entry.2.content

namespace Sound

variable {library : Library} (h : library.Sound)
include h

theorem insert {snippet : Snippet} (hsnippet : Snippet.IsContent snippet.content) (id : String) :
    Sound ⟨library.snippets.insert id snippet⟩ := by
  intro entry hentry
  obtain rfl | hold := OrderedMap.mem_insertIn hentry
  · exact hsnippet
  · exact h entry hold

theorem create {draft : Snippet.Draft} (hdraft : Snippet.IsContent draft.content) (id : String)
    (createdAt : Nat) : (library.create draft id createdAt).state.Sound :=
  h.insert hdraft id

theorem update {fields : Fields} {changes : Snippet.Changes}
    (hchanges : Snippet.Changes.ofFields fields = .ok changes) (id : String) :
    (library.update id changes).state.Sound := by
  unfold Library.update
  cases hget : library.get? id with
  | none => exact h
  | some snippet =>
    have hsnippet := h _ (OrderedMap.get?_eq_some_iff.mp hget)
    exact h.insert (Snippet.isContent_change hsnippet hchanges) id

theorem delete (id : String) : (library.delete id).state.Sound := by
  unfold Library.delete
  cases library.get? id with
  | none => exact h
  | some snippet => exact fun entry hentry => h entry (List.mem_of_mem_filter hentry)

theorem perform {action : Action} (haction : action.Checked) : (library.perform action).Sound := by
  cases action with
  | create draft id createdAt =>
    obtain ⟨fields, hfields⟩ := haction
    exact h.create (Snippet.Draft.isContent_of_ofFields hfields) id createdAt
  | update id changes =>
    obtain ⟨fields, hfields⟩ := haction
    exact h.update hfields id
  | delete id => exact h.delete id

theorem run {actions : List Action} (hactions : ∀ action ∈ actions, action.Checked) :
    (library.run actions).Sound := by
  induction actions generalizing library with
  | nil => exact h
  | cons action actions ih =>
    obtain ⟨hfirst, hrest⟩ := List.forall_mem_cons.mp hactions
    exact ih (h.perform hfirst) hrest

end Sound

-- Only what was checked gets into a library, so that every snippet in it is a prompt.
theorem isContent_of_run {actions : List Action} (hactions : ∀ action ∈ actions, action.Checked) :
    ∀ snippet ∈ (run {} actions).snippets.values, Snippet.IsContent snippet.content := by
  have hempty : Sound {} := fun entry hentry => absurd hentry List.not_mem_nil
  intro snippet hsnippet
  obtain ⟨entry, hentry, rfl⟩ := List.mem_map.mp hsnippet
  exact hempty.run hactions entry hentry

-- Blanks around what is given, a change of the comment alone, and a snippet that is not there.
theorem isContent_of_run_updated :
    let swift : Snippet.Draft := { content := "*in* swift" }
    let web : Snippet.Changes := { content := some "*for* web | *in* x" }
    let remark : Snippet.Changes := { comment := some " " }
    let actions : List Action := [.create swift "a" 10, .create swift "b" 20, .update "a" web,
      .update "b" remark, .update "c" web, .delete "d"]
    (run {} actions).snippets.values.map (·.content) = ["*for* web | *in* x", "*in* swift"] ∧
      ∀ snippet ∈ (run {} actions).snippets.values, Snippet.IsContent snippet.content := by
  intro swift web remark actions
  have hswift : Snippet.Draft.ofFields [("content", .text " *in* swift\n")] = .ok swift := rfl
  have hweb : Snippet.Changes.ofFields [("content", .text "*for* web | *in* x ")] = .ok web := rfl
  have hremark : Snippet.Changes.ofFields [("comment", .text " "), ("content", .null)] =
      .ok remark := rfl
  refine ⟨by decide, isContent_of_run ?_⟩
  simp only [actions, List.forall_mem_cons, List.not_mem_nil, false_imp_iff, implies_true, and_true]
  exact ⟨⟨_, hswift⟩, ⟨_, hswift⟩, ⟨_, hweb⟩, ⟨_, hremark⟩, ⟨_, hweb⟩, trivial⟩

end Library

end ClausePrompt
