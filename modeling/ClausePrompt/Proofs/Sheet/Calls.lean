import ClausePrompt.Lexicon.Standard
import ClausePrompt.Proofs.Prompt.Overlay
import ClausePrompt.Proofs.Sheet.Entries
import ClausePrompt.Proofs.Sheet.Run

namespace ClausePrompt.Sheet

-- The entries that are placed one after another, each with what came of it.
def calls (sheet : Sheet) (entries : List (String × String)) :
    List ((String × String) × Outcome Prompt) :=
  entries.zip (sheet.outcomes entries)

-- The calls that were accepted.
def accepted (sheet : Sheet) (entries : List (String × String)) :
    List ((String × String) × Outcome Prompt) :=
  (sheet.calls entries).filter (·.2.isOk)

-- The clauses that they placed.
def taken (sheet : Sheet) (entries : List (String × String)) : List Clause :=
  (sheet.accepted entries).filterMap fun call =>
    (Clause.read sheet.lexicon call.1.1 call.1.2).toOption

-- Either nothing comes of a call, or the clause that it spells is placed.
theorem place_cases (sheet : Sheet) (typed raw : String) :
    (∃ failure, (sheet.place typed raw).outcome = .error failure ∧
        (sheet.place typed raw).state = sheet) ∨
      ∃ clause, Clause.read sheet.lexicon typed raw = .ok clause ∧
        (sheet.place typed raw).outcome = .ok (sheet.prompt.place clause) ∧
        (sheet.place typed raw).state = { sheet with prompt := sheet.prompt.place clause } := by
  cases houtcome : (sheet.place typed raw).outcome with
  | error failure => exact .inl ⟨failure, rfl, state_place_of_error houtcome⟩
  | ok prompt =>
    obtain ⟨clause, hread, -, rfl, hstate⟩ := place_eq_ok houtcome
    exact .inr ⟨clause, hread, rfl, hstate⟩

section Step

variable {sheet : Sheet} {entry : String × String} (entries : List (String × String))

section Rejected

variable {failure : Failure} (houtcome : (sheet.place entry.1 entry.2).outcome = .error failure)
include houtcome

-- A call that is rejected leaves the sheet to the calls after it as it was.
theorem enter_of_error : sheet.enter (entry :: entries) = sheet.enter entries := by
  rw [enter, List.foldl_cons, state_place_of_error houtcome, enter]

theorem calls_of_error :
    sheet.calls (entry :: entries) = (entry, .error failure) :: sheet.calls entries := by
  rw [calls, outcomes, state_place_of_error houtcome, houtcome]
  rfl

theorem accepted_of_error : sheet.accepted (entry :: entries) = sheet.accepted entries := by
  rw [accepted, calls_of_error entries houtcome]
  rfl

theorem taken_of_error : sheet.taken (entry :: entries) = sheet.taken entries := by
  rw [taken, accepted_of_error entries houtcome, taken]

end Rejected

section Accepted

variable {clause : Clause}
  (houtcome : (sheet.place entry.1 entry.2).outcome = .ok (sheet.prompt.place clause))
  (hstate : (sheet.place entry.1 entry.2).state =
    { sheet with prompt := sheet.prompt.place clause })
include hstate

theorem enter_of_ok : sheet.enter (entry :: entries) =
    enter { sheet with prompt := sheet.prompt.place clause } entries := by
  rw [enter, List.foldl_cons, hstate, enter]

include houtcome

theorem calls_of_ok : sheet.calls (entry :: entries) =
    (entry, .ok (sheet.prompt.place clause)) ::
      calls { sheet with prompt := sheet.prompt.place clause } entries := by
  rw [calls, outcomes, hstate, houtcome]
  rfl

theorem accepted_of_ok : sheet.accepted (entry :: entries) =
    (entry, .ok (sheet.prompt.place clause)) ::
      accepted { sheet with prompt := sheet.prompt.place clause } entries := by
  rw [accepted, calls_of_ok entries houtcome hstate]
  rfl

theorem taken_of_ok (hread : Clause.read sheet.lexicon entry.1 entry.2 = .ok clause) :
    sheet.taken (entry :: entries) =
      clause :: taken { sheet with prompt := sheet.prompt.place clause } entries := by
  have hspelled : (Clause.read sheet.lexicon entry.1 entry.2).toOption = some clause := by
    rw [hread]
    rfl
  rw [taken, accepted_of_ok entries houtcome hstate]
  exact List.filterMap_cons_some hspelled

end Accepted

end Step

-- Every call that was accepted placed the clause that it spells.
theorem forall₂_taken (sheet : Sheet) (entries : List (String × String)) :
    List.Forall₂ (fun call clause => Clause.read sheet.lexicon call.1.1 call.1.2 = .ok clause)
      (sheet.accepted entries) (sheet.taken entries) := by
  induction entries generalizing sheet with
  | nil => exact .nil
  | cons entry entries ih =>
    obtain ⟨failure, houtcome, -⟩ | ⟨clause, hread, houtcome, hstate⟩ :=
      place_cases sheet entry.1 entry.2
    · rw [accepted_of_error entries houtcome, taken_of_error entries houtcome]
      exact ih sheet
    · rw [accepted_of_ok entries houtcome hstate, taken_of_ok entries houtcome hstate hread]
      exact .cons hread (ih { sheet with prompt := sheet.prompt.place clause })

theorem enter_eq_foldl_place (sheet : Sheet) (entries : List (String × String)) :
    sheet.enter entries =
      { sheet with prompt := (sheet.taken entries).foldl Prompt.place sheet.prompt } := by
  induction entries generalizing sheet with
  | nil => rfl
  | cons entry entries ih =>
    obtain ⟨failure, houtcome, -⟩ | ⟨clause, hread, houtcome, hstate⟩ :=
      place_cases sheet entry.1 entry.2
    · rw [enter_of_error entries houtcome, taken_of_error entries houtcome]
      exact ih sheet
    · rw [enter_of_ok entries hstate, taken_of_ok entries houtcome hstate hread]
      exact ih { sheet with prompt := sheet.prompt.place clause }

-- Calls among which are all that were accepted come out as they did among all calls.
theorem calls_of_sublist {sheet : Sheet} {entries : List (String × String)}
    {kept : List ((String × String) × Outcome Prompt)} (hkept : kept.Sublist (sheet.calls entries))
    (hall : kept.filter (·.2.isOk) = sheet.accepted entries) :
    sheet.calls (kept.map (·.1)) = kept ∧ sheet.enter (kept.map (·.1)) = sheet.enter entries := by
  induction entries generalizing sheet kept with
  | nil =>
    obtain rfl := List.sublist_nil.mp hkept
    exact ⟨rfl, rfl⟩
  | cons entry entries ih =>
    obtain ⟨failure, houtcome, -⟩ | ⟨clause, -, houtcome, hstate⟩ :=
      place_cases sheet entry.1 entry.2
    · rw [accepted_of_error entries houtcome] at hall
      rw [calls_of_error entries houtcome] at hkept
      rw [enter_of_error entries houtcome]
      cases hkept with
      | cons _ hrest => exact ih hrest hall
      | cons_cons _ hrest =>
        obtain ⟨hcalls, henter⟩ := ih hrest hall
        rw [List.map_cons, calls_of_error _ houtcome, enter_of_error _ houtcome, hcalls]
        exact ⟨rfl, henter⟩
    · rw [accepted_of_ok entries houtcome hstate] at hall
      rw [calls_of_ok entries houtcome hstate] at hkept
      rw [enter_of_ok entries hstate]
      cases hkept with
      | cons _ hrest =>
        -- without this call one that was accepted is missing
        have hfewer := (hrest.filter (·.2.isOk)).length_le
        rw [hall, List.length_cons] at hfewer
        exact absurd hfewer (Nat.not_succ_le_self _)
      | cons_cons _ hrest =>
        obtain ⟨hcalls, henter⟩ := ih hrest (List.cons.inj hall).2
        rw [List.map_cons, calls_of_ok _ houtcome hstate, enter_of_ok _ hstate, hcalls]
        exact ⟨rfl, henter⟩

-- A sheet is a map in the order of insertion. The first clause of a keyword of the prompt gives
-- way to the last one that was accepted for it, the keywords that are new follow in the order in
-- which they were first accepted, and nothing depends on the calls that were rejected.
theorem enter_eq_overlay (sheet : Sheet) (entries : List (String × String)) :
    List.Forall₂ (fun call clause => Clause.read sheet.lexicon call.1.1 call.1.2 = .ok clause)
        (sheet.accepted entries) (sheet.taken entries) ∧
      sheet.enter entries = { sheet with prompt := sheet.prompt.overlay (sheet.taken entries) } ∧
      (sheet.enter entries).prompt.keywords =
        sheet.prompt.keywords ++ sheet.prompt.newcomers (sheet.taken entries) ∧
      (sheet.prompt.newcomers (sheet.taken entries)).Nodup ∧
      (∀ kept, kept.Sublist (sheet.calls entries) →
        kept.filter (·.2.isOk) = sheet.accepted entries →
          sheet.calls (kept.map (·.1)) = kept ∧
            sheet.enter (kept.map (·.1)) = sheet.enter entries) ∧
      (sheet.prompt.keywords.Nodup → (sheet.enter entries).prompt.keywords.Nodup) := by
  have henter : sheet.enter entries =
      { sheet with prompt := sheet.prompt.overlay (sheet.taken entries) } := by
    rw [enter_eq_foldl_place, Prompt.foldl_place]
  rw [henter]
  refine ⟨forall₂_taken sheet entries, rfl, Prompt.keywords_overlay _ _,
    Prompt.nodup_newcomers _ _, ?_, fun hnodup => Prompt.nodup_keywords_overlay hnodup _⟩
  intro kept hkept hall
  rw [← henter]
  exact calls_of_sublist hkept hall

-- A prompt that has a keyword twice, one call that would make it too long and one that says
-- nothing. Without these two the other four come to the same.
theorem enter_eq_overlay_repeated :
    let sheet := (load { lexicon := .standard, limit := 40 } "*in* a | *for* b | *in* c").state
    let entries := [("rare", "x"), ("create", "y"), ("in", ""), ("in", "d"), ("rare", "z"),
      ("in", "swift")]
    (sheet.enter entries).prompt.text = "*in* swift | *for* b | *in* c | *rare* z" ∧
      sheet.enter [("rare", "x"), ("in", "d"), ("rare", "z"), ("in", "swift")] =
        sheet.enter entries ∧
      (enter sheet.clear entries).prompt.keywords.Nodup := by
  intro sheet entries
  have hkept : (sheet.accepted entries).map (·.1) =
      [("rare", "x"), ("in", "d"), ("rare", "z"), ("in", "swift")] := by decide +kernel
  obtain ⟨-, -, -, -, hdrop, -⟩ := enter_eq_overlay sheet entries
  have hsame := (hdrop (sheet.accepted entries) List.filter_sublist (by simp [accepted])).2
  rw [hkept] at hsame
  exact ⟨by decide +kernel, hsame, (enter_eq_overlay sheet.clear entries).2.2.2.2.2 List.nodup_nil⟩

end ClausePrompt.Sheet
