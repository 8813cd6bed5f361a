import ClausePrompt.Proofs.Journal.Ledger
import ClausePrompt.Proofs.Journal.Occurrences
import ClausePrompt.Proofs.Prompt.Commute
import ClausePrompt.Proofs.Session.Completion

namespace ClausePrompt

namespace Count

-- What became of a clause, if a call to place one is counted.
def placement? : Count → Option Placement
  | .clause _ placement => some placement
  | _ => none

-- The keyword that came into the prompt with a clause.
def appended? : Count → Option String
  | .clause keyword .appended => some keyword
  | _ => none

theorem length_filterMap_appended? (counts : List Count) :
    (counts.filterMap appended?).length = counts.countP (·.placement? = some .appended) := by
  rw [List.length_filterMap_eq_countP]
  refine List.countP_congr fun count _ => ?_
  cases count with
  | clause keyword placement => cases placement <;> simp [appended?, placement?]
  | parse | move | completion | failure => simp [appended?, placement?]

theorem count_filterMap_appended? (counts : List Count) (keyword : String) :
    (counts.filterMap appended?).count keyword = counts.count (.clause keyword .appended) := by
  rw [List.count_filterMap, List.count_eq_countP]
  refine List.countP_congr fun count _ => ?_
  cases count with
  | clause found placement => cases placement <;> simp [appended?]
  | parse | move | completion | failure => simp [appended?]

end Count

namespace Sheet

namespace Action

def places : Action → Bool
  | .place .. => true
  | .load _ | .clear => false

def loads : Action → Bool
  | .load _ => true
  | .place .. | .clear => false

end Action

theorem state_attempt (sheet : Sheet) (action : Action) :
    (sheet.attempt action).state = sheet.perform action := by
  cases action <;> rfl

-- A call to place a clause is broken off without being counted, or it is turned down, or it is
-- counted as what it does to the prompt.
theorem attempt_place_cases (sheet : Sheet) (typed raw : String) :
    (∃ fault, sheet.attempt (.place typed raw) = .failed sheet (.broken fault)) ∨
    (∃ keyword refusal,
      sheet.attempt (.place typed raw) = (sheet.reject keyword refusal).discard) ∨
    ∃ clause log, sheet.attempt (.place typed raw) =
      { outcome := .ok ()
        state := { sheet with prompt := sheet.prompt.place clause }
        log
        marks := [.count (.clause clause.keyword.id
          (if sheet.prompt.contains clause.keyword.id then .replaced else .appended))] } := by
  simp only [attempt, place]
  cases hread : Clause.read sheet.lexicon typed raw with
  | error failure =>
    cases failure with
    | broken fault => exact .inl ⟨fault, rfl⟩
    | refused refusal => exact .inr (.inl ⟨typed, refusal, rfl⟩)
  | ok clause =>
    dsimp only
    split
    · exact .inr (.inl ⟨_, _, rfl⟩)
    · exact .inr (.inr ⟨clause, _, rfl⟩)

-- A call to load a text is not counted either if it is broken off.
theorem attempt_load_cases (sheet : Sheet) (text : String) :
    (∃ fault, sheet.attempt (.load text) = .failed sheet (.broken fault)) ∨
    (∃ refusal log rest, sheet.attempt (.load text) =
      { outcome := refuse refusal
        state := sheet
        log
        marks := .count (.parse false) :: rest } ∧
      (rest = [] ∨ rest = [.count (.failure refusal.kind .codec)])) ∨
    ∃ prompt log, sheet.attempt (.load text) =
      { outcome := .ok ()
        state := { sheet with prompt }
        log
        marks := [.count (.parse true)] } := by
  simp only [attempt, load]
  split
  · exact .inr (.inl ⟨_, _, [], rfl, .inl rfl⟩)
  · cases hparse : Prompt.parse sheet.lexicon text with
    | error failure =>
      cases failure with
      | broken fault => exact .inl ⟨fault, rfl⟩
      | refused refusal => exact .inr (.inl ⟨refusal, _, _, rfl, .inr rfl⟩)
    | ok prompt => exact .inr (.inr ⟨prompt, _, rfl⟩)

-- The four ways in which a sheet counts a call.
theorem countP_attempt (sheet : Sheet) (action : Action) :
    (occurrences (sheet.attempt action).marks).countP (·.placement?.isSome) =
      (action.places && (sheet.attempt action).returned).toNat ∧
    (occurrences (sheet.attempt action).marks).countP (fun count =>
        count.placement? = some .appended || count.placement? = some .replaced) =
      (action.places && (sheet.attempt action).succeeded).toNat ∧
    (occurrences (sheet.attempt action).marks).count (.parse true) =
      (action.loads && (sheet.attempt action).succeeded).toNat ∧
    (occurrences (sheet.attempt action).marks).count (.parse false) =
      (action.loads && (sheet.attempt action).declined).toNat := by
  cases action with
  | place typed raw =>
    obtain ⟨fault, h⟩ | ⟨keyword, refusal, h⟩ | ⟨clause, log, h⟩ :=
      sheet.attempt_place_cases typed raw
    · rw [h]
      exact ⟨rfl, rfl, rfl, rfl⟩
    · rw [h]
      exact ⟨rfl, rfl, rfl, rfl⟩
    · rw [h]
      cases sheet.prompt.contains clause.keyword.id <;> exact ⟨rfl, rfl, rfl, rfl⟩
  | load text =>
    obtain ⟨fault, h⟩ | ⟨refusal, log, rest, h, rfl | rfl⟩ | ⟨prompt, log, h⟩ :=
      sheet.attempt_load_cases text <;> rw [h] <;> exact ⟨rfl, rfl, rfl, rfl⟩
  | clear => exact ⟨rfl, rfl, rfl, rfl⟩

-- The keywords that come into the prompt are those that are counted as appended.
theorem keywords_attempt {sheet : Sheet} {action : Action} (h : action.places = true) :
    (sheet.attempt action).state.prompt.keywords =
      sheet.prompt.keywords ++
        (occurrences (sheet.attempt action).marks).filterMap Count.appended? := by
  cases action with
  | place typed raw =>
    obtain ⟨fault, hcall⟩ | ⟨keyword, refusal, hcall⟩ | ⟨clause, log, hcall⟩ :=
      sheet.attempt_place_cases typed raw
    · rw [hcall]
      exact (List.append_nil _).symm
    · rw [hcall]
      exact (List.append_nil _).symm
    · rw [hcall]
      refine (Prompt.keywords_place sheet.prompt clause).trans ?_
      by_cases hold : clause.keyword.id ∈ sheet.prompt.keywords
      · have hcontains : sheet.prompt.contains clause.keyword.id = true :=
          List.contains_iff_mem.mpr hold
        simp [hold, hcontains, occurrences, Mark.count?, Count.appended?]
      · have hcontains : sheet.prompt.contains clause.keyword.id = false := by
          simpa [Prompt.contains] using hold
        simp [hold, hcontains, occurrences, Mark.count?, Count.appended?]
  | load | clear => cases h

theorem nodup_keywords_attempt {sheet : Sheet} {action : Action} (h : action.places = true)
    (hnodup : sheet.prompt.keywords.Nodup) :
    (sheet.attempt action).state.prompt.keywords.Nodup := by
  cases action with
  | place typed raw =>
    obtain ⟨fault, hcall⟩ | ⟨keyword, refusal, hcall⟩ | ⟨clause, log, hcall⟩ :=
      sheet.attempt_place_cases typed raw
    · rw [hcall]
      exact hnodup
    · rw [hcall]
      exact hnodup
    · rw [hcall]
      exact Prompt.nodup_keywords_place hnodup clause
  | load | clear => cases h

-- As long as clauses are only placed, the prompt has the keywords of those that were appended, in
-- the same order, and no keyword twice.
theorem keywords_run {sheet : Sheet} {actions : List Action}
    (h : ∀ action ∈ actions, action.places = true) (hnodup : sheet.prompt.keywords.Nodup) :
    (sheet.run actions).prompt.keywords =
        sheet.prompt.keywords ++
          (Step.counted (Step.history attempt sheet actions)).filterMap Count.appended? ∧
      (sheet.run actions).prompt.keywords.Nodup := by
  induction actions generalizing sheet with
  | nil => exact ⟨(List.append_nil _).symm, hnodup⟩
  | cons action actions ih =>
    obtain ⟨hfirst, hrest⟩ := List.forall_mem_cons.mp h
    obtain ⟨hkeywords, hunique⟩ := ih hrest (nodup_keywords_attempt hfirst hnodup)
    rw [run_cons, ← state_attempt]
    refine ⟨?_, hunique⟩
    rw [hkeywords, keywords_attempt hfirst, Step.counted_history_cons, List.filterMap_append,
      List.append_assoc]

-- On a fresh sheet each clause of the prompt was appended once, then.
theorem counts_of_placing (lexicon : Lexicon) (limit : Int) {actions : List Action}
    (h : ∀ action ∈ actions, action.places = true) :
    (run { lexicon, limit } actions).prompt.clauses.length =
        (Step.counted (Step.history attempt { lexicon, limit } actions)).countP
          (·.placement? = some .appended) ∧
      ∀ keyword, (Step.counted (Step.history attempt { lexicon, limit } actions)).count
        (.clause keyword .appended) ≤ 1 := by
  have hfresh : ({ lexicon, limit } : Sheet).prompt.keywords.Nodup := List.nodup_nil
  obtain ⟨hkeywords, hnodup⟩ := keywords_run h hfresh
  have happended : (run { lexicon, limit } actions).prompt.keywords =
      (Step.counted (Step.history attempt { lexicon, limit } actions)).filterMap
        Count.appended? := hkeywords
  constructor
  · rw [← Count.length_filterMap_appended?, ← happended, Prompt.keywords, List.length_map]
  · intro keyword
    rw [← Count.count_filterMap_appended?, ← happended]
    exact List.nodup_iff_count_le_one.mp hnodup keyword

end Sheet

namespace Session

-- The move of the interview that an action makes.
def Action.move? : Action → Option Move
  | .advance .. => some .advance
  | .skip => some .skip
  | .back => some .back
  | .restart _ | .close | .fire .. => none

theorem state_attempt (session : Session) (action : Action) :
    (session.attempt action).state = session.perform action := by
  cases action <;> rfl

-- A move fails, or it is counted as taken, and so is the end of the interview if it comes with it.
theorem attempt_move_cases (session : Session) {action : Action} {move : Move}
    (h : action.move? = some move) :
    (∃ failure, session.attempt action = (session.reject move failure).discard ∧
      session.completes action = false) ∨
    ∃ state log, session.attempt action =
      { outcome := .ok ()
        state
        log
        marks := .count (.move move true) ::
          if session.completes action then [.count .completion] else [] } := by
  cases action with
  | advance answer limit =>
    obtain rfl := Option.some.inj h
    have houtcome := outcome_advance session answer limit
    simp only [attempt, completes, houtcome]
    unfold advance
    cases hadvance : session.interview.advance (session.termsWithin limit) answer with
    | error failure => exact .inl ⟨failure, rfl, rfl⟩
    | ok next =>
      cases hresult : next.result with
      | none =>
        simp only [hresult, Interview.completed]
        exact .inr ⟨_, _, rfl⟩
      | some result =>
        simp only [hresult, Interview.completed]
        exact .inr ⟨_, _, rfl⟩
  | skip | back =>
    obtain rfl := Option.some.inj h
    simp only [attempt, skip, back]
    unfold take
    split
    · exact .inl ⟨_, rfl, rfl⟩
    · exact .inr ⟨_, _, rfl⟩
  | restart | close | fire => cases h

-- What is done with a session beside the moves is not counted.
theorem occurrences_attempt_of_no_move {session : Session} {action : Action}
    (h : action.move? = none) :
    occurrences (session.attempt action).marks = [] ∧ session.completes action = false := by
  cases action with
  | advance | skip | back => cases h
  | restart | close => exact ⟨rfl, rfl⟩
  | fire i force =>
    refine ⟨?_, rfl⟩
    simp only [attempt, Step.discard, fire]
    split
    · rfl
    · split
      · rfl
      · unfold expire
        split <;> rfl

-- The three ways in which a session counts a call.
theorem count_attempt (session : Session) (action : Action) :
    (∀ move, (occurrences (session.attempt action).marks).count (.move move true) =
        (decide (action.move? = some move) && (session.attempt action).succeeded).toNat ∧
      (occurrences (session.attempt action).marks).count (.move move false) =
        (decide (action.move? = some move) && (session.attempt action).declined).toNat) ∧
    (occurrences (session.attempt action).marks).count .completion =
      (session.completes action).toNat := by
  cases hmove : action.move? with
  | none =>
    obtain ⟨hnothing, hopen⟩ := occurrences_attempt_of_no_move hmove
    rw [hnothing, hopen]
    exact ⟨fun _ => ⟨rfl, rfl⟩, rfl⟩
  | some made =>
    obtain ⟨failure, h, hopen⟩ | ⟨state, log, h⟩ := session.attempt_move_cases hmove
    · rw [h, hopen]
      refine ⟨fun move => ?_, ?_⟩
      · cases failure <;> cases made <;> cases move <;> exact ⟨rfl, rfl⟩
      · cases failure <;> rfl
    · rw [h]
      refine ⟨fun move => ?_, ?_⟩
      · cases session.completes action <;> cases made <;> cases move <;> exact ⟨rfl, rfl⟩
      · cases session.completes action <;> rfl

-- The interview is counted as complete as often as it is completed.
theorem count_completion_counted (session : Session) (actions : List Action) :
    (Step.counted (Step.history attempt session actions)).count .completion =
      session.completions actions := by
  induction actions generalizing session with
  | nil => rfl
  | cons action actions ih =>
    rw [Step.counted_history_cons, List.count_append, (count_attempt session action).2, ih,
      state_attempt, completions]

end Session

namespace Metrics

-- The counters tell what came of the calls. From a fresh sheet every call to place a clause that
-- gives the caller an answer is counted, those that succeed under what they did, and so is every
-- text that was loaded or refused; from a fresh session every move is counted that was taken or
-- turned down, and one completion for each timer that was set. A call that is broken off is counted
-- nowhere. Where clauses are only placed, the prompt has one for each that was appended.
theorem counts_of_run :
    (∀ (lexicon : Lexicon) (limit : Int) (actions : List Sheet.Action)
      (steps : List (Sheet.Action × Step Sheet Unit)) (metrics : Metrics),
      Step.history Sheet.attempt { lexicon, limit } actions = steps →
      Step.recorded steps = metrics →
      metrics.total (·.placement?.isSome) =
        steps.countP (fun (action, step) => action.places && step.returned) ∧
      metrics.total (fun count =>
          count.placement? = some .appended || count.placement? = some .replaced) =
        steps.countP (fun (action, step) => action.places && step.succeeded) ∧
      metrics.count (.parse true) =
        steps.countP (fun (action, step) => action.loads && step.succeeded) ∧
      metrics.count (.parse false) =
        steps.countP (fun (action, step) => action.loads && step.declined) ∧
      ((∀ action ∈ actions, action.places = true) →
        (Sheet.run { lexicon, limit } actions).prompt.clauses.length =
          metrics.total (·.placement? = some .appended) ∧
        ∀ keyword, metrics.count (.clause keyword .appended) ≤ 1)) ∧
    ∀ session : Session, session.Started → ∀ (actions : List Session.Action)
      (steps : List (Session.Action × Step Session Unit)) (metrics : Metrics),
      Step.history Session.attempt session actions = steps →
      Step.recorded steps = metrics →
      (∀ move,
        metrics.count (.move move true) =
          steps.countP (fun (action, step) => action.move? = some move && step.succeeded) ∧
        metrics.count (.move move false) =
          steps.countP (fun (action, step) => action.move? = some move && step.declined)) ∧
      metrics.count .completion = (session.run actions).timers.length := by
  constructor
  · rintro lexicon limit actions _ _ rfl rfl
    simp only [Step.total_recorded, Step.count_recorded]
    refine ⟨?_, ?_, ?_, ?_, Sheet.counts_of_placing lexicon limit⟩
    · exact Step.countP_counted_history
        (fun sheet action => (Sheet.countP_attempt sheet action).1) _ actions
    · exact Step.countP_counted_history
        (fun sheet action => (Sheet.countP_attempt sheet action).2.1) _ actions
    · exact Step.count_counted_history
        (fun sheet action => (Sheet.countP_attempt sheet action).2.2.1) _ actions
    · exact Step.count_counted_history
        (fun sheet action => (Sheet.countP_attempt sheet action).2.2.2) _ actions
  · rintro session hstarted actions _ _ rfl rfl
    simp only [Step.count_recorded]
    refine ⟨fun move => ⟨?_, ?_⟩, ?_⟩
    · exact Step.count_counted_history
        (fun session action => ((Session.count_attempt session action).1 move).1) session actions
    · exact Step.count_counted_history
        (fun session action => ((Session.count_attempt session action).1 move).2) session actions
    · rw [Session.count_completion_counted, Session.length_timers_run,
        (Session.started_iff.mp hstarted).2.2.2, List.length_nil, Nat.zero_add]

-- A keyword that is replaced and one that is unknown, a text that cannot be read and one that can,
-- a step back from the first question, and an answer that completes the interview after its timer
-- was due once.
theorem counts_of_run_in_background :
    ∃ placed loaded session moved,
      Step.history Sheet.attempt { lexicon := .standard }
        [.place "in" "swift", .place "mars" "x", .place "IN" "kotlin", .place "for" "web"] =
          placed ∧
      Step.history Sheet.attempt { lexicon := .standard }
        [.load "*in*", .place "in" "swift", .load "*for* web", .clear] = loaded ∧
      Session.start { lexicon := .standard }
        [{ id := "colour", text := "Which colour?", keyword := "background" }] 5.0 "wiz_1" =
          .ok session ∧
      Step.history Session.attempt session
        [.back, .advance "FF" none, .fire 0 false, .advance "00" none] = moved ∧
      placed.map (·.2.succeeded) = [true, false, true, true] ∧
      (Step.recorded placed).total (·.placement?.isSome) = 4 ∧
      (Step.recorded placed).total (·.placement? = some .appended) = 2 ∧
      (Step.recorded placed).count (.clause "in" .appended) ≤ 1 ∧
      (Step.recorded loaded).count (.parse true) = 1 ∧
      (Step.recorded loaded).count (.parse false) = 1 ∧
      (Step.recorded moved).count (.move .back false) = 1 ∧
      (Step.recorded moved).count .completion = 2 := by
  refine ⟨_, _, _, _, rfl, rfl, rfl, rfl, by decide, ?_, ?_, ?_, ?_, ?_, ?_, ?_⟩
  · exact (counts_of_run.1 .standard 10000 _ _ _ rfl rfl).1
  · exact ((counts_of_run.1 .standard 10000 _ _ _ rfl rfl).2.2.2.2 (by decide)).1.symm
  · exact ((counts_of_run.1 .standard 10000 _ _ _ rfl rfl).2.2.2.2 (by decide)).2 "in"
  · exact (counts_of_run.1 .standard 10000 _ _ _ rfl rfl).2.2.1
  · exact (counts_of_run.1 .standard 10000 _ _ _ rfl rfl).2.2.2.1
  · exact ((counts_of_run.2 _ (Session.started_iff.mpr ⟨rfl, rfl, rfl, rfl⟩) _ _ _ rfl rfl).1
      .back).2
  · exact (counts_of_run.2 _ (Session.started_iff.mpr ⟨rfl, rfl, rfl, rfl⟩) _ _ _ rfl rfl).2

end Metrics

end ClausePrompt
