import ClausePrompt.Lexicon.Standard
import ClausePrompt.Proofs.Session.Timers
import Mathlib.Data.List.Induction

namespace ClausePrompt.Session

-- Whether an action is the answer that finishes the interview.
def completes (session : Session) : Action → Bool
  | .advance answer limit =>
    match (session.advance answer limit).outcome with
    | .ok next => next.completed
    | .error _ => false
  | _ => false

-- How often a run finishes the interview.
def completions : Session → List Action → Nat
  | _, [] => 0
  | session, action :: actions =>
    (session.completes action).toNat + (session.perform action).completions actions

@[simp] theorem length_timers_close (session : Session) :
    session.close.timers.length = session.timers.length := by
  cases hpending : session.pending <;> simp [close, hpending]

theorem length_timers_settle (session : Session) (outcome : Outcome Interview) :
    (session.settle outcome).timers.length =
      session.timers.length + (match outcome with
        | .ok next => next.completed
        | .error _ => false).toNat := by
  cases outcome with
  | error failure => rfl
  | ok next => cases hcompleted : next.completed <;> simp [settle, schedule, hcompleted]

-- One timer is set each time the interview is finished, and at no other time.
theorem length_timers_perform (session : Session) (action : Action) :
    (session.perform action).timers.length =
      session.timers.length + (session.completes action).toNat := by
  cases action with
  | advance answer limit =>
    rw [perform, state_advance, length_timers_settle, completes, outcome_advance]
  | skip | back => exact congrArg (·.timers.length) (state_take session _ _)
  | restart id => exact length_timers_close session
  | close => exact length_timers_close session
  | fire i force =>
    obtain hsame | ⟨timer, -, -, hstate⟩ := state_fire session i force
    · rw [perform, hsame]
      rfl
    · rw [perform, hstate]
      split <;> simp [renew, strike, completes]

theorem length_timers_run (session : Session) (actions : List Action) :
    (session.run actions).timers.length =
      session.timers.length + session.completions actions := by
  induction actions generalizing session with
  | nil => rfl
  | cons action actions ih =>
    rw [run_cons, ih, length_timers_perform, completions]
    omega

-- A finished interview stays as it is until the session starts over. Only closing takes the
-- pending timer away meanwhile.
theorem perform_of_completed {session : Session} {action : Action}
    (hbefore : session.interview.completed = true)
    (hafter : (session.perform action).interview.completed = true) :
    (session.perform action).interview = session.interview ∧
      (∀ id, action ≠ .restart id) ∧
      (action ≠ .close → (session.perform action).pending = session.pending) := by
  cases action with
  | advance answer limit =>
    rw [perform, (advance_of_completed hbefore answer limit).2]
    simp
  | skip =>
    rw [perform, skip, (take_of_completed hbefore .skip session.interview.passing_skip).2]
    simp
  | back =>
    rw [perform, back, (take_of_completed hbefore .back session.interview.passing_back).2]
    simp
  | restart id =>
    have hfirst : session.first.completed = true := hafter
    simp [completed_first] at hfirst
  | close => simp [perform, close]
  | fire i force =>
    obtain hsame | ⟨timer, -, -, hstate⟩ := state_fire session i force
    · rw [perform, hsame]
      simp
    · rw [perform, hstate] at hafter ⊢
      split at hafter
      · simp [renew, strike, completed_first] at hafter
      · rename_i hstale
        simp [hstale, strike]

-- An open interview is finished by an answer only, and its result is shown then.
theorem perform_of_open {session : Session} {action : Action}
    (hbefore : session.interview.completed = false)
    (hafter : (session.perform action).interview.completed = true) :
    ∃ answer limit, action = .advance answer limit ∧ session.completes action = true ∧
      (session.perform action).completing = true := by
  cases action with
  | advance answer limit =>
    refine ⟨answer, limit, rfl, ?_⟩
    rw [completes, outcome_advance]
    rw [perform, state_advance] at hafter ⊢
    cases hadvance : session.interview.advance (session.termsWithin limit) answer with
    | error failure => simp [hadvance, settle, hbefore] at hafter
    | ok next =>
      cases hcompleted : next.completed with
      | false => simp [hadvance, settle, hcompleted] at hafter
      | true => simp [settle, hcompleted, schedule, completing]
  | skip =>
    rw [perform, skip, state_take] at hafter
    simp [session.interview.passing_skip.completed_after, hbefore] at hafter
  | back =>
    rw [perform, back, state_take] at hafter
    simp [session.interview.passing_back.completed_after, hbefore] at hafter
  | restart id =>
    have hfirst : session.first.completed = true := hafter
    simp [completed_first] at hfirst
  | close =>
    have hopen : session.interview.completed = true := hafter
    simp [hbefore] at hopen
  | fire i force =>
    obtain hsame | ⟨timer, -, -, hstate⟩ := state_fire session i force
    · rw [perform, hsame] at hafter
      simp [hbefore] at hafter
    · rw [perform, hstate] at hafter
      split at hafter <;> simp [renew, strike, completed_first, hbefore] at hafter

-- Where the result of a finished interview comes from: the answer that finished it, no starting
-- over after that, and closing if the result is not shown any more. The induction is on the last
-- action of the run.
theorem exists_completion {session : Session} (hstarted : session.Started) (actions : List Action)
    (hcompleted : (session.run actions).interview.completed = true) :
    ∃ before answer limit rest, actions = before ++ .advance answer limit :: rest ∧
      (session.run before).completes (.advance answer limit) = true ∧
      (session.run (before ++ [.advance answer limit])).interview =
        (session.run actions).interview ∧
      (∀ id, .restart id ∉ rest) ∧
      ((session.run actions).completing = false → .close ∈ rest) := by
  induction actions using List.reverseRecOn with
  | nil =>
    have hfirst : session.first.completed = true := by
      rw [← (started_iff.mp hstarted).1]
      exact hcompleted
    simp [completed_first] at hfirst
  | append_singleton actions action ih =>
    have hrun : session.run (actions ++ [action]) = (session.run actions).perform action := by
      rw [run_append]
      rfl
    rw [hrun] at hcompleted ⊢
    cases hbefore : (session.run actions).interview.completed with
    | false =>
      obtain ⟨answer, limit, rfl, hcompletes, hshown⟩ := perform_of_open hbefore hcompleted
      refine ⟨actions, answer, limit, [], rfl, hcompletes, by rw [hrun], by simp, ?_⟩
      intro hhidden
      simp [hshown] at hhidden
    | true =>
      obtain ⟨hinterview, hrestart, hpending⟩ := perform_of_completed hbefore hcompleted
      obtain ⟨before, answer, limit, rest, rfl, hcompletes, hsame, hrest, hclose⟩ := ih hbefore
      refine ⟨before, answer, limit, rest ++ [action], by simp, hcompletes, ?_, ?_, ?_⟩
      · rw [hsame, hinterview]
      · intro id hmem
        obtain hmem | hmem := List.mem_append.mp hmem
        · exact hrest id hmem
        · exact hrestart id (List.mem_singleton.mp hmem).symm
      · intro hhidden
        by_cases haction : action = .close
        · simp [haction]
        · rw [completing, hpending haction] at hhidden
          exact List.mem_append_left _ (hclose hhidden)

-- While a result is shown exactly one timer is live, the pending one, and otherwise none is. A
-- result that is not shown any more was closed. There are as many timers as finished interviews.
theorem live_timer_of_run (session : Session) (hstarted : session.Started)
    (actions : List Action) :
    ((session.run actions).completing = true →
      (session.run actions).interview.completed = true ∧
      ∃ i, (session.run actions).pending = some i ∧
        ∀ j, (∃ timer, (session.run actions).timers[j]? = some timer ∧ timer.live = true) ↔
          j = i) ∧
    ((session.run actions).completing = false →
      ∀ timer ∈ (session.run actions).timers, timer.live = false) ∧
    ((session.run actions).interview.completed = true →
      (session.run actions).completing = false →
      ∃ before answer limit rest, actions = before ++ .advance answer limit :: rest ∧
        (session.run before).completes (.advance answer limit) = true ∧
        (session.run (before ++ [.advance answer limit])).interview =
          (session.run actions).interview ∧
        .close ∈ rest ∧ ∀ id, .restart id ∉ rest) ∧
    (session.run actions).timers.length = session.completions actions := by
  have hconsistent := hstarted.consistent.run actions
  refine ⟨fun hshown => ⟨hconsistent.pending_completed hshown, ?_⟩, ?_, ?_, ?_⟩
  · obtain ⟨i, hpending⟩ := Option.isSome_iff_exists.mp hshown
    refine ⟨i, hpending, fun j => ⟨?_, ?_⟩⟩
    · rintro ⟨timer, htimer, hlive⟩
      by_contra hne
      have hdead := (hconsistent.others_stale j timer htimer (by simp [hpending, Ne.symm hne])).1
      simp [hlive] at hdead
    · rintro rfl
      obtain ⟨timer, htimer, hlive, -⟩ := hconsistent.pending_live j hpending
      exact ⟨timer, htimer, hlive⟩
  · intro hhidden timer hmem
    obtain ⟨i, htimer⟩ := List.mem_iff_getElem?.mp hmem
    have hpending : (session.run actions).pending ≠ some i := by
      intro hpending
      simp [completing, hpending] at hhidden
    exact (hconsistent.others_stale i timer htimer hpending).1
  · intro hcompleted hhidden
    obtain ⟨before, answer, limit, rest, hactions, hcompletes, hsame, hrest, hclose⟩ :=
      exists_completion hstarted actions hcompleted
    exact ⟨before, answer, limit, rest, hactions, hcompletes, hsame, hclose hhidden, hrest⟩
  · rw [length_timers_run, (started_iff.mp hstarted).2.2.2, List.length_nil, Nat.zero_add]

-- A result that is closed, a timer that is forced to fire all the same, and a second result after
-- that.
theorem live_timer_of_run_background :
    ∃ session now,
      Session.start { lexicon := .standard }
        [{ id := "colour", text := "Which colour?", keyword := "background" }] 5.0 "wiz_1" =
          .ok session ∧
      session.run [.advance "FF" none, .close, .fire 0 true, .restart "wiz_2",
        .advance " light(00) " none] = now ∧
      now.completing = true ∧ now.timers.length = 2 ∧
      ∃ i, now.pending = some i ∧
        ∀ j, (∃ timer, now.timers[j]? = some timer ∧ timer.live = true) ↔ j = i := by
  refine ⟨_, _, rfl, rfl, rfl, rfl, ?_⟩
  exact ((live_timer_of_run _ (started_iff.mpr ⟨rfl, rfl, rfl, rfl⟩) _).1 rfl).2
end ClausePrompt.Session
