import ClausePrompt.Lexicon.Standard
import ClausePrompt.Proofs.Session.Completion

namespace ClausePrompt.Session

-- The turn of the interview that an action comes to. Closing is none, and of all timers only the
-- pending one counts.
def turn? (session : Session) : Action → Option Interview.Turn
  | .advance answer limit => some (.advance (session.termsWithin limit) answer)
  | .skip => some .skip
  | .back => some .back
  | .restart _ => some (.restart session.questions)
  | .close => none
  | .fire i _ => if session.pending = some i then some (.restart session.questions) else none

def turns : Session → List Action → List Interview.Turn
  | _, [] => []
  | session, action :: actions =>
    (session.turn? action).toList ++ (session.perform action).turns actions

theorem interview_settle (session : Session) (outcome : Outcome Interview) :
    (session.settle outcome).interview = session.interview.after outcome := by
  cases outcome with
  | error failure => rfl
  | ok next =>
    simp only [settle]
    split <;> rfl

theorem after_restart (session : Session) :
    session.interview.after (session.interview.turn (.restart session.questions)) =
      session.first := by
  rw [Interview.turn, session.start_questions]
  rfl

theorem interview_perform {session : Session} (h : session.Consistent) (action : Action) :
    (session.perform action).interview =
      session.interview.play (session.turn? action).toList := by
  cases action with
  | advance answer limit =>
    rw [perform, state_advance, interview_settle]
    rfl
  | skip | back => exact congrArg (·.interview) (state_take session _ _)
  | restart id => exact (after_restart session).symm
  | close => rfl
  | fire i force =>
    rw [perform, turn?]
    split
    · rename_i hpending
      rw [h.state_fire_pending force hpending]
      exact (after_restart session).symm
    · rename_i hpending
      obtain hsame | hstruck := h.state_fire_other force hpending
      · rw [hsame]
        rfl
      · rw [hstruck]
        rfl

theorem interview_run {session : Session} (h : session.Consistent) (actions : List Action) :
    (session.run actions).interview = session.interview.play (session.turns actions) := by
  induction actions generalizing session with
  | nil => rfl
  | cons action actions ih =>
    rw [run_cons, ih (h.perform action), interview_perform h, turns, Interview.play_append]

-- A timer that was set and is not waited for any more.
def Spent (session : Session) (i : Nat) : Prop :=
  i < session.timers.length ∧ session.pending ≠ some i

namespace Spent

variable {session : Session} {i : Nat}

-- Only a timer that is new can become the pending one.
theorem settle (h : session.Spent i) (outcome : Outcome Interview) :
    (session.settle outcome).Spent i := by
  obtain ⟨hset, hne⟩ := h
  cases outcome with
  | error failure => exact ⟨hset, hne⟩
  | ok next =>
    simp only [Session.settle]
    split
    · have hnew : session.timers.length ≠ i := by omega
      constructor
      · simp only [schedule, List.length_append, List.length_singleton]
        omega
      · simpa [schedule] using hnew
    · exact ⟨hset, hne⟩

theorem take (h : session.Spent i) (move : Move) (outcome : Outcome Interview) :
    (session.take move outcome).state.Spent i := by
  rw [state_take]
  exact h

theorem of_close (hset : i < session.timers.length) : session.close.Spent i :=
  ⟨by rwa [length_timers_close], by simp [close]⟩

theorem of_renew (hset : i < session.timers.length) (j : Nat) :
    (session.strike j).renew.Spent i :=
  ⟨by simpa [renew, strike] using hset, by simp [renew]⟩

theorem perform (h : session.Spent i) (action : Action) : (session.perform action).Spent i := by
  cases action with
  | advance answer limit =>
    rw [Session.perform, state_advance]
    exact h.settle _
  | skip | back => exact h.take _ _
  | restart id => exact of_close h.1
  | close => exact of_close h.1
  | fire j force =>
    obtain hsame | ⟨timer, -, -, hstate⟩ := state_fire session j force
    · rw [Session.perform, hsame]
      exact h
    · rw [Session.perform, hstate]
      split
      · exact of_renew h.1 j
      · exact ⟨by simpa [strike] using h.1, h.2⟩

theorem run (h : session.Spent i) (actions : List Action) : (session.run actions).Spent i := by
  induction actions generalizing session with
  | nil => exact h
  | cons action actions ih => exact ih (h.perform action)

end Spent

-- Whether an action ends the wait for the timers that are set: closing, starting over, and the
-- pending timer that fires.
def ends (session : Session) : Action → Bool
  | .restart _ | .close => true
  | .fire i _ => session.pending == some i
  | .advance _ _ | .skip | .back => false

theorem spent_of_ends {session : Session} (h : session.Consistent) {action : Action}
    (hends : session.ends action = true) {i : Nat} (hset : i < session.timers.length) :
    (session.perform action).Spent i := by
  cases action with
  | restart id => exact Spent.of_close hset
  | close => exact Spent.of_close hset
  | fire j force =>
    rw [perform, h.state_fire_pending force (beq_iff_eq.mp hends)]
    exact Spent.of_renew hset j
  | advance | skip | back => cases hends

-- A session is its interview with two ways of starting over. A timer that is not pending changes
-- nothing but its own mark, even if it is forced to fire, and no timer that was set before the
-- session was closed, started over or was reset is ever pending again.
theorem interview_of_run (session : Session) (hstarted : session.Started)
    (actions : List Action) :
    (∃ first, Interview.start session.questions = .ok first ∧
      (session.run actions).interview = first.play (session.turns actions)) ∧
    (∀ i force, (session.run actions).pending ≠ some i →
      ((session.run actions).fire i force).state.interview = (session.run actions).interview ∧
      ((session.run actions).fire i force).state.id = (session.run actions).id ∧
      ((session.run actions).fire i force).state.completing = (session.run actions).completing ∧
      ((session.run actions).fire i force).state.pending = (session.run actions).pending ∧
      ∀ j, (session.run actions).pending = some j →
        ((session.run actions).fire i force).state.timers[j]? =
          (session.run actions).timers[j]?) ∧
    ∀ action later i, (session.run actions).ends action = true →
      i < (session.run actions).timers.length →
      (session.run (actions ++ action :: later)).pending ≠ some i ∧
        ∀ force, (session.run (actions ++ action :: later)).turn? (.fire i force) = none := by
  refine ⟨?_, ?_, ?_⟩
  · refine ⟨session.first, session.start_questions, ?_⟩
    rw [interview_run hstarted.consistent, (started_iff.mp hstarted).1]
  · intro i force hpending
    obtain hsame | hstruck := (hstarted.consistent.run actions).state_fire_other force hpending
    · rw [hsame]
      simp
    · rw [hstruck]
      refine ⟨rfl, rfl, rfl, rfl, fun j hj => ?_⟩
      have hij : i ≠ j := by
        rintro rfl
        exact hpending hj
      rw [strike, List.getElem?_modify_ne _ _ hij]
  · intro action later i hends hset
    have hspent := (spent_of_ends (hstarted.consistent.run actions) hends hset).run later
    rw [run_append, run_cons]
    exact ⟨hspent.2, fun force => if_neg hspent.2⟩

-- The first timer is forced to fire while the second one is pending, and the second one makes way
-- for a third.
theorem interview_of_run_background :
    ∃ session now,
      Session.start { lexicon := .standard }
        [{ id := "colour", text := "Which colour?", keyword := "background" }] 5.0 "wiz_1" =
          .ok session ∧
      session.run [.advance "FF" none, .restart "wiz_2", .advance " light(00) " none] = now ∧
      (∃ first, Interview.start session.questions = .ok first ∧
        now.interview = first.play [.advance session.terms "FF", .restart session.questions,
          .advance session.terms " light(00) "]) ∧
      now.pending = some 1 ∧ (now.fire 0 true).state.interview = now.interview ∧
      (now.run [.restart "wiz_3", .advance "00" none]).completing = true ∧
      (now.run [.restart "wiz_3", .advance "00" none]).pending ≠ some 1 := by
  refine ⟨_, _, rfl, rfl, ?_, rfl, ?_, by decide, ?_⟩
  · exact (interview_of_run _ (started_iff.mpr ⟨rfl, rfl, rfl, rfl⟩)
      [.advance "FF" none, .restart "wiz_2", .advance " light(00) " none]).1
  · exact ((interview_of_run _ (started_iff.mpr ⟨rfl, rfl, rfl, rfl⟩)
      [.advance "FF" none, .restart "wiz_2", .advance " light(00) " none]).2.1 0 true
        (by decide)).1
  · exact ((interview_of_run _ (started_iff.mpr ⟨rfl, rfl, rfl, rfl⟩)
      [.advance "FF" none, .restart "wiz_2", .advance " light(00) " none]).2.2
        (.restart "wiz_3") [.advance "00" none] 1 rfl (by decide)).1

end ClausePrompt.Session
