import ClausePrompt.Proofs.Session.Run
import Mathlib.Data.List.Basic

namespace ClausePrompt

-- A timer of an earlier generation, which would do nothing in time and is ignored by force.
def Timer.Stale (generation : Nat) (timer : Timer) : Prop :=
  timer.live = false ∧ timer.generation < generation

namespace Session

-- Timers and generations are in step. The pending timer is the only one that is live and the only
-- one of the present generation, and it is there only while a result is shown.
structure Consistent (session : Session) : Prop where
  pending_live : ∀ i, session.pending = some i → ∃ timer : Timer,
    session.timers[i]? = some timer ∧ timer.live = true ∧ timer.generation = session.generation
  pending_completed : session.completing = true → session.interview.completed = true
  others_stale : ∀ (i : Nat) (timer : Timer), session.timers[i]? = some timer →
    session.pending ≠ some i → timer.Stale session.generation

namespace Consistent

variable {session : Session}

theorem pending_eq_none (h : session.Consistent) (hopen : session.interview.completed = false) :
    session.pending = none := by
  cases hpending : session.pending with
  | none => rfl
  | some i =>
    have hcompleted := h.pending_completed (by simp [completing, hpending])
    simp [hopen] at hcompleted

theorem generation_le (h : session.Consistent) {i : Nat} {timer : Timer}
    (htimer : session.timers[i]? = some timer) : timer.generation ≤ session.generation := by
  by_cases hpending : session.pending = some i
  · obtain ⟨pending, hfound, -, hgeneration⟩ := h.pending_live i hpending
    obtain rfl : timer = pending := by simpa [htimer] using hfound
    omega
  · have := (h.others_stale i timer htimer hpending).2
    omega

-- A session without a pending timer is consistent as soon as all its timers are stale.
theorem of_pending_none (hpending : session.pending = none)
    (hstale : ∀ (i : Nat) (timer : Timer), session.timers[i]? = some timer →
      timer.Stale session.generation) : session.Consistent := by
  constructor
  · intro i hi
    simp [hpending] at hi
  · intro hcompleting
    simp [completing, hpending] at hcompleting
  · intro i timer htimer _
    exact hstale i timer htimer

theorem schedule (hcompleted : session.interview.completed = true)
    (hstale : ∀ (i : Nat) (timer : Timer), session.timers[i]? = some timer →
      timer.Stale session.generation) : session.schedule.Consistent := by
  constructor
  · intro i hi
    obtain rfl : session.timers.length = i := by simpa [Session.schedule] using hi
    exact ⟨{ generation := session.generation }, by simp [Session.schedule], rfl, rfl⟩
  · intro _
    exact hcompleted
  · intro i timer htimer hi
    have hne : session.timers.length ≠ i := by simpa [Session.schedule] using hi
    have hlt : i < session.timers.length := by
      have hbound := (List.getElem?_eq_some_iff.mp htimer).1
      simp only [Session.schedule, List.length_append, List.length_singleton] at hbound
      omega
    apply hstale i timer
    simpa [Session.schedule, List.getElem?_append_left hlt] using htimer

-- A move succeeds only while the interview is open, so that no timer is pending then.
theorem settle (h : session.Consistent) {outcome : Outcome Interview}
    (hopen : ∀ next, outcome = .ok next → session.interview.completed = false) :
    (session.settle outcome).Consistent := by
  cases outcome with
  | error failure => exact h
  | ok next =>
    have hpending := h.pending_eq_none (hopen next rfl)
    have hstale : ∀ (i : Nat) (timer : Timer), session.timers[i]? = some timer →
        timer.Stale session.generation := by
      intro i timer htimer
      exact h.others_stale i timer htimer (by simp [hpending])
    simp only [Session.settle]
    split
    · rename_i hcompleted
      exact schedule hcompleted hstale
    · exact of_pending_none hpending hstale

-- What does not finish the interview does not open it again either.
theorem take (h : session.Consistent) (move : Move) {outcome : Outcome Interview}
    (hpassing : session.interview.Passing outcome) :
    (session.take move outcome).state.Consistent := by
  rw [state_take]
  refine ⟨h.pending_live, fun hshown => ?_, h.others_stale⟩
  exact hpassing.completed_after.trans (h.pending_completed hshown)

-- Once the generation has passed, the pending timer is stale as well, provided that it was marked.
theorem stale_modify (h : session.Consistent) {i j : Nat} {mark : Timer → Timer} {timer : Timer}
    (htimer : (session.timers.modify i mark)[j]? = some timer)
    (hi : ∀ j, session.pending = some j → i = j) (hlive : ∀ timer, (mark timer).live = false)
    (hgeneration : ∀ timer, (mark timer).generation = timer.generation) :
    timer.Stale (session.generation + 1) := by
  by_cases hij : i = j
  · subst hij
    rw [List.getElem?_modify_eq] at htimer
    obtain ⟨old, hold, rfl⟩ := Option.map_eq_some_iff.mp htimer
    have hle := h.generation_le hold
    exact ⟨hlive old, by rw [hgeneration]; omega⟩
  · rw [List.getElem?_modify_ne _ _ hij] at htimer
    obtain ⟨hdead, hlt⟩ := h.others_stale j timer htimer fun hpending => hij (hi j hpending)
    exact ⟨hdead, by omega⟩

theorem close (h : session.Consistent) : session.close.Consistent := by
  apply of_pending_none rfl
  intro j timer htimer
  cases hpending : session.pending with
  | none =>
    simp only [Session.close, hpending] at htimer
    obtain ⟨hdead, hlt⟩ := h.others_stale j timer htimer (by simp [hpending])
    exact ⟨hdead, Nat.lt_succ_of_lt hlt⟩
  | some i =>
    simp only [Session.close, hpending] at htimer
    refine h.stale_modify htimer ?_ (fun timer => ?_) fun timer => rfl
    · intro k hk
      simpa [hpending] using hk
    · simp [Timer.live]

theorem restart (h : session.Consistent) (id : String) :
    (session.restart id).state.Consistent :=
  of_pending_none rfl fun j timer htimer =>
    h.close.others_stale j timer htimer (by simp [Session.close])

theorem state_fire_pending (h : session.Consistent) {i : Nat} (force : Bool)
    (hpending : session.pending = some i) :
    (session.fire i force).state = (session.strike i).renew := by
  obtain ⟨timer, htimer, hlive, hgeneration⟩ := h.pending_live i hpending
  exact state_fire_of_live force htimer hlive hgeneration

-- A timer that is not the pending one can be forced to fire, and that does nothing.
theorem state_fire_other (h : session.Consistent) {i : Nat} (force : Bool)
    (hpending : session.pending ≠ some i) :
    (session.fire i force).state = session ∨
      (session.fire i force).state = session.strike i := by
  obtain hsame | ⟨timer, htimer, -, hstate⟩ := state_fire session i force
  · exact .inl hsame
  · have hlt := (h.others_stale i timer htimer hpending).2
    rw [if_neg (by omega)] at hstate
    exact .inr hstate

theorem strike (h : session.Consistent) {i : Nat} (hi : session.pending ≠ some i) :
    (session.strike i).Consistent := by
  constructor
  · intro j hj
    obtain ⟨timer, htimer, hlive, hgeneration⟩ := h.pending_live j hj
    have hij : i ≠ j := by
      rintro rfl
      exact hi hj
    exact ⟨timer, by rwa [Session.strike, List.getElem?_modify_ne _ _ hij], hlive, hgeneration⟩
  · exact h.pending_completed
  · intro j timer htimer hj
    by_cases hij : i = j
    · subst hij
      rw [Session.strike, List.getElem?_modify_eq] at htimer
      obtain ⟨old, hold, rfl⟩ := Option.map_eq_some_iff.mp htimer
      exact ⟨by simp [Timer.live], (h.others_stale i old hold hi).2⟩
    · rw [Session.strike, List.getElem?_modify_ne _ _ hij] at htimer
      exact h.others_stale j timer htimer hj

theorem fire (h : session.Consistent) (i : Nat) (force : Bool) :
    (session.fire i force).state.Consistent := by
  by_cases hpending : session.pending = some i
  · rw [h.state_fire_pending force hpending]
    apply of_pending_none rfl
    intro j timer htimer
    refine h.stale_modify htimer ?_ (fun timer => ?_) fun timer => rfl
    · intro k hk
      simpa [hpending] using hk
    · simp [Timer.live]
  · obtain hsame | hstruck := h.state_fire_other force hpending
    · rw [hsame]
      exact h
    · rw [hstruck]
      exact h.strike hpending

theorem perform (h : session.Consistent) (action : Action) :
    (session.perform action).Consistent := by
  cases action with
  | advance answer limit =>
    rw [Session.perform, state_advance]
    exact h.settle fun next hnext => Interview.completed_of_advance hnext
  | skip => exact h.take .skip session.interview.passing_skip
  | back => exact h.take .back session.interview.passing_back
  | restart id => exact h.restart id
  | close => exact h.close
  | fire i force => exact h.fire i force

theorem run (h : session.Consistent) (actions : List Action) :
    (session.run actions).Consistent := by
  induction actions generalizing session with
  | nil => exact h
  | cons action actions ih => exact ih (h.perform action)

end Consistent

theorem Started.consistent {session : Session} (h : session.Started) : session.Consistent := by
  obtain ⟨-, hpending, -, htimers⟩ := started_iff.mp h
  apply Consistent.of_pending_none hpending
  intro i timer htimer
  simp [htimers] at htimer

end Session

end ClausePrompt
