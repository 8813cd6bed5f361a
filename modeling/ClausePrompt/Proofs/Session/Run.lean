import ClausePrompt.Proofs.Interview.Turn
import ClausePrompt.Session

namespace ClausePrompt.Session

-- What can happen to a session: a move of its author, starting over, closing, and a timer that is
-- told to fire, in time or by force.
inductive Action where
  | advance (answer : String) (limit : Option Int)
  | skip
  | back
  | restart (id : String)
  | close
  | fire (i : Nat) (force : Bool)
  deriving DecidableEq

def perform (session : Session) : Action → Session
  | .advance answer limit => (session.advance answer limit).state
  | .skip => session.skip.state
  | .back => session.back.state
  | .restart id => (session.restart id).state
  | .close => session.close
  | .fire i force => (session.fire i force).state

def run (session : Session) (actions : List Action) : Session := actions.foldl perform session

@[simp] theorem run_nil (session : Session) : session.run [] = session := rfl

@[simp] theorem run_cons (session : Session) (action : Action) (actions : List Action) :
    session.run (action :: actions) = (session.perform action).run actions := rfl

theorem run_append (session : Session) (before after : List Action) :
    session.run (before ++ after) = (session.run before).run after := by
  simp [run]

-- A session as it is made.
def Started (session : Session) : Prop :=
  ∃ terms questions delay id, Session.start terms questions delay id = .ok session

theorem started_iff {session : Session} :
    session.Started ↔ session.interview = session.first ∧ session.pending = none ∧
      session.generation = 0 ∧ session.timers = [] := by
  constructor
  · rintro ⟨terms, questions, delay, id, h⟩
    unfold start at h
    split at h
    · cases h
    · split at h
      · cases h
      · cases h
        exact ⟨rfl, rfl, rfl, rfl⟩
  · obtain ⟨terms, questions, delay, first, id, interview, pending, generation, timers, hstart,
      hdelay⟩ := session
    intro hfresh
    dsimp only at hfresh
    obtain ⟨rfl, rfl, rfl, rfl⟩ := hfresh
    refine ⟨terms, questions, delay, id, ?_⟩
    rw [start, dif_neg hdelay]
    split
    · rename_i failure hfailure
      simp [hstart] at hfailure
    · rename_i found hfound
      obtain rfl : interview = found := by simpa [hstart] using hfound
      rfl

theorem completed_first (session : Session) : session.first.completed = false :=
  Interview.completed_of_start session.start_questions

-- The state after a move of the interview. One that finishes it sets a timer.
def settle (session : Session) : Outcome Interview → Session
  | .error _ => session
  | .ok next =>
    if next.completed then { session with interview := next }.schedule
    else { session with interview := next }

theorem outcome_advance (session : Session) (answer : String) (limit : Option Int) :
    (session.advance answer limit).outcome =
      session.interview.advance (session.termsWithin limit) answer := by
  unfold advance
  cases session.interview.advance (session.termsWithin limit) answer with
  | error failure => cases failure <;> rfl
  | ok next => cases hresult : next.result <;> simp [hresult] <;> rfl

theorem outcome_take (session : Session) (move : Move) (outcome : Outcome Interview) :
    (session.take move outcome).outcome = outcome := by
  cases outcome with
  | error failure => cases failure <;> rfl
  | ok next => rfl

theorem state_advance (session : Session) (answer : String) (limit : Option Int) :
    (session.advance answer limit).state =
      session.settle (session.interview.advance (session.termsWithin limit) answer) := by
  unfold advance settle
  cases session.interview.advance (session.termsWithin limit) answer with
  | error failure => cases failure <;> rfl
  | ok next => cases hresult : next.result <;> simp [Interview.completed, hresult] <;> rfl

-- A move that does not finish the interview changes nothing else.
theorem state_take (session : Session) (move : Move) (outcome : Outcome Interview) :
    (session.take move outcome).state =
      { session with interview := session.interview.after outcome } := by
  cases outcome with
  | error failure => cases failure <;> rfl
  | ok next => rfl

-- A session whose interview is finished takes no move.
theorem advance_of_completed {session : Session} (h : session.interview.completed = true)
    (answer : String) (limit : Option Int) :
    (session.advance answer limit).outcome = refuse Interview.finished ∧
      (session.advance answer limit).state = session := by
  rw [outcome_advance, state_advance, Interview.advance_of_completed h]
  exact ⟨rfl, rfl⟩

theorem take_of_completed {session : Session} (h : session.interview.completed = true)
    (move : Move) {outcome : Outcome Interview} (hpassing : session.interview.Passing outcome) :
    (session.take move outcome).outcome = refuse Interview.finished ∧
      (session.take move outcome).state = session := by
  rw [outcome_take, state_take, hpassing.refused h]
  exact ⟨rfl, rfl⟩

-- An answer that makes a session show a result is one that finishes the interview.
theorem exists_result_of_advance {session : Session} {answer : String} {limit : Option Int}
    (hbefore : session.completing = false)
    (hafter : (session.advance answer limit).state.completing = true) :
    ∃ next result, session.interview.advance (session.termsWithin limit) answer = .ok next ∧
      next.result = some result ∧ (session.advance answer limit).state.interview = next := by
  rw [state_advance] at hafter ⊢
  cases hadvance : session.interview.advance (session.termsWithin limit) answer with
  | error failure => simp [hadvance, settle, hbefore] at hafter
  | ok next =>
    cases hcompleted : next.completed with
    | false =>
      have hpending : session.pending = none := by simpa [completing] using hbefore
      simp [hadvance, settle, hcompleted, completing, hpending] at hafter
    | true =>
      obtain ⟨result, hresult⟩ := Option.isSome_iff_exists.mp hcompleted
      exact ⟨next, result, rfl, hresult, by simp [settle, hcompleted, schedule]⟩

-- Marks a timer as fired.
def strike (session : Session) (i : Nat) : Session :=
  { session with timers := session.timers.modify i fun timer => { timer with fired := true } }

-- What is left of a session whose timer is due: it starts over, under the same id.
def renew (session : Session) : Session :=
  { session with
    pending := none
    generation := session.generation + 1
    interview := session.first }

-- A timer that fires marks itself, and starts the session over only if it was set for the present
-- generation.
theorem state_fire (session : Session) (i : Nat) (force : Bool) :
    (session.fire i force).state = session ∨
      ∃ timer, session.timers[i]? = some timer ∧ timer.fired = false ∧
        (session.fire i force).state =
          if timer.generation = session.generation then (session.strike i).renew
          else session.strike i := by
  unfold fire
  cases htimer : session.timers[i]? with
  | none => exact .inl rfl
  | some timer =>
    simp only
    split
    · exact .inl rfl
    · rename_i hloud
      refine .inr ⟨timer, rfl, by simp_all, ?_⟩
      unfold expire
      split <;> rfl

theorem state_fire_of_live {session : Session} {i : Nat} {timer : Timer} (force : Bool)
    (htimer : session.timers[i]? = some timer) (hlive : timer.live = true)
    (hgeneration : timer.generation = session.generation) :
    (session.fire i force).state = (session.strike i).renew := by
  have hloud : (timer.fired || (timer.cancelled && !force)) = false := by
    simp [Timer.live] at hlive
    simp [hlive]
  simp only [fire, htimer, hloud, expire, hgeneration]
  rfl

-- No timer that fires shows a result, or changes the one that is shown.
theorem completing_of_fire {session : Session} {i : Nat} {force : Bool}
    (h : (session.fire i force).state.completing = true) :
    session.completing = true ∧ (session.fire i force).state.interview = session.interview := by
  obtain hsame | ⟨timer, -, -, hstate⟩ := state_fire session i force
  · rw [hsame] at h ⊢
    exact ⟨h, rfl⟩
  · rw [hstate] at h ⊢
    split at h
    · simp [renew, completing] at h
    · rename_i hstale
      rw [if_neg hstale]
      exact ⟨h, rfl⟩

-- A limit of the caller leaves the lexicon alone.
@[simp] theorem lexicon_termsWithin (session : Session) (limit : Option Int) :
    (session.termsWithin limit).lexicon = session.terms.lexicon := by
  unfold termsWithin
  split
  · rfl
  · split <;> rfl

theorem settings_settle (session : Session) (outcome : Outcome Interview) :
    (session.settle outcome).terms = session.terms ∧
      (session.settle outcome).questions = session.questions := by
  cases outcome with
  | error failure => exact ⟨rfl, rfl⟩
  | ok next =>
    simp only [settle]
    split <;> exact ⟨rfl, rfl⟩

theorem settings_take (session : Session) (move : Move) (outcome : Outcome Interview) :
    (session.take move outcome).state.terms = session.terms ∧
      (session.take move outcome).state.questions = session.questions := by
  rw [state_take]
  exact ⟨rfl, rfl⟩

theorem settings_perform (session : Session) (action : Action) :
    (session.perform action).terms = session.terms ∧
      (session.perform action).questions = session.questions := by
  cases action with
  | advance answer limit =>
    rw [perform, state_advance]
    exact settings_settle session _
  | skip | back =>
    rw [perform]
    exact settings_take session _ _
  | restart id => exact ⟨rfl, rfl⟩
  | close => exact ⟨rfl, rfl⟩
  | fire i force =>
    obtain hsame | ⟨timer, -, -, hstate⟩ := state_fire session i force
    · rw [perform, hsame]
      exact ⟨rfl, rfl⟩
    · rw [perform, hstate]
      split <;> exact ⟨rfl, rfl⟩

theorem settings_run (session : Session) (actions : List Action) :
    (session.run actions).terms = session.terms ∧
      (session.run actions).questions = session.questions := by
  induction actions generalizing session with
  | nil => exact ⟨rfl, rfl⟩
  | cons action actions ih =>
    obtain ⟨hterms, hquestions⟩ := settings_perform session action
    obtain ⟨hrestTerms, hrestQuestions⟩ := ih (session.perform action)
    exact ⟨hrestTerms.trans hterms, hrestQuestions.trans hquestions⟩

end ClausePrompt.Session
