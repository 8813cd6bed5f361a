import ClausePrompt.Interview
import ClausePrompt.Journal.Step

namespace ClausePrompt

-- A timer that is to start a session over. It is meant for one generation of the session, and
-- later generations ignore it.
structure Timer where
  generation : Nat
  cancelled : Bool := false
  fired : Bool := false
  deriving DecidableEq, Repr

def Timer.live (timer : Timer) : Bool := !timer.cancelled && !timer.fired

-- What comes of a timer that is told to fire.
inductive Firing where
  -- there is no such timer
  | absent
  -- the timer has fired before, or is cancelled
  | silent
  | ran
  deriving DecidableEq, Repr

-- An interview that starts over by itself some time after it was finished.
structure Session where
  terms : Interview.Terms
  questions : List Question
  -- the seconds for which a result is shown
  delay : Float
  -- the interview that the session starts over with
  first : Interview
  id : String
  interview : Interview
  -- the timer that is going to start the session over
  pending : Option Nat := none
  generation : Nat := 0
  -- every timer that was ever set, in order
  timers : List Timer := []
  start_questions : Interview.start questions = .ok first
  delay_positive : ¬ delay ≤ 0

namespace Session

def start (terms : Interview.Terms) (questions : List Question) (delay : Float) (id : String) :
    Outcome Session :=
  if delay_positive : delay ≤ 0 then breakOff .delayNotPositive
  else match start_questions : Interview.start questions with
    | .error failure => .error failure
    | .ok first =>
      .ok
        { terms, questions, delay, first, id
          interview := first
          start_questions
          delay_positive }

-- A result is shown until the pending timer fires.
def completing (session : Session) : Bool := session.pending.isSome

def reject (session : Session) (move : Move) : Failure → Step Session Interview
  | .broken fault => .failed session (.broken fault)
  | .refused refusal =>
    { outcome := refuse refusal
      state := session
      log := [.moveRejected session.id move refusal.kind refusal.reason]
      marks := [.count (.move move false), .count (.failure refusal.kind .wizard)] }

def accept (session : Session) (move : Move) (next : Interview) : Step Session Interview :=
  { outcome := .ok next
    state := { session with interview := next }
    log := [.moved session.id move next.index]
    marks := [.count (.move move true)] }

-- Sets a timer for the present generation.
def schedule (session : Session) : Session :=
  { session with
    pending := some session.timers.length
    timers := session.timers ++ [{ generation := session.generation }] }

-- Takes over a finished interview and sets the timer.
def complete (session : Session) (next : Interview) (result : String) : Step Session Interview :=
  let step := session.accept .advance next
  { step with
    state := step.state.schedule
    log := step.log ++ [.completed session.id result]
    marks := step.marks ++ [.count .completion] }

-- The terms under a limit of the caller. A limit of zero is none.
def termsWithin (session : Session) : Option Int → Interview.Terms
  | none => session.terms
  | some limit => if limit = 0 then session.terms else { session.terms with limit }

def advance (session : Session) (answer : String) (limit : Option Int := none) :
    Step Session Interview :=
  match session.interview.advance (session.termsWithin limit) answer with
  | .error failure => session.reject .advance failure
  | .ok next =>
    match next.result with
    | none => session.accept .advance next
    | some result => session.complete next result

-- Takes over what a move comes to that does not finish the interview.
def take (session : Session) (move : Move) : Outcome Interview → Step Session Interview
  | .error failure => session.reject move failure
  | .ok next => session.accept move next

def skip (session : Session) : Step Session Interview :=
  session.take .skip session.interview.skip

def back (session : Session) : Step Session Interview :=
  session.take .back session.interview.back

-- Cancels the pending timer. The timers that are already running belong to an earlier generation
-- from then on.
def close (session : Session) : Session :=
  { session with
    pending := none
    generation := session.generation + 1
    timers := match session.pending with
      | none => session.timers
      | some i => session.timers.modify i fun timer => { timer with cancelled := true } }

-- Starts over at once, as a session with a new id.
def restart (session : Session) (id : String) : Step Session Interview :=
  { outcome := .ok session.first
    state := { session.close with id, interview := session.first }
    log := [.restarted id] }

def expire (session : Session) (timer : Timer) : Step Session Firing :=
  if timer.generation = session.generation then
    { outcome := .ok .ran
      state :=
        { session with
          pending := none
          generation := session.generation + 1
          interview := session.first }
      log := [.reset session.id] }
  else
    { outcome := .ok .ran, state := session, log := [.staleResetIgnored session.id] }

-- Lets a timer fire. No timer fires twice, and a cancelled one only if it is forced, as when the
-- cancellation came too late.
def fire (session : Session) (i : Nat) (force : Bool := false) : Step Session Firing :=
  match session.timers[i]? with
  | none => { outcome := .ok .absent, state := session }
  | some timer =>
    if timer.fired || (timer.cancelled && !force) then { outcome := .ok .silent, state := session }
    else
      let timers := session.timers.modify i fun timer => { timer with fired := true }
      { session with timers }.expire timer

end Session

end ClausePrompt
