import ClausePrompt.Refusal

namespace ClausePrompt

-- A call that is to be made after a delay.
structure Alarm where
  -- milliseconds
  delay : Int
  cancelled : Bool := false
  deriving DecidableEq, Repr

-- Where alarms wait.
inductive Clock where
  -- each in a thread that ends with the program
  | threads
  -- on an event loop, which has to run when an alarm is set
  | loop (running : Bool)
  deriving DecidableEq, Repr

namespace Alarm

-- The positions of the alarms that go off, in the order in which they do. Alarms with the same
-- delay go off in the order in which they were set.
def firing (alarms : List Alarm) : List Nat :=
  let waiting := alarms.zipIdx.filter fun (alarm, _) => !alarm.cancelled
  (waiting.mergeSort fun a b => a.1.delay ≤ b.1.delay).map (·.2)

def runOn (clock : Clock) (alarms : List Alarm) : Outcome (List Nat) :=
  if clock = .loop false ∧ alarms ≠ [] then breakOff .noEventLoop else .ok (firing alarms)

end Alarm

end ClausePrompt
