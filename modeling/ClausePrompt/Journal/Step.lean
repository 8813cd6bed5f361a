import ClausePrompt.Journal.Metrics

namespace ClausePrompt

-- What one operation does: its outcome, the state after it, and what it adds to the journal and to
-- the metrics.
structure Step (σ α : Type) where
  outcome : Outcome α
  state : σ
  log : List Event := []
  marks : List Mark := []

namespace Step

variable {σ τ α β : Type}

-- The state becomes part of a larger one.
def within (embed : σ → τ) (step : Step σ α) : Step τ α :=
  { outcome := step.outcome, state := embed step.state, log := step.log, marks := step.marks }

def failed (state : σ) (failure : Failure) : Step σ α := { outcome := .error failure, state }

def refused (state : σ) (refusal : Refusal) : Step σ α := failed state (.refused refusal)

end Step

end ClausePrompt
