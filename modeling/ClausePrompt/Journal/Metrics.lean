import ClausePrompt.Journal.Event
import ClausePrompt.OrderedMap

namespace ClausePrompt

-- The part of the engine that reports a failure.
inductive Component where
  | assembler
  | codec
  | wizard
  | composer
  deriving DecidableEq, Repr

def Component.name : Component → String
  | assembler => "assembler"
  | codec => "codec"
  | wizard => "wizard"
  | composer => "composer"

inductive Placement where
  | appended
  | replaced
  | rejected
  deriving DecidableEq, Repr

def Placement.name : Placement → String
  | appended => "appended"
  | replaced => "replaced"
  | rejected => "error"

-- Occurrences that are counted. Those with the same labels are counted together.
inductive Count where
  | clause (keyword : String) (placement : Placement)
  | parse (accepted : Bool)
  | move (move : Move) (accepted : Bool)
  | completion
  | failure (kind : ErrorKind) (component : Component)
  deriving DecidableEq, Repr

-- A change of the metrics: one more occurrence, or how many snippets of a kind are stored now.
inductive Mark where
  | count (count : Count)
  | stored (kind : SnippetKind) (number : Nat)
  deriving DecidableEq, Repr

structure Metrics where
  enabled : Bool := true
  counts : OrderedMap Count Nat := .empty
  stored : OrderedMap SnippetKind Nat := .empty

namespace Metrics

def count (metrics : Metrics) (count : Count) : Nat := (metrics.counts.get? count).getD 0

-- Nothing changes while metrics are off.
def record (metrics : Metrics) (mark : Mark) : Metrics :=
  if metrics.enabled then
    match mark with
    | .count count =>
      { metrics with counts := metrics.counts.insert count (metrics.count count + 1) }
    | .stored kind number => { metrics with stored := metrics.stored.insert kind number }
  else metrics

def recordAll (metrics : Metrics) (marks : List Mark) : Metrics := marks.foldl record metrics

end Metrics

end ClausePrompt
