import ClausePrompt.Argument.Direction
import ClausePrompt.Argument.Nesting

namespace ClausePrompt

-- How two indices are joined: as a list of two or as the ends of a span.
inductive IndexJoin where
  | list
  | span
  deriving DecidableEq, Repr

def IndexJoin.text : IndexJoin → String
  | list => ";"
  | span => "to"

inductive Variant where
  | light
  | dark
  deriving DecidableEq, Repr

namespace Variant

def name : Variant → String
  | light => "light"
  | dark => "dark"

def all : List Variant := [light, dark]

def ofName? (text : List Char) : Option Variant := all.find? (·.name.toList == text)

end Variant

-- What an argument says, without the blanks and spellings of the text it was read from.
inductive Argument where
  | token (value : String)
  -- one or two parts; the index is the last one as a number, where the keyword asks for one
  | pair (parts : List String) (index : Option Nat)
  | range (indices : List Nat) (join : Option IndexJoin)
  | reference (handle : String) (bracketed : Bool)
  -- keys are in lower case; values are opaque
  | keyed (entries : List (String × String))
  | variants (base : List String) (light dark : Option String)
  | named (delimiter : Delimiter) (name : String) (members : List String)
  | positional (direction : Direction) (target : String) (within : Bool)
  deriving DecidableEq, Repr

namespace Argument

-- The value of the first entry with a key.
def entry? (entries : List (String × String)) (key : String) : Option String := entries.lookup key

-- A direction that lies within its target is a relation of its own.
def relation (direction : Direction) (within : Bool) : String :=
  if within then "within-" ++ direction.name else direction.name

end Argument

end ClausePrompt
