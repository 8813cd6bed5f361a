import ClausePrompt.Clause

namespace ClausePrompt

-- Clauses in order. A keyword may occur more than once.
structure Prompt where
  clauses : List Clause := []
  deriving DecidableEq, Repr

namespace Prompt

def keywords (prompt : Prompt) : List String := prompt.clauses.map (·.keyword.id)

-- The place of the first clause of a keyword.
def indexOf? (prompt : Prompt) (id : String) : Option Nat :=
  prompt.clauses.findIdx? (·.keyword.id == id)

def contains (prompt : Prompt) (id : String) : Bool := prompt.keywords.contains id

-- The clause takes the place of the first one with its keyword, or goes to the end.
def placeIn (clause : Clause) : List Clause → List Clause
  | [] => [clause]
  | c :: cs => if c.keyword.id = clause.keyword.id then clause :: cs else c :: placeIn clause cs

def place (prompt : Prompt) (clause : Clause) : Prompt := ⟨placeIn clause prompt.clauses⟩

-- The same keywords in the same order, and clauses that say the same.
def equivalent (a b : Prompt) : Bool :=
  a.clauses.length == b.clauses.length &&
    (a.clauses.zip b.clauses).all fun (c, d) => c.equivalent d

end Prompt

end ClausePrompt
