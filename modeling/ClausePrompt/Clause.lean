import ClausePrompt.Argument.Reader
import ClausePrompt.Lexicon

namespace ClausePrompt

-- A keyword with an argument. `raw` is the argument as it was typed and `argument` what it says.
structure Clause where
  keyword : Keyword
  raw : String
  argument : Argument
  deriving DecidableEq, Repr

namespace Clause

def canonicalChars (clause : Clause) : List Char :=
  '*' :: clause.keyword.id.toList ++ '*' :: ' ' :: Text.trim clause.raw.toList

-- The clause as it is written: the blanks around its argument are not part of it.
def canonical (clause : Clause) : String := String.ofList clause.canonicalChars

-- Two clauses that say the same, however they were typed.
def equivalent (a b : Clause) : Bool := a.keyword.id == b.keyword.id && a.argument == b.argument

-- A defect is reported with the keyword whose argument has it. Only a number that is too long
-- breaks the reading off.
def failure (keyword : Keyword) : Defect → Failure
  | .malformed malformation => .refused (.malformed (some keyword.id) malformation.message)
  | .duplicateKey key => .refused (.duplicateKey keyword.id key)
  | .tooManyDigits digits => .broken (.tooManyDigits digits)

def readFor (keyword : Keyword) (raw : String) : Outcome Clause :=
  match Argument.read keyword.shape keyword.rules raw.toList with
  | .ok argument => .ok ⟨keyword, raw, argument⟩
  | .error defect => .error (failure keyword defect)

def read (lexicon : Lexicon) (typed raw : String) : Outcome Clause :=
  match lexicon.resolve typed with
  | .ok keyword => readFor keyword raw
  | .error refusal => refuse refusal

end Clause

end ClausePrompt
