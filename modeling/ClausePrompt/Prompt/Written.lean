import ClausePrompt.Prompt

namespace ClausePrompt.Prompt

def separator : String := " | "

-- The prompt as one line. The empty prompt is the empty text.
def text (prompt : Prompt) : String :=
  separator.intercalate (prompt.clauses.map Clause.canonical)

def length (prompt : Prompt) : Nat := prompt.text.length

-- Why a change is not made that would leave a prompt longer than its limit.
def wouldExceed (limit : Int) : String := "prompt would exceed " ++ toString limit ++ " characters"

def isKeywordChar (c : Char) : Bool := c != '*' && !Text.isBlank c

-- A trimmed piece `*keyword* argument` as keyword and argument. The keyword is not empty and holds
-- neither asterisks nor blanks.
def splitClause? : List Char → Option (List Char × List Char)
  | '*' :: rest =>
    match rest.takeWhile isKeywordChar, rest.dropWhile isKeywordChar with
    | keyword@(_ :: _), '*' :: argument => some (keyword, argument)
    | _, _ => none
  | _ => none

def emptyClause : Refusal := .malformed none "empty clause"

def notClause (piece : List Char) : Refusal :=
  .malformed none ("expected '*keyword* argument', got '" ++ String.ofList piece ++ "'")

def readClause (lexicon : Lexicon) (piece : List Char) : Outcome Clause :=
  match splitClause? piece with
  | none => refuse (notClause piece)
  | some (keyword, argument) =>
    Clause.read lexicon (String.ofList keyword) (String.ofList (Text.trim argument))

def readPiece (lexicon : Lexicon) (piece : List Char) : Outcome Clause :=
  if piece.isEmpty then refuse emptyClause else readClause lexicon piece

-- The first piece that is no clause decides the failure, which is pinned to its position.
def readPieces (lexicon : Lexicon) : (position : Nat) → List (List Char) → Outcome (List Clause)
  | _, [] => .ok []
  | position, piece :: pieces =>
    match readPiece lexicon piece with
    | .error failure => .error (failure.atClause position)
    | .ok clause => (readPieces lexicon (position + 1) pieces).map (clause :: ·)

-- The trimmed pieces between the separators.
def pieces (text : List Char) : List (List Char) :=
  (Text.pieces Argument.clauseSeparator text).map Text.trim

-- A blank text is the empty prompt.
def parse (lexicon : Lexicon) (text : String) : Outcome Prompt :=
  if Text.allBlank text.toList then .ok {}
  else (readPieces lexicon 0 (pieces text.toList)).map Prompt.mk

end ClausePrompt.Prompt
