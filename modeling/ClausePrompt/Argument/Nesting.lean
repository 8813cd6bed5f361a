import ClausePrompt.Text.Pieces

namespace ClausePrompt

inductive Delimiter where
  | round
  | square
  deriving DecidableEq, Repr

namespace Delimiter

def opener : Delimiter → Char
  | round => '('
  | square => '['

def closer : Delimiter → Char
  | round => ')'
  | square => ']'

def ofOpener? (c : Char) : Option Delimiter :=
  if c = '(' then some round else if c = '[' then some square else none

def ofCloser? (c : Char) : Option Delimiter :=
  if c = ')' then some round else if c = ']' then some square else none

end Delimiter

def isDelimiter (c : Char) : Bool :=
  (Delimiter.ofOpener? c).isSome || (Delimiter.ofCloser? c).isSome

namespace Nesting

-- Why a text is not well nested: a closer that does not match the innermost open delimiter, or a
-- delimiter that is still open at the end.
inductive Flaw where
  | unexpected (delimiter : Delimiter)
  | unclosed (delimiter : Delimiter)
  deriving DecidableEq, Repr

def Flaw.message : Flaw → String
  | unexpected d => "unexpected '" ++ String.singleton d.closer ++ "' without matching '" ++
      String.singleton d.opener ++ "'"
  | unclosed d => "missing closing '" ++ String.singleton d.closer ++ "'"

-- The pieces between the separators outside all delimiters. `stack` holds the delimiters that are
-- open, innermost first. A delimiter is never taken for the separator, and without a separator
-- the text is one piece.
def piecesFrom (separator : Option Char) :
    List Delimiter → List Char → Except Flaw (List (List Char))
  | [], [] => .ok [[]]
  | d :: _, [] => .error (.unclosed d)
  | stack, c :: cs =>
    match Delimiter.ofOpener? c with
    | some d => (piecesFrom separator (d :: stack) cs).map (Text.extendFirst c)
    | none =>
      match Delimiter.ofCloser? c with
      | some d =>
        match stack with
        | [] => .error (.unexpected d)
        | e :: outer =>
          if d = e then (piecesFrom separator outer cs).map (Text.extendFirst c)
          else .error (.unexpected d)
      | none =>
        if stack = [] ∧ separator = some c then (piecesFrom separator [] cs).map ([] :: ·)
        else (piecesFrom separator stack cs).map (Text.extendFirst c)

-- The trimmed segments of a well-nested text. Segments may be empty.
def split (separator : Option Char) (text : List Char) : Except Flaw (List (List Char)) :=
  (piecesFrom separator [] text).map (·.map Text.trim)

end Nesting

end ClausePrompt
