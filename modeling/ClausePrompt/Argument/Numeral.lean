import ClausePrompt.Argument.Defect
import ClausePrompt.Text.CharClass

namespace ClausePrompt.Numeral

-- A numeral is one or more decimal digits of any script, mixed as one likes.
def isNumeral (text : List Char) : Bool := !text.isEmpty && text.all Text.isDigit

def value (text : List Char) : Nat :=
  text.foldl (fun n c => 10 * n + (Text.digitValue? c).getD 0) 0

-- The most digits that are converted, leading zeros included.
def digitLimit : Nat := 4300

def read (text : List Char) : Reading Nat :=
  if digitLimit < text.length then .error (.tooManyDigits text.length) else .ok (value text)

-- Refuses the first part that is no numeral.
def check : List (List Char) → Reading Unit
  | [] => .ok ()
  | part :: parts =>
    if isNumeral part then check parts else malformed (.notNumeral (String.ofList part))

end ClausePrompt.Numeral
