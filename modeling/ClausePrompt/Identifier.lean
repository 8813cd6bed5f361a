import ClausePrompt.Calendar
import ClausePrompt.Refusal
import ClausePrompt.Text.Pieces

namespace ClausePrompt.Identifier

-- An identifier is a code of 26 characters, which may follow a label and an underscore. The first
-- ten characters of the code are the time of its making in milliseconds.

-- The digits of the base 32. Letters that look like digits, and the letter U, are left out.
def alphabet : List Char := "0123456789ABCDEFGHJKMNPQRSTVWXYZ".toList

-- Letters count in both cases.
def digit? (c : Char) : Option Nat := alphabet.findIdx? (· == c.toUpper)

def codeLength : Nat := 26

-- A code has 130 bits of which 128 are used, so the first digit is at most 7.
def isCode (code : List Char) : Bool :=
  code.length == codeLength && code.all (fun c => (digit? c).isSome) &&
    ((code.head?.bind digit?).any (· ≤ 7))

-- What stands behind the first underscore, or the whole text if there is none.
def codePart (id : List Char) : List Char :=
  match id.dropWhile (· != '_') with
  | _ :: code => code
  | [] => id

def isValid (id : String) : Bool := isCode (codePart id.toList)

-- What stands before the underscore, if there is exactly one.
def label? (id : String) : Option String :=
  match Text.pieces '_' id.toList with
  | [label, _] => some (String.ofList label)
  | _ => none

def number (digits : List Char) : Nat :=
  digits.foldl (fun n c => 32 * n + (digit? c).getD 0) 0

def millis (code : List Char) : Nat := number (code.take 10)

-- The digits of a number, as many as asked for. What does not fit is cut off at the front.
def encode : Nat → Nat → List Char
  | 0, _ => []
  | width + 1, n => encode width (n / 32) ++ [alphabet.getD (n % 32) '0']

def snippetLabel : String := "snip"

def sessionLabel : String := "wiz"

-- A new identifier. The random part keeps those apart that are made at the same time.
def make (label : String) (millis random : Nat) : String :=
  label ++ "_" ++ String.ofList (encode 10 (millis % Nat.pow 2 48) ++ encode 16 random)

-- The time of making of a valid identifier. The calendar may end before it.
def time (id : String) : Outcome (Option Instant) :=
  if isValid id then
    let instant := Instant.ofMillis (millis (codePart id.toList))
    if Instant.lastYear < instant.date.year then breakOff (.yearOutOfRange instant.date.year)
    else .ok (some instant)
  else .ok none

end ClausePrompt.Identifier
