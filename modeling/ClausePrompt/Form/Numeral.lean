import ClausePrompt.Decimal.Reading
import ClausePrompt.Form.Checked

namespace ClausePrompt.Field

-- A text may spell a number with padding around it, a sign, underscores between its digits and,
-- for an integer, zeros that say nothing.

-- The blanks that may pad a number in a text. The control characters among the blanks may not.
def isPadding (c : Char) : Bool := Text.isBlank c && !(0x1C ≤ c.toNat && c.toNat ≤ 0x1F)

def unpad (cs : List Char) : List Char :=
  ((cs.dropWhile isPadding).reverse.dropWhile isPadding).reverse

-- Takes out underscores, which may stand alone between other characters.
def dropUnderscores? (cs : List Char) : Option (List Char) :=
  if cs.head? = some '_' ∨ cs.getLast? = some '_' then none
  else if (cs.zip cs.tail).any fun (a, b) => a == '_' && b == '_' then none
  else some (cs.filter (· != '_'))

-- A point and zeros after it say nothing.
def dropZeroPlaces (cs : List Char) : List Char :=
  match cs.dropWhile (· != '.') with
  | '.' :: places@(_ :: _) => if places.all (· == '0') then cs.takeWhile (· != '.') else cs
  | _ => cs

-- What is left after a zero once the zeros and underscores that follow it are passed over. The
-- last of them stays in front of a point, and where nothing else is left. A minus may begin the
-- rest as well as a digit.
def afterZero? (last : Char) : List Char → Option (List Char)
  | [] => some [last]
  | c :: cs =>
    if c = '0' ∨ c = '_' then afterZero? c cs
    else if c = '.' then some (last :: c :: cs)
    else if c.isDigit ∨ c = '-' then some (c :: cs)
    else none

-- Leading zeros say nothing, but a digit has to come first.
def dropLeadingZeros? : List Char → Option (List Char)
  | [] => none
  | c :: cs =>
    if c = '0' then afterZero? c cs else if c.isDigit then some (c :: cs) else none

-- A natural number in its only plain spelling: zero, or digits that do not begin with zero.
def plainNatural? (cs : List Char) : Option Nat :=
  if cs = ['0'] then some 0
  else if cs.isEmpty || cs.head? == some '0' || !cs.all Char.isDigit then none
  else some (Decimal.natOfDigits cs)

-- An integer in plain spelling has at most a minus in front.
def plainInteger? : List Char → Option Int
  | '-' :: cs => (plainNatural? cs).map fun n => -(n : Int)
  | cs => (plainNatural? cs).map fun n => (n : Int)

-- The most characters of an integer that are converted, a minus included.
def longestInteger : Nat := 4300

-- Whether a text begins with more of an integer than is converted. What follows does not matter.
def isOversized (cs : List Char) : Bool :=
  let (sign, digits) := if cs.head? = some '-' then (1, cs.tail) else (0, cs)
  digits.head? != some '0' && longestInteger < sign + (digits.takeWhile Char.isDigit).length

-- The plain spelling that an integer comes down to.
def simplified? (cs : List Char) : Option (List Char) :=
  let (sign, rest) := match unpad cs with
    | '-' :: tail => (['-'], tail)
    | '+' :: tail => ([], tail)
    | tail => ([], tail)
  (dropLeadingZeros? rest).bind fun digits =>
    (dropUnderscores? (dropZeroPlaces digits)).map (sign ++ ·)

def simplifiedInteger? (cs : List Char) : Option Int :=
  (simplified? cs).bind fun plain =>
    if longestInteger < plain.length then none else plainInteger? plain

-- A plain spelling is taken as it stands, so that only such a text is told to be too long.
def integerOfText (s : String) : Except Problem Int :=
  let cs := s.toList
  if isOversized cs then .error .oversizedInteger
  else match (plainInteger? cs).or (simplifiedInteger? cs) with
    | some n => .ok n
    | none => .error .unreadableInteger

-- A text with underscores is read only where nothing pads it.
def numberOfText (s : String) : Except Problem Float :=
  let cs := s.toList
  match (Decimal.signed? (unpad cs)).or ((dropUnderscores? cs).bind Decimal.signed?) with
  | some x => .ok x
  | none => .error .unreadableNumber

end ClausePrompt.Field
