import ClausePrompt.Text.CaseTable
import ClausePrompt.Text.CharClass

namespace ClausePrompt.Text

def applyRuns (runs : List CaseRun) (c : Char) : Char :=
  match runs.findSome? (·.shifted? c.toNat) with
  | some n => Char.ofNat n
  | none => c

-- The lower case of one character. The dotted capital I leaves its dot behind as a character of
-- its own; every other letter has one lower-case letter.
def lowerChar (c : Char) : List Char :=
  if c.toNat < 128 then [c.toLower]
  else if c.toNat = 0x130 then ['i', '\u0307']
  else [applyRuns lowerRuns c]

def upperChar (c : Char) : List Char :=
  if c.toNat < 128 then [c.toUpper]
  else match upperExpansions.lookup c.toNat with
    | some codes => codes.map Char.ofNat
    | none => [applyRuns upperRuns c]

def isCased (c : Char) : Bool :=
  if c.toNat < 128 then c.isAlpha else inRanges casedRanges c.toNat

def isIgnorable (c : Char) : Bool := inRanges ignorableRanges c.toNat

-- Whether the first character that counts is a letter with case.
def startsCased : List Char → Bool
  | [] => false
  | c :: cs => if isIgnorable c then startsCased cs else isCased c

-- `after` tells whether the last character that counts was a letter with case. A capital sigma
-- that ends a word becomes the final small sigma.
def lowerFrom (after : Bool) : List Char → List Char
  | [] => []
  | c :: cs =>
    (if c = 'Σ' then [if after && !startsCased cs then 'ς' else 'σ'] else lowerChar c) ++
      lowerFrom (if isIgnorable c then after else isCased c) cs

def lower (cs : List Char) : List Char := lowerFrom false cs

def upper (cs : List Char) : List Char := cs.flatMap upperChar

-- The ASCII letter that a character stands for when case is ignored. Two forms of the letter i,
-- the long s and the Kelvin sign count with their ASCII letters.
def foldLetter (c : Char) : Char :=
  if c = 'İ' || c = 'ı' then 'i'
  else if c = 'ſ' then 's'
  else if c = '\u212a' then 'k'
  else c.toLower

-- What follows a lower-case word at the start of a text, read without regard to case.
def dropWord? : (word text : List Char) → Option (List Char)
  | [], text => some text
  | _ :: _, [] => none
  | letter :: word, c :: cs => if foldLetter c = letter then dropWord? word cs else none

end ClausePrompt.Text
