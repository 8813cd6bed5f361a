import ClausePrompt.Text.Pieces
import ClausePrompt.Text.WordChar

namespace ClausePrompt.Call

def isNameChar (c : Char) : Bool := Text.isWord c || c == '-'

-- What stands before the parenthesis that closes a call, provided that it is the last character.
-- `depth` counts the parentheses opened inside the value.
def value? : (depth : Nat) → List Char → Option (List Char)
  | _, [] => none
  | depth, c :: cs =>
    if c = '(' then (value? (depth + 1) cs).map (c :: ·)
    else if c = ')' then
      match depth with
      | 0 => if cs = [] then some [] else none
      | inner + 1 => (value? inner cs).map (c :: ·)
    else (value? depth cs).map (c :: ·)

-- A segment `name(value)` as its name and value. The name starts with an ASCII letter and goes on
-- with word characters and hyphens, and blanks may stand before the parenthesis.
def split? : List Char → Option (List Char × List Char)
  | [] => none
  | c :: cs =>
    if c.isAlpha then
      match (cs.dropWhile isNameChar).dropWhile Text.isBlank with
      | '(' :: body => (value? 0 body).map fun value => (c :: cs.takeWhile isNameChar, value)
      | _ => none
    else none

end ClausePrompt.Call
