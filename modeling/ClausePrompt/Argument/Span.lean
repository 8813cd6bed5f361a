import ClausePrompt.Text.Pieces

namespace ClausePrompt.Span

-- What follows the separator, if the text starts with one: the word `to` with at least one blank
-- on each side.
def afterTo? : List Char → Option (List Char)
  | [] => none
  | c :: cs =>
    if Text.isBlank c then
      match cs.dropWhile Text.isBlank with
      | 't' :: 'o' :: d :: rest =>
        if Text.isBlank d then some (rest.dropWhile Text.isBlank) else none
      | _ => none
    else none

-- The pieces between the separators, once the first `skip` characters have been passed over. They
-- are what is left of the separator that was met last.
def piecesFrom : (skip : Nat) → List Char → List (List Char)
  | _, [] => [[]]
  | skip + 1, _ :: cs => piecesFrom skip cs
  | 0, c :: cs =>
    match afterTo? (c :: cs) with
    | some rest => [] :: piecesFrom (cs.length - rest.length) cs
    | none => Text.extendFirst c (piecesFrom 0 cs)

theorem piecesFrom_skip (skip : Nat) (text : List Char) :
    piecesFrom skip text = piecesFrom 0 (text.drop skip) := by
  induction text generalizing skip with
  | nil => cases skip <;> rfl
  | cons c cs ih =>
    cases skip with
    | zero => rfl
    | succ skip => simpa [piecesFrom] using ih skip

def split (text : List Char) : List (List Char) := (piecesFrom 0 text).map Text.trim

end ClausePrompt.Span
