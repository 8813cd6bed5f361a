import ClausePrompt.Text.Pieces

namespace ClausePrompt.Decimal

-- Beyond these powers of ten every double is zero or infinite.
def clampExponent (digits : Nat) (exponent : Int) : Int :=
  let length : Int := (Nat.repr digits).length
  if exponent + length < -400 then -400 - length
  else if 400 < exponent + length then 400 - length
  else exponent

-- The nearest double to `digits * 10 ^ exponent`.
def nearest (digits : Nat) (exponent : Int) : Float :=
  let e := clampExponent digits exponent
  if digits = 0 then 0.0 else Float.ofScientific digits (e < 0) e.natAbs

def natOfDigits (ds : List Char) : Nat := ds.foldl (fun n c => 10 * n + (c.toNat - '0'.toNat)) 0

-- The exponent after the mark, or zero when nothing is left of the text.
def exponent? : List Char → Option Int
  | [] => some 0
  | mark :: rest =>
    if mark = 'e' ∨ mark = 'E' then
      let (negative, digits) := match rest with
        | '-' :: ds => (true, ds)
        | '+' :: ds => (false, ds)
        | ds => (false, ds)
      if digits.isEmpty || !digits.all Char.isDigit then none
      else some (if negative then -(natOfDigits digits : Int) else natOfDigits digits)
    else none

-- An unsigned decimal: digits with a point before, inside or after them, and an exponent.
def unsigned? (text : List Char) : Option Float :=
  let whole := text.takeWhile Char.isDigit
  let (places, rest) := match text.dropWhile Char.isDigit with
    | '.' :: tail => (tail.takeWhile Char.isDigit, tail.dropWhile Char.isDigit)
    | tail => ([], tail)
  if whole.isEmpty && places.isEmpty then none
  else (exponent? rest).map fun e => nearest (natOfDigits (whole ++ places)) (e - places.length)

-- The names of the values that no digits write, in any case.
def named? (text : List Char) : Option Float :=
  let name := text.map Char.toLower
  if name = "inf".toList ∨ name = "infinity".toList then some (1.0 / 0.0)
  else if name = "nan".toList then some (0.0 / 0.0)
  else none

def signed? (text : List Char) : Option Float :=
  let (negative, rest) := match text with
    | '-' :: tail => (true, tail)
    | '+' :: tail => (false, tail)
    | tail => (false, tail)
  ((unsigned? rest).or (named? rest)).map fun x => if negative then -x else x

end ClausePrompt.Decimal
