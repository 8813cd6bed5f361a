import ClausePrompt.Form.Checked
import ClausePrompt.Form.Numeral

namespace ClausePrompt.Field

-- Field readers are lenient: a text may stand for a number or a flag, and a number for a flag.

abbrev Reader (α : Type) := Value → Except Problem α

def text : Reader String
  | .text s => .ok s
  | _ => .error .notText

-- Null stands for no text.
def optionalText : Reader (Option String)
  | .null => .ok none
  | value => (text value).map some

def trueWords : List String := ["1", "on", "t", "true", "y", "yes"]

def falseWords : List String := ["0", "off", "f", "false", "n", "no"]

def flagOfText (s : String) : Except Problem Bool :=
  let word := s.map Char.toLower
  if trueWords.contains word then .ok true
  else if falseWords.contains word then .ok false
  else .error .unreadableFlag

def flagOfInteger (n : Int) : Except Problem Bool :=
  if n = 0 then .ok false else if n = 1 then .ok true else .error .unreadableFlag

-- The integer a number stands for, if it has no fractional part.
def whole? (x : Float) : Option Int :=
  if x.isNaN || x.isInf || x.floor != x then none
  else
    let magnitude : Int := x.abs.toUInt64.toNat
    some (if x < 0 then -magnitude else magnitude)

-- Larger numbers are not converted to integers.
def isModerate (x : Float) : Bool := x.abs < 9223372036854775808.0

def flag : Reader Bool
  | .flag b => .ok b
  | .text s => flagOfText s
  | .integer n =>
    if -9223372036854775808 ≤ n ∧ n < 9223372036854775808 then flagOfInteger n else .error .notFlag
  | .number x =>
    match whole? x with
    | some n => if isModerate x then flagOfInteger n else .error .notFlag
    | none => .error .notFlag
  | _ => .error .notFlag

def integer : Reader Int
  | .integer n => .ok n
  | .flag b => .ok (if b then 1 else 0)
  | .text s => integerOfText s
  | .number x =>
    if x.isNaN || x.isInf then .error .notFinite
    else match whole? x with
      | none => .error .fractionalInteger
      | some n => if isModerate x then .ok n else .error .oversizedInteger
  | _ => .error .notInteger

def numberOfInteger (n : Int) : Except Problem Float :=
  let x := Decimal.nearest n.natAbs 0
  if x.isInf then .error .notNumber else .ok (if n < 0 then -x else x)

def number : Reader Float
  | .number x => .ok x
  | .integer n => numberOfInteger n
  | .flag b => .ok (if b then 1.0 else 0.0)
  | .text s => numberOfText s
  | _ => .error .notNumber

-- One of a list of choices by its name, spelled exactly.
def choice {α : Type} (name : α → String) (choices : List α) : Reader α
  | .text s =>
    match choices.find? (name · == s) with
    | some a => .ok a
    | none => .error (.notAmong (choices.map name))
  | _ => .error (.notAmong (choices.map name))

def positiveInteger (value : Value) : Except Problem Int := do
  let n ← integer value
  if 0 < n then return n else throw .notPositive

-- What is not a number is not positive either.
def positiveNumber (value : Value) : Except Problem Float := do
  let x ← number value
  if 0.0 < x then return x else throw .notPositive

def run {α : Type} (read : Reader α) (name : String) (value : Value) : Checked α :=
  match read value with
  | .ok a => .ok a
  | .error problem => .error [⟨[name], problem⟩]

def required {α : Type} (read : Reader α) (fields : Fields) (name : String) : Checked α :=
  match fields.lookup name with
  | some value => run read name value
  | none => .error [⟨[name], .missing⟩]

def withDefault {α : Type} (read : Reader α) (default : α) (fields : Fields) (name : String) :
    Checked α :=
  match fields.lookup name with
  | some value => run read name value
  | none => .ok default

-- Every field that a record does not have is an issue, in the order the fields were given.
def unexpected (known : List String) (fields : Fields) : Checked Unit :=
  match (fields.map (·.1)).filter (!known.contains ·) with
  | [] => .ok ()
  | names => .error (names.map fun name => ⟨[name], .unexpected⟩)

end ClausePrompt.Field
