namespace ClausePrompt

-- A raw field value, as it is handed in before any type has been asked of it.
inductive Value where
  | null
  | flag (value : Bool)
  | integer (value : Int)
  | number (value : Float)
  | text (value : String)
  | list (items : List Value)
  | fields (items : List (String × Value))

-- Named values in the order they were given.
abbrev Fields := List (String × Value)

-- What is wrong with a field.
inductive Problem where
  | missing
  | unexpected
  | notText
  | tooShort (least : Nat)
  | tooLong (most : Nat)
  | patternMismatch (pattern : String)
  | notFlag
  | unreadableFlag
  | notInteger
  | unreadableInteger
  | oversizedInteger
  | fractionalInteger
  | notNumber
  | unreadableNumber
  | notFinite
  | notPositive
  | notAmong (choices : List String)
  | notList
  | invalid (reason : String)
  deriving DecidableEq, Repr

namespace Problem

def code : Problem → String
  | missing => "missing"
  | unexpected => "extra_forbidden"
  | notText => "string_type"
  | tooShort _ => "string_too_short"
  | tooLong _ => "string_too_long"
  | patternMismatch _ => "string_pattern_mismatch"
  | notFlag => "bool_type"
  | unreadableFlag => "bool_parsing"
  | notInteger => "int_type"
  | unreadableInteger => "int_parsing"
  | oversizedInteger => "int_parsing_size"
  | fractionalInteger => "int_from_float"
  | notNumber => "float_type"
  | unreadableNumber => "float_parsing"
  | notFinite => "finite_number"
  | notPositive => "greater_than"
  | notAmong _ => "enum"
  | notList => "tuple_type"
  | invalid _ => "value_error"

def characters (n : Nat) : String := toString n ++ if n = 1 then " character" else " characters"

def quoted (text : String) : String := "'" ++ text ++ "'"

-- The choices with commas between them and "or" before the last.
def choiceText : List String → String
  | [] => ""
  | [a] => quoted a
  | [a, b] => quoted a ++ " or " ++ quoted b
  | a :: rest => quoted a ++ ", " ++ choiceText rest

def message : Problem → String
  | missing => "Field required"
  | unexpected => "Extra inputs are not permitted"
  | notText => "Input should be a valid string"
  | tooShort least => "String should have at least " ++ characters least
  | tooLong most => "String should have at most " ++ characters most
  | patternMismatch pattern => "String should match pattern '" ++ pattern ++ "'"
  | notFlag => "Input should be a valid boolean"
  | unreadableFlag => "Input should be a valid boolean, unable to interpret input"
  | notInteger => "Input should be a valid integer"
  | unreadableInteger =>
    "Input should be a valid integer, unable to parse string as an integer"
  | oversizedInteger => "Unable to parse input string as an integer, exceeded maximum size"
  | fractionalInteger => "Input should be a valid integer, got a number with a fractional part"
  | notNumber => "Input should be a valid number"
  | unreadableNumber => "Input should be a valid number, unable to parse string as a number"
  | notFinite => "Input should be a finite number"
  | notPositive => "Input should be greater than 0"
  | notAmong choices => "Input should be " ++ choiceText choices
  | notList => "Input should be a valid tuple"
  | invalid reason => "Value error, " ++ reason

end Problem

-- A problem and the path of names to the field that has it.
structure Issue where
  path : List String
  problem : Problem
  deriving DecidableEq, Repr

-- The result of reading a record. All of its issues are reported, in the order of its fields.
abbrev Checked (α : Type) := Except (List Issue) α

namespace Checked

-- Gives one more field to a record under construction and keeps the issues of both.
def give {α β : Type} (build : Checked (α → β)) (field : Checked α) : Checked β :=
  match build, field with
  | .ok f, .ok a => .ok (f a)
  | .error issues, .ok _ => .error issues
  | .ok _, .error issues => .error issues
  | .error issues, .error more => .error (issues ++ more)

end Checked

end ClausePrompt
