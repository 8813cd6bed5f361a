import ClausePrompt.Text.Quoted

namespace ClausePrompt

inductive ErrorKind where
  | unknownKeyword
  | malformedArgument
  | duplicateKey
  | requiredAnswerMissing
  | invalidTransition
  | modeConflict
  deriving DecidableEq, Repr

namespace ErrorKind

def name : ErrorKind → String
  | unknownKeyword => "unknown_keyword"
  | malformedArgument => "malformed_argument"
  | duplicateKey => "duplicate_key"
  | requiredAnswerMissing => "required_answer_missing"
  | invalidTransition => "invalid_wizard_transition"
  | modeConflict => "mode_conflict"

def all : List ErrorKind :=
  [unknownKeyword, malformedArgument, duplicateKey, requiredAnswerMissing, invalidTransition,
    modeConflict]

def ofName? (text : String) : Option ErrorKind := all.find? (·.name == text)

def unknown (text : String) : String := Text.quoted text ++ " is not a valid ErrorKind"

end ErrorKind

-- What the author is told when an operation is refused. The keyword is the one at fault, if one
-- is, and the position counts the clauses of a text from zero.
structure Refusal where
  kind : ErrorKind
  reason : String
  keyword : Option String := none
  position : Option Int := none
  deriving DecidableEq, Repr

namespace Refusal

def atClause (position : Int) (refusal : Refusal) : Refusal :=
  { refusal with position := some position }

-- The whole message: the keyword first unless it is empty, and the clause counted from one.
def message (refusal : Refusal) : String :=
  let head := match refusal.keyword with
    | some keyword => if keyword.isEmpty then "" else "*" ++ keyword ++ "*: "
    | none => ""
  let tail := match refusal.position with
    | some position => " (clause " ++ toString (position + 1) ++ ")"
    | none => ""
  head ++ refusal.reason ++ tail

def unknownKeyword (typed : String) : Refusal :=
  ⟨.unknownKeyword, "unknown keyword '" ++ typed ++ "'", some typed, none⟩

def malformed (keyword : Option String) (reason : String) : Refusal :=
  ⟨.malformedArgument, reason, keyword, none⟩

def duplicateKey (keyword key : String) : Refusal :=
  ⟨.duplicateKey, "key '" ++ key ++ "' appears more than once", some keyword, none⟩

def answerRequired (question : String) : Refusal :=
  ⟨.requiredAnswerMissing,
    "an answer to '" ++ question ++ "' is required, please enter a value", none, none⟩

def invalidTransition (reason : String) : Refusal := ⟨.invalidTransition, reason, none, none⟩

def modeConflict (reason : String) : Refusal := ⟨.modeConflict, reason, none, none⟩

end Refusal

-- What breaks an operation off instead of refusing it. The caller gets no answer then.
inductive Fault where
  -- a number is written with more digits than `Numeral.digitLimit`
  | tooManyDigits (digits : Nat)
  -- a message of the transcript would have no text
  | blankMessage
  -- an interview has no question to start with
  | noQuestions
  -- a session would start over without a delay
  | delayNotPositive
  -- the name of a format is given as the level of the journal
  | unknownLevel (format : String)
  -- the name of the table of formats is given there
  | notLevel (table : String)
  -- an alarm is set on an event loop, and none is running
  | noEventLoop
  -- a time lies beyond the last year of the calendar
  | yearOutOfRange (year : Nat)
  deriving DecidableEq, Repr

def Fault.message : Fault → String
  | tooManyDigits digits =>
    "Exceeds the limit (4300 digits) for integer string conversion: value has " ++
      toString digits ++ " digits; use sys.set_int_max_str_digits() to increase the limit"
  | blankMessage => "String should have at least 1 character"
  | noQuestions => "wizard needs at least one question"
  | delayNotPositive => "reset_delay must be positive"
  | unknownLevel format => "Unknown level: " ++ Text.quoted format
  | notLevel table => "Level not an integer or a valid string: " ++ table
  | noEventLoop => "no running event loop"
  | yearOutOfRange year => "year " ++ toString year ++ " is out of range"

inductive Failure where
  | refused (refusal : Refusal)
  | broken (fault : Fault)
  deriving DecidableEq, Repr

abbrev Outcome (α : Type) := Except Failure α

def refuse {α : Type} (refusal : Refusal) : Outcome α := .error (.refused refusal)

def breakOff {α : Type} (fault : Fault) : Outcome α := .error (.broken fault)

-- A refusal is pinned to a clause; a fault has no place in the text.
def Failure.atClause (position : Int) : Failure → Failure
  | refused refusal => refused (refusal.atClause position)
  | broken fault => broken fault

end ClausePrompt
