import ClausePrompt.Journal.Event
import ClausePrompt.Text.Casing

namespace ClausePrompt

-- Where the journal is shown: which events, and whether each of them is a JSON object or a line
-- for the eye.
structure Console where
  threshold : Nat := 20
  json : Bool := false
  deriving DecidableEq, Repr

namespace Console

def thresholds : List (String × Nat) := [
  ("NOTSET", 0), ("DEBUG", 10), ("INFO", 20), ("WARN", 30), ("WARNING", 30), ("ERROR", 40),
  ("CRITICAL", 50), ("FATAL", 50)]

-- The plain format of a line, once for each way to mark its places.
def percentFormat : String := "%(levelname)s:%(name)s:%(message)s"

def braceFormat : String := "\x7blevelname\x7d:\x7bname\x7d:\x7bmessage\x7d"

def dollarFormat : String := "$\x7blevelname\x7d:$\x7bname\x7d:$\x7bmessage\x7d"

def styleText (mark style format : String) : String :=
  Text.quoted mark ++ ": (<class 'logging." ++ style ++ "'>, " ++ Text.quoted format ++ ")"

-- The table of the formats as it is shown.
def styles : String :=
  "\x7b" ++ styleText "%" "PercentStyle" percentFormat ++
    ", " ++ styleText "\x7b" "StrFormatStyle" braceFormat ++
    ", " ++ styleText "$" "StringTemplateStyle" dollarFormat ++ "\x7d"

-- The names of the formats may be given by mistake, as they are looked up like a level.
def mistakes : List (String × Fault) := [
  ("BASIC_FORMAT", .unknownLevel percentFormat), ("_STYLES", .notLevel styles)]

-- The level is looked up in upper case. A name that is no level stands for the usual level.
def ofLevel (level : String := "INFO") (json : Bool := false) : Outcome Console :=
  let name := String.ofList (Text.upper level.toList)
  match mistakes.lookup name with
  | some fault => breakOff fault
  | none => .ok { threshold := (thresholds.lookup name).getD 20, json }

def accepts (console : Console) (level : Level) : Bool := console.threshold ≤ level.number

end Console

-- One entry of a journal that is not made by the engine itself.
structure Entry where
  level : Level
  event : String
  fields : Fields
  -- the fields that are bound around the entry
  context : Fields := []

namespace Entry

-- The words that ask for an entry besides the names of the levels.
def words : List (String × Level) := [
  ("msg", .info), ("warn", .warning), ("exception", .error), ("fatal", .critical)]

-- An exception asks for its trace to be shown, unless the fields say otherwise.
def ofWord? (word event : String) (fields context : Fields) : Option Entry :=
  let fields := if word = "exception" ∧ (fields.lookup "exc_info").isNone then
      fields ++ [("exc_info", .flag true)]
    else fields
  ((Level.ofName? word).or (words.lookup word)).map fun level => { level, event, fields, context }

def reserved : List String := ["event", "level", "logger", "timestamp"]

-- A field of the entry hides one of its context, and neither can replace what every entry says.
def named (entry : Entry) : Fields :=
  let bound := entry.context.filter fun (name, _) => (entry.fields.lookup name).isNone
  (entry.fields ++ bound).filter fun (name, _) => !reserved.contains name

def written (entry : Entry) (logger : String) : Fields :=
  entry.named ++
    [("event", .text entry.event), ("level", .text entry.level.name), ("logger", .text logger)]

def breaks (text : String) : Nat := text.toList.count '\n'

-- In a line for the eye the event and the names of the fields are shown as they are, so that they
-- may break it.
def lineCount (entry : Entry) : Nat :=
  entry.named.foldl (fun count (name, _) => count + breaks name) (1 + breaks entry.event)

end Entry

end ClausePrompt
