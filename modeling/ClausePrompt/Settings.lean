import ClausePrompt.Form.Field
import ClausePrompt.Text.Casing

namespace ClausePrompt

structure Settings where
  -- seconds
  resetDelay : Float := 5.0
  lowercaseAnswers : Bool := true
  maxPromptLength : Int := 10000
  logLevel : String := "INFO"
  jsonLogs : Bool := false
  metricsEnabled : Bool := true

namespace Settings

-- Fields that do not exist are passed over.
def ofFields (fields : Fields) : Checked Settings :=
  ((((((Checked.give (.ok Settings.mk)
    (Field.withDefault Field.positiveNumber 5.0 fields "reset_delay_seconds")).give
    (Field.withDefault Field.flag true fields "lowercase_answers")).give
    (Field.withDefault Field.positiveInteger 10000 fields "max_prompt_length")).give
    (Field.withDefault Field.text "INFO" fields "log_level")).give
    (Field.withDefault Field.flag false fields "json_logs")).give
    (Field.withDefault Field.flag true fields "metrics_enabled"))

-- What every variable that holds a setting begins with, in any case.
def variableStem : List Char := "chim_".toList

def fieldOf? (name value : String) : Option (String × Value) :=
  let name := Text.lower name.toList
  if variableStem.isPrefixOf name then
    some (String.ofList (name.drop variableStem.length), .text value)
  else none

-- The settings that the environment makes. Of two variables that differ in case only, the later
-- one counts.
def fieldsOfEnvironment (environment : List (String × String)) : Fields :=
  (environment.filterMap fun (name, value) => fieldOf? name value).reverse

-- A setting that is given directly counts more than one from the environment.
def read (environment : List (String × String)) (given : Fields) : Checked Settings :=
  ofFields (given ++ fieldsOfEnvironment environment)

end Settings

end ClausePrompt
