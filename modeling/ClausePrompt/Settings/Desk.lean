import ClausePrompt.Desk
import ClausePrompt.Journal.Console
import ClausePrompt.Lexicon.Standard
import ClausePrompt.Settings

namespace ClausePrompt.Settings

def terms (settings : Settings) : Interview.Terms :=
  { lexicon := .standard
    lowercase := settings.lowercaseAnswers
    limit := settings.maxPromptLength }

def sheet (settings : Settings) : Sheet :=
  { lexicon := .standard, limit := settings.maxPromptLength }

def session (settings : Settings) (id : String) : Outcome Session :=
  Session.start settings.terms Question.standard settings.resetDelay id

-- A fresh authoring context. Contexts of the same settings share nothing that changes.
def desk (settings : Settings) (id : String) : Outcome Desk :=
  (settings.session id).map fun session => { sheet := settings.sheet, session }

def console (settings : Settings) : Outcome Console :=
  Console.ofLevel settings.logLevel settings.jsonLogs

def metrics (settings : Settings) : Metrics := { enabled := settings.metricsEnabled }

end ClausePrompt.Settings
