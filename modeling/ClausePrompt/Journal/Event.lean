import ClausePrompt.Form.Checked
import ClausePrompt.Library.Kind
import ClausePrompt.Refusal

namespace ClausePrompt

inductive Level where
  | debug
  | info
  | warning
  | error
  | critical
  deriving DecidableEq, Repr

namespace Level

def name : Level → String
  | debug => "debug"
  | info => "info"
  | warning => "warning"
  | error => "error"
  | critical => "critical"

def number : Level → Nat
  | debug => 10
  | info => 20
  | warning => 30
  | error => 40
  | critical => 50

def all : List Level := [debug, info, warning, error, critical]

def ofName? (text : String) : Option Level := all.find? (·.name == text)

end Level

-- The three moves of an interview.
inductive Move where
  | advance
  | skip
  | back
  deriving DecidableEq, Repr

def Move.name : Move → String
  | advance => "advance"
  | skip => "skip"
  | back => "back"

-- What is written to the journal.
inductive Event where
  | clauseRejected (keyword : String) (kind : ErrorKind) (reason : String)
  | clauseAppended (keyword : String)
  | clauseReplaced (keyword : String)
  | promptOversized (length : Nat) (limit : Int)
  | promptRejected (kind : ErrorKind) (reason : String)
  | promptLoaded (clauses : Nat)
  | moved (session : String) (move : Move) (index : Nat)
  | moveRejected (session : String) (move : Move) (kind : ErrorKind) (reason : String)
  | completed (session : String) (prompt : String)
  | restarted (session : String)
  | reset (session : String)
  | staleResetIgnored (session : String)
  | modeConflict (session : String) (reason : String)
  | shortcutInserted (keyword : String) (shortcut : String)
  | snippetCreated (id : String) (kind : SnippetKind)
  | snippetNotFound (id : String)
  | snippetUpdated (id : String)
  | snippetDeleted (id : String)
  deriving DecidableEq, Repr

namespace Event

def name : Event → String
  | clauseRejected .. => "clause_rejected"
  | clauseAppended .. => "clause_appended"
  | clauseReplaced .. => "clause_replaced"
  | promptOversized .. => "prompt_rejected"
  | promptRejected .. => "prompt_rejected"
  | promptLoaded .. => "prompt_loaded"
  | moved .. => "wizard_transition"
  | moveRejected .. => "wizard_rejected"
  | completed .. => "wizard_completed"
  | restarted .. => "wizard_restarted"
  | reset .. => "wizard_reset"
  | staleResetIgnored .. => "stale_reset_ignored"
  | modeConflict .. => "mode_conflict"
  | shortcutInserted .. => "shortcut_inserted"
  | snippetCreated .. => "snippet_created"
  | snippetNotFound .. => "snippet_not_found"
  | snippetUpdated .. => "snippet_updated"
  | snippetDeleted .. => "snippet_deleted"

def level : Event → Level
  | clauseRejected .. | promptOversized .. | promptRejected .. | moveRejected .. | modeConflict ..
  | snippetNotFound .. => .warning
  | completed .. | restarted .. | reset .. | snippetCreated .. | snippetUpdated ..
  | snippetDeleted .. => .info
  | clauseAppended .. | clauseReplaced .. | promptLoaded .. | moved .. | staleResetIgnored ..
  | shortcutInserted .. => .debug

def fields : Event → Fields
  | clauseRejected keyword kind reason =>
    [("keyword", .text keyword), ("kind", .text kind.name), ("reason", .text reason)]
  | clauseAppended keyword | clauseReplaced keyword => [("keyword", .text keyword)]
  | promptOversized length limit =>
    [("length", .integer length), ("max_length", .integer limit)]
  | promptRejected kind reason => [("kind", .text kind.name), ("reason", .text reason)]
  | promptLoaded clauses => [("clauses", .integer clauses)]
  | moved session move index =>
    [("session_id", .text session), ("action", .text move.name), ("index", .integer index)]
  | moveRejected session move kind reason =>
    [("session_id", .text session), ("action", .text move.name), ("kind", .text kind.name),
      ("reason", .text reason)]
  | completed session prompt => [("session_id", .text session), ("prompt", .text prompt)]
  | restarted session | reset session | staleResetIgnored session =>
    [("session_id", .text session)]
  | modeConflict session reason => [("session_id", .text session), ("reason", .text reason)]
  | shortcutInserted keyword shortcut =>
    [("keyword", .text keyword), ("shortcut", .text shortcut)]
  | snippetCreated id kind => [("snippet_id", .text id), ("kind", .text kind.name)]
  | snippetNotFound id | snippetUpdated id | snippetDeleted id => [("snippet_id", .text id)]

end Event

end ClausePrompt
