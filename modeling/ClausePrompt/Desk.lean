import ClausePrompt.Session
import ClausePrompt.Sheet

namespace ClausePrompt

-- An authoring context: a draft that is typed, the prompt it becomes, and an interview that makes
-- a prompt as well. Typing and the interview exclude each other.
structure Desk where
  sheet : Sheet
  session : Session
  draft : String := ""
  typing : Bool := false

namespace Desk

-- The interview has to wait while a draft is typed that is not blank.
def interviewAllowed (draft : String) (typing : Bool) : Bool :=
  !typing || Text.allBlank draft.toList

def interviewEnabled (desk : Desk) : Bool := interviewAllowed desk.draft desk.typing

-- Typing has to wait while the result of the interview is shown.
def directEnabled (desk : Desk) : Bool := !desk.session.completing

def locked : String := "prompt is locked while the wizard result is shown"

def unfinished : String := "finish typing the prompt before using the wizard"

def conflict {α : Type} (desk : Desk) (reason : String) : Step Desk α :=
  { outcome := refuse (.modeConflict reason)
    state := desk
    log := [.modeConflict desk.session.id reason]
    marks := [.count (.failure .modeConflict .composer)] }

-- Replaces the draft, which is typed from then on unless it is blank.
def edit (desk : Desk) (text : String) : Step Desk String :=
  if desk.directEnabled then
    { outcome := .ok text
      state := { desk with draft := text, typing := !Text.allBlank text.toList } }
  else desk.conflict locked

-- Stops typing and makes the draft the prompt.
def finishEditing (desk : Desk) : Step Desk Prompt :=
  if desk.directEnabled then
    (desk.sheet.load desk.draft).within fun sheet => { desk with sheet, typing := false }
  else desk.conflict locked

-- Puts one clause into the prompt, and the prompt into the draft.
def place (desk : Desk) (typed raw : String) : Step Desk Prompt :=
  if desk.directEnabled then
    let step := desk.sheet.place typed raw
    match step.outcome with
    | .ok prompt => step.within fun sheet => { desk with sheet, draft := prompt.text }
    | .error _ => step.within fun sheet => { desk with sheet }
  else desk.conflict locked

-- The draft with the beginning of a clause after what is there.
def extendDraft (draft insertion : String) : String :=
  let stem := Text.trimEnd draft.toList
  if stem.isEmpty then insertion
  else String.ofList stem ++ Prompt.separator ++ insertion

-- Begins a clause of the keyword that the key is bound to.
def insertShortcut (desk : Desk) (key : String) : Step Desk String :=
  if desk.directEnabled then
    match desk.sheet.lexicon.byShortcut? key with
    | none => .refused desk (.unknownKeyword ("Tab + " ++ key))
    | some keyword =>
      let draft := extendDraft desk.draft keyword.insertion
      { outcome := .ok draft
        state := { desk with draft, typing := true }
        log := [.shortcutInserted keyword.id keyword.shortcut.text] }
  else desk.conflict locked

-- The result of a finished interview becomes the prompt and the draft. The session stays finished
-- even if the prompt does not take the result.
def takeResult (desk : Desk) (step : Step Session Interview) (result : String) :
    Step Desk Interview :=
  let loaded := desk.sheet.load result
  let log := step.log ++ loaded.log
  let marks := step.marks ++ loaded.marks
  match loaded.outcome with
  | .ok _ =>
    { outcome := step.outcome
      state :=
        { sheet := loaded.state, session := step.state, draft := result, typing := false }
      log
      marks }
  | .error failure =>
    { outcome := .error failure
      state := { desk with sheet := loaded.state, session := step.state }
      log
      marks }

def withSession (desk : Desk) (session : Session) : Desk := { desk with session }

-- Answers the current question. The prompt that comes out has to fit the sheet.
def advance (desk : Desk) (answer : String) : Step Desk Interview :=
  if desk.interviewEnabled then
    let step := desk.session.advance answer (some desk.sheet.limit)
    match step.outcome with
    | .ok { result := some result, .. } => desk.takeResult step result
    | _ => step.within desk.withSession
  else desk.conflict unfinished

-- Passes on a move of the session that brings out no result.
def guide (desk : Desk) (step : Step Session Interview) : Step Desk Interview :=
  if desk.interviewEnabled then step.within desk.withSession else desk.conflict unfinished

def skip (desk : Desk) : Step Desk Interview := desk.guide desk.session.skip

def back (desk : Desk) : Step Desk Interview := desk.guide desk.session.back

-- The move of the interview that a key stands for.
def moveOfKey? : String → Option Move
  | "-" => some .back
  | "+" => some .skip
  | "=" => some .skip
  | _ => none

def pressKey (desk : Desk) (key : String) : Step Desk Interview :=
  match moveOfKey? key with
  | some .back => desk.back
  | some .skip => desk.skip
  | _ => .refused desk (.invalidTransition ("no wizard action bound to '" ++ key ++ "'"))

-- Clears everything and starts over as a session with a new id.
def reset (desk : Desk) (id : String) : Step Desk Interview :=
  (desk.session.restart id).within fun session =>
    { sheet := desk.sheet.clear, session, draft := "", typing := false }

def close (desk : Desk) : Desk := { desk with session := desk.session.close }

def fire (desk : Desk) (i : Nat) (force : Bool := false) : Step Desk Firing :=
  (desk.session.fire i force).within desk.withSession

end Desk

end ClausePrompt
