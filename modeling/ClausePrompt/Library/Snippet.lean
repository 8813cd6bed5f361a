import ClausePrompt.Form.Field
import ClausePrompt.Library.Kind
import ClausePrompt.Lexicon.Standard
import ClausePrompt.Prompt.Written

namespace ClausePrompt

-- A saved prompt.
structure Snippet where
  id : String
  name : String
  content : String
  comment : Option String
  isPublic : Bool
  kind : SnippetKind
  -- milliseconds since the beginning of 1970
  createdAt : Nat
  deriving DecidableEq, Repr

namespace Snippet

-- The trimmed text, which has to be a prompt of the standard keywords with at least one clause.
def checkContent (text : String) : Except Problem String :=
  let content := Text.trimmed text
  if content = "" then .error (.invalid "Prompt content is required")
  else match Prompt.parse .standard content with
    | .ok _ => .ok content
    | .error (.refused refusal) => .error (.invalid ("Invalid ChimPrompt: " ++ refusal.message))
    | .error (.broken fault) => .error (.invalid fault.message)

def firstContent : Field.Reader String := fun value => do
  let text ← Field.text value
  if text = "" then throw (.tooShort 1) else checkContent text

def newContent : Field.Reader (Option String) := fun value => do
  match ← Field.optionalText value with
  | none => return none
  | some text => return some (← checkContent text)

-- A name is not needed, but a name that is given is not blank.
def givenName : Field.Reader (Option String) := fun value => do
  match ← Field.optionalText value with
  | none => return none
  | some text =>
    let name := Text.trimmed text
    if name = "" then throw (.invalid "Name is required") else return some name

-- What a snippet is made from. Without a name the library gives it one.
structure Draft where
  content : String
  name : Option String := none
  comment : Option String := none
  isPublic : Bool := false
  kind : SnippetKind := .prompt
  deriving DecidableEq, Repr

def Draft.names : List String := ["content", "name", "comment", "is_public", "kind"]

def Draft.ofFields (fields : Fields) : Checked Draft :=
  let draft := (((((Checked.give (.ok Draft.mk)
    (Field.required firstContent fields "content")).give
    (Field.withDefault givenName none fields "name")).give
    (Field.withDefault Field.optionalText none fields "comment")).give
    (Field.withDefault Field.flag false fields "is_public")).give
    (Field.withDefault (Field.choice SnippetKind.name SnippetKind.all) .prompt fields "kind"))
  (Checked.give (.ok fun draft _ => draft) draft).give (Field.unexpected Draft.names fields)

-- A change of a snippet. What is not given stays as it is.
structure Changes where
  content : Option String := none
  comment : Option String := none
  deriving DecidableEq, Repr

def Changes.names : List String := ["content", "comment"]

def Changes.ofFields (fields : Fields) : Checked Changes :=
  let changes := (Checked.give (.ok Changes.mk)
    (Field.withDefault newContent none fields "content")).give
    (Field.withDefault Field.optionalText none fields "comment")
  (Checked.give (.ok fun changes _ => changes) changes).give
    (Field.unexpected Changes.names fields)

def change (snippet : Snippet) (changes : Changes) : Snippet :=
  { snippet with
    content := changes.content.getD snippet.content
    comment := changes.comment.or snippet.comment }

end Snippet

end ClausePrompt
