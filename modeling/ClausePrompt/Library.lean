import ClausePrompt.Journal.Step
import ClausePrompt.Library.Snippet

namespace ClausePrompt

-- The saved snippets by their ids, oldest first.
structure Library where
  snippets : OrderedMap String Snippet := .empty

namespace Library

def size (library : Library) : Nat := library.snippets.size

def countOf (library : Library) (kind : SnippetKind) : Nat :=
  library.snippets.values.countP (·.kind = kind)

-- The name of a snippet that was given none counts the snippets of its kind.
def defaultName (library : Library) (kind : SnippetKind) : String :=
  kind.title ++ " " ++ toString (library.countOf kind + 1)

def stored (library : Library) (kind : SnippetKind) : Mark := .stored kind (library.countOf kind)

-- Saves a new snippet under an id that was not used before.
def create (library : Library) (draft : Snippet.Draft) (id : String) (createdAt : Nat) :
    Step Library Snippet :=
  let snippet : Snippet :=
    { id
      name := draft.name.getD (library.defaultName draft.kind)
      content := draft.content
      comment := draft.comment
      isPublic := draft.isPublic
      kind := draft.kind
      createdAt }
  let grown : Library := ⟨library.snippets.insert id snippet⟩
  { outcome := .ok snippet
    state := grown
    log := [.snippetCreated id snippet.kind]
    marks := [grown.stored snippet.kind] }

def get? (library : Library) (id : String) : Option Snippet := library.snippets.get? id

def update (library : Library) (id : String) (changes : Snippet.Changes) :
    Step Library (Option Snippet) :=
  match library.get? id with
  | none => { outcome := .ok none, state := library, log := [.snippetNotFound id] }
  | some snippet =>
    let changed := snippet.change changes
    { outcome := .ok (some changed)
      state := ⟨library.snippets.insert id changed⟩
      log := [.snippetUpdated id] }

-- Tells whether there was such a snippet.
def delete (library : Library) (id : String) : Step Library Bool :=
  match library.get? id with
  | none => { outcome := .ok false, state := library }
  | some snippet =>
    let shrunk : Library := ⟨library.snippets.erase id⟩
    { outcome := .ok true
      state := shrunk
      log := [.snippetDeleted id]
      marks := [shrunk.stored snippet.kind] }

-- The public or the private snippets, of one kind or of all kinds.
def list (library : Library) (isPublic : Bool) (kind : Option SnippetKind := none) :
    List Snippet :=
  library.snippets.values.filter fun snippet =>
    snippet.isPublic == isPublic && kind.all (snippet.kind == ·)

end Library

end ClausePrompt
