import ClausePrompt.Text.Quoted

namespace ClausePrompt

-- What a saved snippet stands for.
inductive SnippetKind where
  | prompt
  | forge
  | mold
  deriving DecidableEq, Repr

namespace SnippetKind

def name : SnippetKind → String
  | prompt => "prompt"
  | forge => "forge"
  | mold => "mold"

def title : SnippetKind → String
  | prompt => "Prompt"
  | forge => "Forge"
  | mold => "Mold"

def all : List SnippetKind := [prompt, forge, mold]

def ofName? (text : String) : Option SnippetKind := all.find? (·.name == text)

def unknown (text : String) : String := Text.quoted text ++ " is not a valid SnippetKind"

end SnippetKind

end ClausePrompt
