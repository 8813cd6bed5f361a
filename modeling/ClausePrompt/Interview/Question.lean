import ClausePrompt.Form.Field

namespace ClausePrompt

-- A question of an interview. Its answer becomes the argument of a clause of the keyword.
structure Question where
  id : String
  text : String
  keyword : String
  required : Bool := true
  lowercase : Bool := true
  deriving DecidableEq, Repr

namespace Question

-- The interview that an authoring context starts with.
def standard : List Question := [
  { id := "platform", keyword := "in"
    text := "What programming language or framework are you using? " ++
      "(e.g., JavaScript, Swift, React)" },
  { id := "device", keyword := "for"
    text := "What device or platform are you targeting? (e.g., web, iPhone, Android)" },
  { id := "element", keyword := "create"
    text := "What UI element do you want to create? (e.g., search bar, button, card)" },
  { id := "reference", keyword := "from"
    text := "Which app would you like to reference for styling? (e.g., Instagram, WhatsApp)" },
  { id := "background", keyword := "background", required := false, lowercase := false
    text := "Would you like a specific background color? (optional, in hex)" }]

def ofFields (fields : Fields) : Checked Question :=
  ((((Checked.give (.ok Question.mk) (Field.required Field.text fields "id")).give
    (Field.required Field.text fields "text")).give
    (Field.required Field.text fields "keyword")).give
    (Field.withDefault Field.flag true fields "required")).give
    (Field.withDefault Field.flag true fields "lowercase")

end Question

end ClausePrompt
