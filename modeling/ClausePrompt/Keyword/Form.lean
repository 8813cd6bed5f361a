import ClausePrompt.Form.Field
import ClausePrompt.Keyword

namespace ClausePrompt

def Shortcut.keyOf : Field.Reader Char := fun value => do
  match (← Field.text value).toList with
  | [] => throw (.tooShort 1)
  | [key] => return key
  | _ => throw (.tooLong 1)

def Shortcut.ofFields (fields : Fields) : Checked Shortcut :=
  (Checked.give (.ok Shortcut.mk) (Field.withDefault Field.text "Tab" fields "modifier")).give
    (Field.required Shortcut.keyOf fields "key")

-- Rules that do not exist are passed over.
def Rules.ofFields (fields : Fields) : Checked Rules :=
  (((Checked.give (.ok Rules.mk)
    (Field.withDefault (Field.choice NumericRule.name NumericRule.values) .none fields
      "numeric")).give
    (Field.withDefault Field.flag false fields "bracketed_alias")).give
    (Field.withDefault Field.flag false fields "mixed_segments")).give
    (Field.withDefault Field.flag false fields "leading_members")

namespace Keyword

def idOf : Field.Reader { id : String // isKeywordId id = true } := fun value => do
  let id ← Field.text value
  if h : isKeywordId id = true then return ⟨id, h⟩ else throw (.patternMismatch "^[a-z]+$")

-- The texts of a list. An issue of an item is found under the item's position.
def textsFrom (name : String) : (position : Nat) → List Value → Checked (List String)
  | _, [] => .ok []
  | position, value :: values =>
    let item := match Field.text value with
      | .ok text => .ok text
      | .error problem => .error [⟨[name, toString position], problem⟩]
    (Checked.give (.ok List.cons) item).give (textsFrom name (position + 1) values)

def textsOf (name : String) : Value → Checked (List String)
  | .list values => textsFrom name 0 values
  | _ => .error [⟨[name], .notList⟩]

def examplesOf (fields : Fields) : Checked (List String) :=
  match fields.lookup "examples" with
  | some value => textsOf "examples" value
  | none => .ok []

-- The shortcut is read first and the rules second. Each is read only when all is well before it.
def ofFields (fields : Fields) : Checked Keyword := do
  let part := fun name => match fields.lookup name with
    | some (.fields items) => items
    | _ => []
  let shortcut ← Shortcut.ofFields (part "shortcut")
  let rules ← Rules.ofFields (part "rules")
  (((Checked.give (.ok fun id shape description examples =>
      { id := id.val, shape, description, shortcut, rules, examples, id_valid := id.property })
    (Field.required idOf fields "id")).give
    (Field.required (Field.choice Shape.name Shape.all) fields "shape")).give
    (Field.required Field.text fields "description")).give
    (examplesOf fields)

end Keyword

end ClausePrompt
