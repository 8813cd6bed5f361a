import ClausePrompt.Text.Casing

namespace ClausePrompt

-- The grammar of a keyword's argument.
inductive Shape where
  | singleToken
  | tokenPair
  | indexRange
  | idReference
  | keyedList
  | variantPair
  | bracketedName
  | parenthesizedName
  | positionalReference
  deriving DecidableEq, Repr

namespace Shape

def name : Shape → String
  | singleToken => "single-token"
  | tokenPair => "token-pair"
  | indexRange => "index-range"
  | idReference => "id-reference"
  | keyedList => "keyed-list"
  | variantPair => "variant-pair"
  | bracketedName => "bracketed-name"
  | parenthesizedName => "parenthesized-name"
  | positionalReference => "positional-reference"

def all : List Shape :=
  [singleToken, tokenPair, indexRange, idReference, keyedList, variantPair, bracketedName,
    parenthesizedName, positionalReference]

end Shape

-- Which parts of a split argument are numbers.
inductive NumericRule where
  | none
  | all
  | last
  deriving DecidableEq, Repr

namespace NumericRule

def name : NumericRule → String
  | none => "none"
  | all => "all"
  | last => "last"

def values : List NumericRule := [none, all, last]

end NumericRule

-- Refinements of a shape. Each one matters to some shapes only and is ignored by the others.
structure Rules where
  numeric : NumericRule := .none
  -- a reference may also be written as a name in brackets
  bracketedAlias : Bool := false
  -- plain segments may stand beside the variants
  mixedSegments : Bool := false
  -- a delimited name may follow member segments
  leadingMembers : Bool := false
  deriving DecidableEq, Repr

-- The key combination that inserts a keyword.
structure Shortcut where
  modifier : String := "Tab"
  key : Char
  deriving DecidableEq, Repr

namespace Shortcut

def text (shortcut : Shortcut) : String :=
  shortcut.modifier ++ " + " ++ String.singleton shortcut.key

-- Keys are compared in upper case, which may take more than one character.
def binding (shortcut : Shortcut) : List Char := Text.upper [shortcut.key]

end Shortcut

def isKeywordId (id : String) : Bool :=
  !id.isEmpty && id.toList.all fun c => 'a' ≤ c && c ≤ 'z'

structure Keyword where
  -- one or more lower-case ASCII letters
  id : String
  shape : Shape
  description : String
  shortcut : Shortcut
  rules : Rules := {}
  examples : List String := []
  id_valid : isKeywordId id = true := by decide
  deriving DecidableEq, Repr

-- The text that direct entry inserts for the keyword.
def Keyword.insertion (keyword : Keyword) : String := "*" ++ keyword.id ++ "* "

end ClausePrompt
