import ClausePrompt.Text.Pieces

namespace ClausePrompt

inductive Direction where
  | left
  | right
  | above
  | below
  | top
  | bottom
  | center
  | topLeft
  | topCenter
  | topRight
  | centerLeft
  | centerRight
  | bottomLeft
  | bottomCenter
  | bottomRight
  deriving DecidableEq, Repr

namespace Direction

def name : Direction → String
  | left => "left"
  | right => "right"
  | above => "above"
  | below => "below"
  | top => "top"
  | bottom => "bottom"
  | center => "center"
  | topLeft => "top-left"
  | topCenter => "top-center"
  | topRight => "top-right"
  | centerLeft => "center-left"
  | centerRight => "center-right"
  | bottomLeft => "bottom-left"
  | bottomCenter => "bottom-center"
  | bottomRight => "bottom-right"

def all : List Direction :=
  [left, right, above, below, top, bottom, center, topLeft, topCenter, topRight, centerLeft,
    centerRight, bottomLeft, bottomCenter, bottomRight]

def ofName? (text : String) : Option Direction := all.find? (·.name == text)

-- Every run of blanks and hyphens becomes one hyphen. `within` tells whether the run has started.
def hyphenate (within : Bool) : List Char → List Char
  | [] => []
  | c :: cs =>
    if Text.isBlank c || c == '-' then
      if within then hyphenate true cs else '-' :: hyphenate true cs
    else c :: hyphenate false cs

end Direction

end ClausePrompt
