import ClausePrompt.Text.CharClass

namespace ClausePrompt.Text

def trimStart (cs : List Char) : List Char := cs.dropWhile isBlank

def trimEnd (cs : List Char) : List Char := (cs.reverse.dropWhile isBlank).reverse

-- The text without the blanks at its two ends.
def trim (cs : List Char) : List Char := trimEnd (trimStart cs)

def trimmed (s : String) : String := String.ofList (trim s.toList)

def allBlank (cs : List Char) : Bool := cs.all isBlank

-- Whether the needle stands somewhere in the text. The empty needle stands everywhere.
def occursIn (needle : List Char) : List Char → Bool
  | [] => needle.isEmpty
  | c :: cs => needle.isPrefixOf (c :: cs) || occursIn needle cs

-- Adds a character to the front of the first piece.
def extendFirst (c : Char) : List (List Char) → List (List Char)
  | [] => [[c]]
  | piece :: pieces => (c :: piece) :: pieces

-- The pieces of a text between the occurrences of a separator. There is one more than separators.
def pieces (separator : Char) : List Char → List (List Char)
  | [] => [[]]
  | c :: cs =>
    if c = separator then [] :: pieces separator cs else extendFirst c (pieces separator cs)

end ClausePrompt.Text
