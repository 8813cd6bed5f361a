import ClausePrompt.Text.Hidden

namespace ClausePrompt.Text

-- The lower-case hexadecimal digits of a code point, filled up with zeros.
def hexCode (width : Nat) (c : Char) : List Char :=
  let digits := Nat.toDigits 16 c.toNat
  List.replicate (width - digits.length) '0' ++ digits

def escapedCode (c : Char) : List Char :=
  if c.toNat < 0x100 then '\\' :: 'x' :: hexCode 2 c
  else if c.toNat < 0x10000 then '\\' :: 'u' :: hexCode 4 c
  else '\\' :: 'U' :: hexCode 8 c

def quotedChar (quote c : Char) : List Char :=
  if c = quote ∨ c = '\\' then ['\\', c]
  else if c = '\n' then ['\\', 'n']
  else if c = '\r' then ['\\', 'r']
  else if c = '\t' then ['\\', 't']
  else if isHidden c then escapedCode c
  else [c]

-- A text between quotes. They are double quotes only if the text holds single quotes and no
-- double ones.
def quoted (s : String) : String :=
  let cs := s.toList
  let quote := if cs.contains '\'' && !cs.contains '"' then '"' else '\''
  String.ofList (quote :: cs.flatMap (quotedChar quote) ++ [quote])

end ClausePrompt.Text
