import ClausePrompt.Argument.Call
import ClausePrompt.Argument.Numeral
import ClausePrompt.Argument.Span
import ClausePrompt.Keyword

namespace ClausePrompt.Argument

-- The trimmed top-level segments between semicolons.
def segments (text : List Char) : Reading (List (List Char)) :=
  match Nesting.split (some ';') text with
  | .ok parts => .ok parts
  | .error flaw => malformed (.nesting flaw)

-- One part, or exactly two that are joined by a semicolon, or by the word `to` where parts are
-- numbers. A semicolon hides the word.
def splitPair (rules : Rules) (text : List Char) :
    Reading (List (List Char) × Option IndexJoin) := do
  let parts ← segments text
  let words := Span.split text
  let (parts, join) :=
    if 1 < parts.length then (parts, some .list)
    else if rules.numeric ≠ .none ∧ 1 < words.length then (words, some .span)
    else (parts, none)
  if 2 < parts.length then malformed (.tooManyParts parts.length)
  else if parts.any (·.isEmpty) then malformed .emptySegment
  else return (parts, join)

def readRange (rules : Rules) (text : List Char) : Reading Argument := do
  let (parts, join) ← splitPair rules text
  Numeral.check parts
  let indices ← parts.mapM Numeral.read
  return .range indices join

-- The parts that the rule asks to be numbers.
def numericParts : NumericRule → List (List Char) → List (List Char)
  | .none, _ => []
  | .all, parts => parts
  | .last, parts => parts.getLast?.toList

-- The last part as a number, unless the rule asks for none.
def readIndex : NumericRule → List (List Char) → Reading (Option Nat)
  | .none, _ => .ok none
  | _, parts => (Numeral.read (parts.getLast?.getD [])).map some

def readPair (rules : Rules) (text : List Char) : Reading Argument := do
  let (parts, _) ← splitPair rules text
  Numeral.check (numericParts rules.numeric parts)
  let index ← readIndex rules.numeric parts
  return .pair (parts.map String.ofList) index

-- The trimmed name between a pair of delimiters. Only the last segment is delimited, and only
-- members may stand before it.
def readNamed (delimiter : Delimiter) (membersAllowed : Bool) (text : List Char) :
    Reading (List Char × List (List Char)) := do
  let parts ← if membersAllowed then segments text else .ok [text]
  let last := parts.getLast?.getD []
  let members := parts.dropLast
  if members.any (·.isEmpty) then malformed .emptySegment
  else if last.head? ≠ some delimiter.opener then malformed (.missingOpener delimiter)
  else if last.getLast? ≠ some delimiter.closer then malformed (.missingCloser delimiter)
  else
    let inner := last.tail.dropLast
    if inner.any isDelimiter then malformed .mismatchedDelimiters
    else if (Text.trim inner).isEmpty then malformed .emptyName
    else return (Text.trim inner, members)

def readDelimited (delimiter : Delimiter) (rules : Rules) (text : List Char) : Reading Argument :=
  (readNamed delimiter rules.leadingMembers text).map fun (name, members) =>
    .named delimiter (String.ofList name) (members.map String.ofList)

def isHandleChar (c : Char) : Bool := c.isAlphanum || c == '_' || c == '-'

def readReference (rules : Rules) (text : List Char) : Reading Argument :=
  if rules.bracketedAlias ∧ text.head? = some Delimiter.square.opener then
    (readNamed .square false text).map fun (name, _) => .reference (String.ofList name) true
  else if !text.isEmpty && text.all isHandleChar then
    .ok (.reference (String.ofList text) false)
  else malformed (.notHandle (String.ofList text))

-- One entry per segment. `seen` holds the keys of the segments before.
def readEntries : (seen : List (List Char)) → List (List Char) →
    Reading (List (List Char × List Char))
  | _, [] => .ok []
  | seen, segment :: rest =>
    if segment.isEmpty then malformed .emptySegment
    else match Call.split? segment with
      | none => malformed (.notCall (String.ofList segment))
      | some (name, body) =>
        let key := Text.lower name
        let value := Text.trim body
        if value.isEmpty then malformed (.emptyValue (String.ofList key))
        else if key ∈ seen then .error (.duplicateKey (String.ofList key))
        else (readEntries (seen ++ [key]) rest).map ((key, value) :: ·)

def readKeyed (text : List Char) : Reading Argument := do
  let entries ← readEntries [] (← segments text)
  return .keyed (entries.map fun (key, value) => (String.ofList key, String.ofList value))

-- Whether the text starts with the name of a variant, in any case, and an opening parenthesis.
def startsVariant (text : List Char) : Bool :=
  Variant.all.any fun variant =>
    match Text.dropWord? variant.name.toList text with
    | some rest => (rest.dropWhile Text.isBlank).head? == some '('
    | none => false

-- Whether a variant starts at some word boundary of the text. `inWord` tells whether the character
-- before the text belongs to a word.
def holdsVariant (inWord : Bool) : List Char → Bool
  | [] => false
  | c :: cs => (!inWord && startsVariant (c :: cs)) || holdsVariant (Text.isWord c) cs

-- The segments of a variant pair that have been read so far.
structure VariantParts where
  base : List (List Char) := []
  light : Option (List Char) := none
  dark : Option (List Char) := none

namespace VariantParts

def get? (parts : VariantParts) : Variant → Option (List Char)
  | .light => parts.light
  | .dark => parts.dark

def set (parts : VariantParts) (value : List Char) : Variant → VariantParts
  | .light => { parts with light := some value }
  | .dark => { parts with dark := some value }

-- A segment that is a call of a variant. Calls of other names are plain values.
def call? (segment : List Char) : Option (Variant × List Char) :=
  match Call.split? segment with
  | some (name, body) => (Variant.ofName? (Text.lower name)).map fun variant => (variant, body)
  | none => none

def add (parts : VariantParts) (segment : List Char) : Reading VariantParts :=
  if segment.isEmpty then malformed .emptySegment
  else match call? segment with
    | none =>
      if holdsVariant false segment then malformed (.joinedVariants (String.ofList segment))
      else .ok { parts with base := parts.base ++ [segment] }
    | some (variant, body) =>
      let value := Text.trim body
      if value.isEmpty then malformed (.emptyVariant variant)
      else if (parts.get? variant).isSome then .error (.duplicateKey variant.name)
      else .ok (parts.set value variant)

def hasVariant (parts : VariantParts) : Bool := parts.light.isSome || parts.dark.isSome

end VariantParts

def readVariants (rules : Rules) (text : List Char) : Reading Argument := do
  let parts ← (← segments text).foldlM VariantParts.add {}
  if !rules.mixedSegments && parts.hasVariant && !parts.base.isEmpty then malformed .mixedVariants
  else if !rules.mixedSegments && 1 < parts.base.length then malformed .severalValues
  else .ok (.variants (parts.base.map String.ofList) (parts.light.map String.ofList)
    (parts.dark.map String.ofList))

-- The text before the first parenthesis and the text inside, if that parenthesis opens, something
-- stands before it and the text ends with a closing one.
def splitTarget? (text : List Char) : Option (List Char × List Char) :=
  match text.takeWhile (fun c => c != '(' && c != ')'),
      text.dropWhile (fun c => c != '(' && c != ')') with
  | lead@(_ :: _), '(' :: body =>
    if body.getLast? = some ')' then some (lead, body.dropLast) else none
  | _, _ => none

-- Takes the word `within` off a phrase. It counts only with a blank and one more character after.
def dropWithin (lead : List Char) : Bool × List Char :=
  match Text.dropWord? "within".toList lead with
  | some (blank :: c :: rest) => if Text.isBlank blank then (true, c :: rest) else (false, lead)
  | _ => (false, lead)

def readPositional (text : List Char) : Reading Argument :=
  match splitTarget? text with
  | none =>
    if '(' ∉ text then malformed .missingTargetOpener
    else if text.getLast? ≠ some ')' then malformed .missingTargetCloser
    else malformed .notPositional
  | some (lead, body) =>
    let (within, rest) := dropWithin lead
    let phrase := Text.trim rest
    match Direction.ofName? (String.ofList (Direction.hyphenate false (Text.lower phrase))) with
    | none => malformed (.unknownDirection (String.ofList phrase))
    | some direction =>
      let target := Text.trim body
      if target.isEmpty then malformed .emptyTarget
      else if target.any (fun c => c == '(' || c == ')') then malformed .mismatchedDelimiters
      else .ok (.positional direction (String.ofList target) within)

-- Reads a trimmed text that is not empty and has no clause separator.
def readShape (shape : Shape) (rules : Rules) (text : List Char) : Reading Argument :=
  match shape with
  | .singleToken => .ok (.token (String.ofList text))
  | .tokenPair => readPair rules text
  | .indexRange => readRange rules text
  | .idReference => readReference rules text
  | .keyedList => readKeyed text
  | .variantPair => readVariants rules text
  | .bracketedName => readDelimited .square rules text
  | .parenthesizedName => readDelimited .round rules text
  | .positionalReference => readPositional text

def clauseSeparator : Char := '|'

-- Reads an argument as it was typed.
def read (shape : Shape) (rules : Rules) (raw : List Char) : Reading Argument :=
  let text := Text.trim raw
  if text.isEmpty then malformed .empty
  else if clauseSeparator ∈ text then malformed .clauseSeparator
  else readShape shape rules text

end ClausePrompt.Argument
