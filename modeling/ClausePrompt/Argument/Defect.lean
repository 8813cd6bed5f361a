import ClausePrompt.Argument

namespace ClausePrompt

-- Why an argument does not have its shape.
inductive Malformation where
  | empty
  | clauseSeparator
  | nesting (flaw : Nesting.Flaw)
  | tooManyParts (count : Nat)
  | emptySegment
  | notNumeral (part : String)
  | notHandle (text : String)
  | notCall (segment : String)
  | emptyValue (key : String)
  | joinedVariants (segment : String)
  | emptyVariant (variant : Variant)
  | mixedVariants
  | severalValues
  | missingOpener (delimiter : Delimiter)
  | missingCloser (delimiter : Delimiter)
  | mismatchedDelimiters
  | emptyName
  | missingTargetOpener
  | missingTargetCloser
  | notPositional
  | unknownDirection (phrase : String)
  | emptyTarget
  deriving DecidableEq, Repr

def Malformation.message : Malformation → String
  | empty => "argument is empty"
  | clauseSeparator => "argument may not contain '|'"
  | nesting flaw => flaw.message
  | tooManyParts count => "expected at most two parts, got " ++ toString count
  | emptySegment => "empty segment"
  | notNumeral part => "non-numeric index '" ++ part ++ "'"
  | notHandle text => "expected an alphanumeric handle, got '" ++ text ++ "'"
  | notCall segment => "expected key(value), got '" ++ segment ++ "'"
  | emptyValue key => "empty value for '" ++ key ++ "'"
  | joinedVariants segment => "missing ';' between segments in '" ++ segment ++ "'"
  | emptyVariant variant => "empty " ++ variant.name ++ "() variant"
  | mixedVariants => "cannot mix a plain value with light()/dark()"
  | severalValues => "expected one value or light(...)/dark(...)"
  | missingOpener d => "missing '" ++ String.singleton d.opener ++ "' before name"
  | missingCloser d => "missing '" ++ String.singleton d.closer ++ "' after name"
  | mismatchedDelimiters => "mismatched delimiters"
  | emptyName => "empty name"
  | missingTargetOpener => "missing '(' around target"
  | missingTargetCloser => "missing ')' after target"
  | notPositional => "expected 'direction (target)'"
  | unknownDirection phrase => "unknown direction '" ++ phrase ++ "'"
  | emptyTarget => "empty target"

-- What a reader of arguments may find instead of an argument.
inductive Defect where
  | malformed (malformation : Malformation)
  | duplicateKey (key : String)
  | tooManyDigits (digits : Nat)
  deriving DecidableEq, Repr

abbrev Reading (α : Type) := Except Defect α

def malformed {α : Type} (malformation : Malformation) : Reading α :=
  .error (.malformed malformation)

end ClausePrompt
