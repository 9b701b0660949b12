import Diagnostics.Text.Quoted

/-!
# Malformed matches

A match of a template is malformed when its groups make no record. An `ExtractionError` says why,
and keeps the text of the match.
-/

namespace Diagnostics

/-- Why a match makes no record. -/
inductive ExtractionError where
  /-- The match is malformed in the way that is described. -/
  | malformed (description matched : Text)
  /-- The word is in no vocabulary. -/
  | unknownKind (word matched : Text)
  /-- The number of a line or column is zero, or too long to be read. -/
  | invalidNumber (field value matched : Text)
deriving DecidableEq, Repr

namespace ExtractionError

/-- The text that a part was found in, which is the part itself if no text is given. -/
def context (part matched : Text) : Text :=
  if matched = [] then part else matched

/-- The error of a word that is in no vocabulary, found in `matched`. -/
def ofWord (word matched : Text) : ExtractionError :=
  unknownKind word (context word matched)

/-- The error of a number that is not positive or too long, found in `matched`. -/
def ofNumber (field value matched : Text) : ExtractionError :=
  invalidNumber field value (context value matched)

/-- The text of the match. -/
def matched : ExtractionError → Text
  | malformed _ matched => matched
  | unknownKind _ matched => matched
  | invalidNumber _ _ matched => matched

/-- What is wrong with the match. -/
def description : ExtractionError → Text
  | malformed description _ => description
  | unknownKind word _ => "Unexpected kind: ".toList ++ word.quoted
  | invalidNumber field value _ =>
    "Invalid ".toList ++ field ++ " number: ".toList ++ value.quoted

/-- The text of the error. -/
def message (e : ExtractionError) : Text :=
  e.description ++ " in ".toList ++ e.matched.quoted

end ExtractionError

end Diagnostics
