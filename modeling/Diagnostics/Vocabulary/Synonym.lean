import Diagnostics.Vocabulary.Basic
import Diagnostics.Text.Blank

/-!
# Definitions of kind words

A definition `WORD=KIND` gives a kind to a further word. White space around the two parts does not
count, nor does the case of the kind.
-/

namespace Diagnostics

/-- Why a definition of a kind word is refused. -/
inductive SynonymError where
  /-- The definition has no `=`, or no word in front of it. -/
  | noWord (definition : Text)
  /-- What follows the `=` is no kind. -/
  | unknownKind (kind definition : Text)
deriving DecidableEq, Repr

/-- The text of the error. -/
def SynonymError.message : SynonymError → Text
  | noWord definition => "Expected WORD=KIND, received: ".toList ++ definition.quoted
  | unknownKind kind definition =>
    "Unknown kind ".toList ++ kind.quoted ++ " in ".toList ++ definition.quoted ++
      ", expected one of: ".toList ++ List.intercalate ", ".toList (Kind.all.map Kind.name)

/-- Reads a definition `WORD=KIND`. The word ends at the first `=`. -/
def readSynonym (definition : Text) : Except SynonymError (Text × Kind) :=
  match definition.splitFirst '=' with
  | none => .error (.noWord definition)
  | some (left, right) =>
    let word := left.strip
    let kind := right.strip.lower
    if word = [] then .error (.noWord definition)
    else match Kind.ofName? kind with
      | some kind => .ok (word, kind)
      | none => .error (.unknownKind kind definition)

end Diagnostics
