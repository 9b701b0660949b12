import Diagnostics.Vocabulary.Synonym
import Diagnostics.Template.Basic
import Diagnostics.Extraction.Error
import Diagnostics.Preset

/-!
# Failures

A `Failure` is any of the errors of the library, where one function may meet several of them.
-/

namespace Diagnostics

/-- Why something that was asked for was not done. -/
inductive Failure where
  /-- A name is that of no kind. -/
  | kindName (e : UnknownKindName)
  /-- A definition of a kind word cannot be read. -/
  | synonym (e : SynonymError)
  /-- The words make no vocabulary. -/
  | vocabulary (e : VocabularyError)
  /-- No preset has the name. -/
  | preset (e : UnknownPreset)
  /-- The template gives no pattern. -/
  | template (e : TemplateError)
  /-- A match makes no record. -/
  | extraction (e : ExtractionError)
deriving DecidableEq, Repr

/-- The text of the error. -/
def Failure.message : Failure → Text
  | kindName e => e.message
  | synonym e => e.message
  | vocabulary e => e.message
  | preset e => e.message
  | template e => e.message
  | extraction e => e.message

end Diagnostics
