import Diagnostics.Kind
import Diagnostics.Text.Decimal

/-!
# Records

A `Record` is one diagnostic in the form that editors read: a place in a file, a kind and a message.
-/

namespace Diagnostics

/-- One diagnostic. The defaults stand for what a tool does not tell. -/
structure Record where
  /-- The file that the diagnostic is about. -/
  file : Text := []
  /-- The line in the file. -/
  line : Int := 1
  /-- The column in the line. -/
  column : Int := 1
  /-- The severity. -/
  kind : Kind := .error
  /-- What the tool says. -/
  message : Text := []
deriving DecidableEq, Repr

/-- The record as one line, `file:line:column: kind: message`. -/
def Record.render (r : Record) : Text :=
  r.file ++ ':' :: decimal r.line ++ ':' :: decimal r.column ++ ": ".toList ++ r.kind.name ++
    ": ".toList ++ r.message

end Diagnostics
