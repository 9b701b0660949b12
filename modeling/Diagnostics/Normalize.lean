import Diagnostics.Notice
import Diagnostics.Failure

/-!
# Normalizing the output of a tool

`normalize` is the library in one call: the output of a tool and a template go in, and the lines of
the records come out, with the notices for the user.
-/

namespace Diagnostics

/-- The lines of the records, or why there are none, with the notices for the user. -/
structure Report where
  /-- The lines of the records. -/
  lines : Except Failure (List Text)
  /-- The notices, in order. -/
  notices : List Notice

/-- The report of an extractor on the output of a tool. -/
def Extractor.report (x : Extractor) (strict : Bool) (output : Text) : Report where
  lines := (x.render strict output).mapError .extraction
  notices := x.renderNotices strict output

/-- The records of the output of a tool, whose messages the template describes. -/
def normalize (output template fileOverride : Text) (vocabulary : Vocabulary) (strict : Bool) :
    Report :=
  match Extractor.ofTemplate template fileOverride vocabulary with
  | .error e => { lines := .error (.template e), notices := [] }
  | .ok x =>
    let report := x.report strict output
    { report with notices := x.notice :: report.notices }

end Diagnostics
