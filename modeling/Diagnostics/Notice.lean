import Diagnostics.Extraction.Extractor

/-!
# Notices for the user

Besides the records, the user is told what went wrong and, in verbose mode, what was done. A
`Notice` is one such message, and `Notice.shown` selects those that the mode shows. Which notices
there are does not depend on the mode. The words of a notice are handed to a `Console`, and what
becomes of them there is up to the console: one may replace some of them, or set them in colours.
`Console.plain` writes them as they are.
-/

namespace Diagnostics

/-- A message for the user. -/
inductive Notice where
  /-- Nothing can be done, for the reason that is given. -/
  | failure (message : Text)
  /-- A malformed match was left out. -/
  | skipped (e : ExtractionError)
  /-- The template that is used. -/
  | template (text : Text)
  /-- The pattern that is used. -/
  | pattern (text : Text)
  /-- A record was found. -/
  | found (r : Record)
  /-- A malformed match was found. -/
  | rejected (e : ExtractionError)
  /-- The number of the records that were written. -/
  | total (count : Nat)
deriving DecidableEq, Repr

namespace Notice

/-- Whether the notice is shown in verbose mode only. -/
def isVerbose : Notice → Bool
  | failure _ => false
  | skipped _ => false
  | _ => true

/-- The fields of a record as they are shown in verbose mode, where the message is only measured. -/
def summary (r : Record) : Text :=
  "f=".toList ++ r.file.quoted ++ " l=".toList ++ decimal r.line ++ " c=".toList ++
    decimal r.column ++ " k=".toList ++ r.kind.name ++ " #=".toList ++ decimal r.message.length

/-- The words of the notice, as they are handed to a console. They are not meant to be read as
markup. -/
def words : Notice → List Text
  | failure message => ["Error:".toList, message]
  | skipped e => ["Warning:".toList, "Skipped match:".toList, e.message]
  | template text => ["errorformat:".toList, text]
  | pattern text => ["  pattern:".toList, text]
  | found r => ["    >".toList, summary r]
  | rejected e => ["    !".toList, e.message]
  | total count => ["records:".toList, decimal count]

/-- The notices that are shown, in order. -/
def shown (verbose : Bool) (notices : List Notice) : List Notice :=
  notices.filter fun n => verbose || !n.isVerbose

/-- What is told of a finding when it is found. -/
def ofFinding : Finding → Notice
  | .ok r => found r
  | .error e => rejected e

end Notice

/-- What notices are shown on: a console writes a text for the words of each notice. -/
abbrev Console := List Text → Text

namespace Console

/-- What the console writes for the notices that the mode shows. -/
def transcript (console : Console) (verbose : Bool) (notices : List Notice) : Text :=
  (Notice.shown verbose notices).flatMap fun n => console n.words

/-- The console that writes the words as they are, with a space between any two, on a line. -/
def plain : Console :=
  fun words => List.intercalate [' '] words ++ ['\n']

end Console

/-- What the plain console writes for the notices that the mode shows. -/
def Notice.transcript (verbose : Bool) (notices : List Notice) : Text :=
  Console.plain.transcript verbose notices

/-- The findings up to the first error, that error included. -/
def upToError : List Finding → List Finding
  | [] => []
  | .ok r :: rest => .ok r :: upToError rest
  | .error e :: _ => [.error e]

namespace Extractor

/-- What is told when the extractor is made. -/
def notice (x : Extractor) : Notice :=
  .pattern x.pattern.text

/-- What is told while the records of a text are rendered. A strict extraction ends with the first
error; any other goes on, and names the errors again after all findings. -/
def renderNotices (x : Extractor) (strict : Bool) (t : Text) : List Notice :=
  let findings := x.findings t
  if strict then (upToError findings).map .ofFinding
  else findings.map .ofFinding ++ (Outcome.ofFindings findings).errors.map .skipped

end Extractor

end Diagnostics
