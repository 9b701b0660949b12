import Diagnostics.Extraction.Basic

/-!
# Extractors

An `Extractor` finds the messages of one template in the output of a tool. Every match that is a
message gives one `Finding`, a record or the reason why there is none. `Extractor.findings` goes
through a whole text, `Extractor.next?` from one finding to the next, and `Outcome.ofFindings` sorts
the findings into records and errors.
-/

namespace Diagnostics

/-- What a message gives: a record, or the reason why there is none. -/
abbrev Finding := Except ExtractionError Record

/-- The records and the errors of a text. -/
structure Outcome where
  /-- The records, in order. -/
  records : List Record := []
  /-- The errors, in order. -/
  errors : List ExtractionError := []
deriving DecidableEq, Repr

namespace Outcome

/-- The records and the errors among the findings. -/
def ofFindings : List Finding → Outcome
  | [] => {}
  | .ok r :: rest =>
    let outcome := ofFindings rest
    { outcome with records := r :: outcome.records }
  | .error e :: rest =>
    let outcome := ofFindings rest
    { outcome with errors := e :: outcome.errors }

/-- Whether anything was found. -/
def isEmpty (outcome : Outcome) : Bool :=
  outcome.records.isEmpty && outcome.errors.isEmpty

end Outcome

/-- A template that is ready for use. -/
structure Extractor where
  /-- The shape of the messages. -/
  template : Template
  /-- The words for kinds. -/
  vocabulary : Vocabulary
  /-- The file of every record, unless it is empty. -/
  fileOverride : Text
  /-- The pattern of the template under the vocabulary. -/
  pattern : Pattern
  /-- The pattern is what the template compiles to, so it is not too large. -/
  compile_eq : template.compile vocabulary = .ok pattern

namespace Extractor

/-- The extractor of the messages that a template text describes. -/
def ofTemplate (text fileOverride : Text) (vocabulary : Vocabulary) :
    Except TemplateError Extractor :=
  let template := Template.ofText text
  match h : template.compile vocabulary with
  | .ok pattern => .ok ⟨template, vocabulary, fileOverride, pattern, h⟩
  | .error e => .error e

/-- The finding of a match, if the match is a message. -/
def findingOf (x : Extractor) (m : Match) : Option Finding :=
  if x.template.isMessage m then some (x.template.recordOf x.vocabulary x.fileOverride m) else none

/-- All findings in a text, in order. -/
def findings (x : Extractor) (t : Text) : List Finding :=
  (x.pattern.findAll t).filterMap x.findingOf

/-- The next finding of a search, and the search after it. -/
def next? (x : Extractor) (s : Scan) : Option (Finding × Scan) :=
  match h : s.next? x.pattern with
  | none => none
  | some (m, s') =>
    have := Scan.left_lt_of_next?_eq_some h
    match x.findingOf m with
    | some finding => some (finding, s')
    | none => x.next? s'
termination_by s.left

/-- The records and the errors of a text. -/
def parse (x : Extractor) (t : Text) : Outcome :=
  .ofFindings (x.findings t)

/-- The lines of the records of a text. A strict extraction fails with the first error; any other
leaves the errors out. -/
def render (x : Extractor) (strict : Bool) (t : Text) : Except ExtractionError (List Text) :=
  let findings := x.findings t
  if strict then findings.mapM fun finding => finding.map Record.render
  else .ok ((Outcome.ofFindings findings).records.map Record.render)

end Extractor

end Diagnostics
