import Diagnostics.Extraction.Extractor

/-!
# Findings one at a time

An `Iteration` goes through the findings of a text as far as it is asked to. It keeps its own place
in the text and no extractor: each advance uses the extractor that it is given, so a file override
that changes on the way counts from then on. An iteration that stops at errors is over once it has
given one.
-/

namespace Diagnostics

/-- A walk through the findings of a text. -/
structure Iteration where
  /-- The search that is left, unless the iteration is over. -/
  scan : Option Scan
  /-- Whether the first error is the end. -/
  stopsAtError : Bool
deriving DecidableEq, Repr

namespace Iteration

/-- The walk through the findings of a text, from its start. -/
def start (stopsAtError : Bool) (t : Text) : Iteration where
  scan := some (.start t)
  stopsAtError := stopsAtError

/-- Whether the iteration is over once it has given the finding. -/
def endsWith (i : Iteration) : Finding → Bool
  | .ok _ => false
  | .error _ => i.stopsAtError

/-- The next finding, unless the iteration is over, and the iteration after it. -/
def advance (x : Extractor) (i : Iteration) : Option Finding × Iteration :=
  -- Without a search the iteration is over, and stays so.
  match i.scan.bind x.next? with
  | none => (none, { i with scan := none })
  | some (finding, s) =>
    (some finding, { i with scan := if i.endsWith finding then none else some s })

end Iteration

end Diagnostics
