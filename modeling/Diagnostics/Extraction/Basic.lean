import Diagnostics.Template.Basic
import Diagnostics.Pattern.Search
import Diagnostics.Extraction.Error
import Diagnostics.Record

/-!
# Records from matches

The groups of a match belong to the tokens of its template one by one. `Template.recordOf` fills a
record with them in order, so that the last of several tokens for one field counts and the first
malformed one is the error. `Template.isMessage` tells whether a match is a message at all.
-/

namespace Diagnostics

/-- The kind of a word of the vocabulary, found in `matched`. -/
def Vocabulary.kindOf (vocabulary : Vocabulary) (word matched : Text) :
    Except ExtractionError Kind :=
  match vocabulary.find? word with
  | some kind => .ok kind
  | none => .error (.ofWord word matched)

/-- The positive number that `digits` denote, found in `matched`. -/
def readPositive (field digits matched : Text) : Except ExtractionError Nat :=
  match readNumeral digits with
  | none => .error (.ofNumber field digits matched)
  | some n => if n = 0 then .error (.ofNumber field digits matched) else .ok n

namespace Template

/-- The record with the text of one more group, that of `token`, filled in. -/
def fill (vocabulary : Vocabulary) (matched : Text) (r : Record) (token : Token) (group : Text) :
    Except ExtractionError Record :=
  match token with
  | .placeholder .file => .ok { r with file := group }
  | .placeholder .line =>
    (readPositive "line".toList group matched).map fun n => { r with line := n }
  | .placeholder .column =>
    (readPositive "column".toList group matched).map fun n => { r with column := n }
  | .placeholder .kind => (vocabulary.kindOf group matched).map fun kind => { r with kind := kind }
  | .placeholder .message => .ok { r with message := group }
  | _ => .ok r

/-- The record of a match: its groups filled into an empty record in order, and then the file
replaced unless `fileOverride` is empty. -/
def recordOf (t : Template) (vocabulary : Vocabulary) (fileOverride : Text) (m : Match) :
    Except ExtractionError Record :=
  ((t.tokens.zip m.groups).foldlM (fun r part => fill vocabulary m.text r part.1 part.2) {}).map
    fun r => if fileOverride = [] then r else { r with file := fileOverride }

/-- Whether a match is a message: a token that marks one has matched some text. -/
def isMessage (t : Template) (m : Match) : Bool :=
  (t.tokens.zip m.groups).any fun part => part.1.isAnchor && part.2 ≠ []

end Template

end Diagnostics
