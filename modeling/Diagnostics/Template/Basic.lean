import Diagnostics.Template.Token
import Diagnostics.Pattern.Basic
import Diagnostics.Text.Decimal

/-!
# Templates

A `Template` is the shape of a message, a list of tokens. `Template.ofText` reads it,
`Template.render` writes it, `Template.pattern` gives its pattern under a vocabulary, and
`Template.compile` also checks the size of the pattern.
-/

namespace Diagnostics

/-- The fragment of a token, where the kind is one of `words`. -/
def Token.fragment (words : List Text) : Token → Fragment
  | placeholder .file => .run .fileName false true
  | placeholder .line => .run .digit false false
  | placeholder .column => .run .digit false false
  | placeholder .kind => .word words
  | placeholder .message => .run .inLine false false
  | placeholder .whitespace => .run .blank false false
  | placeholder .wildcard => .run .inLine true true
  | literal text => .literal text

/-- Why a template gives no pattern. -/
inductive TemplateError where
  /-- The template is not usable for the reason that is given. -/
  | invalid (template reason : Text)
  /-- The pattern of the template has more bytes than the limit. -/
  | tooLarge (template : Text) (size limit : Int)
deriving DecidableEq, Repr

namespace TemplateError

/-- The template that gives no pattern. -/
def template : TemplateError → Text
  | invalid template _ => template
  | tooLarge template _ _ => template

/-- The reason why it gives none. -/
def reason : TemplateError → Text
  | invalid _ reason => reason
  | tooLarge _ size limit =>
    "pattern is ".toList ++ decimal size ++ " bytes, limit is ".toList ++
      decimal limit ++ " bytes".toList

/-- The text of the error. -/
def message (e : TemplateError) : Text :=
  "Invalid errorformat ".toList ++ e.template.quoted ++ ": ".toList ++ e.reason

end TemplateError

/-- The shape of a message. -/
structure Template where
  /-- The parts of the message, in order. -/
  tokens : List Token := []
deriving DecidableEq, Repr

namespace Template

/-- The template with a further token at its end. -/
def push (t : Template) (token : Token) : Template where
  tokens := t.tokens ++ [token]

/-- The template that the text describes. -/
def ofText (text : Text) : Template where
  tokens := (rawTokens text).map Token.ofRaw

/-- The template as text. -/
def render (t : Template) : Text :=
  t.tokens.flatMap Token.render

/-- The template as it is shown to a developer. -/
def display (t : Template) : Text :=
  "Template([".toList ++ List.intercalate ", ".toList (t.tokens.map Token.display) ++ "])".toList

/-- The pattern of the template, where kinds are written with the words of the vocabulary. -/
def pattern (t : Template) (vocabulary : Vocabulary) : Pattern :=
  let words := vocabulary.alternatives
  t.tokens.map (Token.fragment words)

/-- The pattern of the template, unless it is too large. -/
def compile (t : Template) (vocabulary : Vocabulary) : Except TemplateError Pattern :=
  let pattern := t.pattern vocabulary
  if pattern.size ≤ Pattern.maxSize then .ok pattern
  else .error (.tooLarge t.render pattern.size Pattern.maxSize)

/-- The places, counted from one, of the tokens that mark a message. -/
def anchorPlaces (t : Template) : List Nat :=
  (t.tokens.zipIdx 1).filterMap fun (token, place) => if token.isAnchor then some place else none

end Template

end Diagnostics
