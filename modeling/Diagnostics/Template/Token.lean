import Diagnostics.Template.Raw
import Diagnostics.Text.Quoted

/-!
# Tokens

A token of a template is a placeholder that stands for a part of a message, or literal text.
`Token.ofRaw` reads a raw token, and `Token.render` writes a token as template text.
-/

namespace Diagnostics

/-- What a placeholder stands for. -/
inductive Placeholder where
  /-- The name of a file. -/
  | file
  /-- The number of a line. -/
  | line
  /-- The number of a column. -/
  | column
  /-- A word for the kind of the diagnostic. -/
  | kind
  /-- The message. -/
  | message
  /-- White space, which may run over several lines. -/
  | whitespace
  /-- Anything on the line. -/
  | wildcard
deriving DecidableEq, Repr

namespace Placeholder

/-- All placeholders. -/
def all : List Placeholder := [file, line, column, kind, message, whitespace, wildcard]

/-- The selector that follows the percent sign. -/
def selector : Placeholder → Char
  | file => 'f'
  | line => 'l'
  | column => 'c'
  | kind => 'k'
  | message => 'm'
  | whitespace => '.'
  | wildcard => '*'

/-- The name that the placeholder is shown with. -/
def name : Placeholder → Text
  | file => "FILE".toList
  | line => "LINE".toList
  | column => "COLUMN".toList
  | kind => "KIND".toList
  | message => "MESSAGE".toList
  | whitespace => "WHITESPACE".toList
  | wildcard => "WILDCARD".toList

/-- The placeholder as template text. -/
def render (p : Placeholder) : Text := ['%', p.selector]

/-- The placeholder with that template text. -/
def ofRaw? (raw : Text) : Option Placeholder :=
  all.find? fun p => p.render = raw

end Placeholder

/-- A part of a template. -/
inductive Token where
  /-- A part of a message that varies. -/
  | placeholder (p : Placeholder)
  /-- Text that is the same in every message. -/
  | literal (text : Text)
deriving DecidableEq, Repr

namespace Token

/-- The token of a raw token. A doubled percent sign is a literal one, and what is no placeholder is
literal. -/
def ofRaw (raw : Text) : Token :=
  if raw = "%%".toList then .literal ['%']
  else match Placeholder.ofRaw? raw with
    | some p => .placeholder p
    | none => .literal raw

/-- The token as template text. A literal percent sign is not doubled. -/
def render : Token → Text
  | placeholder p => p.render
  | literal text => text

/-- The token as it is shown to a developer. -/
def display : Token → Text
  | placeholder p => "<Placeholder.".toList ++ p.name ++ ": ".toList ++ p.render.quoted ++ ['>']
  | literal text => "Literal(text=".toList ++ text.quoted ++ [')']

/-- Whether the token marks a message: it is neither white space nor a wildcard, which match where
there is no message at all. -/
def isAnchor : Token → Bool
  | placeholder .whitespace => false
  | placeholder .wildcard => false
  | _ => true

end Token

end Diagnostics
