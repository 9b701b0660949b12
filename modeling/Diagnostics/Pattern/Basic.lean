import Diagnostics.Vocabulary.Basic
import Diagnostics.Text.Blank
import Diagnostics.Text.Digit

/-!
# Patterns

A `Pattern` is a list of fragments, one for each token of a template, and describes a whole message.
A `Fragment` is a run of characters of one class, one of several words, or a literal text.
`Pattern.text` writes the pattern as a regular expression in which every fragment is one capturing
group; how fragments match is in `Diagnostics.Pattern.Cut`.
-/

namespace Diagnostics

/-- The classes of characters that a run is made of. -/
inductive CharClass where
  /-- All characters but NUL and line feed. -/
  | fileName
  /-- The decimal digits. -/
  | digit
  /-- All characters but the line feed. -/
  | inLine
  /-- White space. -/
  | blank
deriving DecidableEq, Repr

namespace CharClass

/-- Whether the class has the character. -/
def contains : CharClass → Char → Bool
  | fileName, c => c != '\x00' && c != '\n'
  | digit, c => isDigit c
  | inLine, c => c != '\n'
  | blank, c => isBlank c

/-- The class as a regular expression. -/
def text : CharClass → Text
  | fileName => "[^\\x00\\n]".toList
  | digit => "\\d".toList
  | inLine => "[^\\n]".toList
  | blank => "\\s".toList

end CharClass

/-- The part of a pattern that one token of a template stands for. -/
inductive Fragment where
  /-- A run of characters of a class. A run that may not be empty has one character or more; of
  several runs a lazy one prefers the shortest, any other the longest. -/
  | run (chars : CharClass) (mayBeEmpty lazy : Bool)
  /-- One of the words, in any case, between word boundaries; an earlier word is preferred. -/
  | word (choices : List Text)
  /-- This text. -/
  | literal (text : Text)
deriving DecidableEq, Repr

/-- The fragment as a regular expression of one capturing group. -/
def Fragment.text : Fragment → Text
  | run chars mayBeEmpty lazy =>
    '(' :: chars.text ++ [if mayBeEmpty then '*' else '+'] ++ (if lazy then ['?'] else []) ++ [')']
  | word choices => "(\\b(?i:".toList ++ Vocabulary.alternation choices ++ ")\\b)".toList
  | literal text => '(' :: text.escaped ++ [')']

/-- The description of a whole message, one fragment after the other. -/
abbrev Pattern := List Fragment

namespace Pattern

/-- The regular expression of the pattern without fragments, which matches nowhere. -/
def neverText : Text :=
  "(?!)".toList

/-- The pattern as a regular expression. -/
def text : Pattern → Text
  | [] => neverText
  | fragments => fragments.flatMap Fragment.text

/-- The size of the pattern, in bytes. -/
def size (pattern : Pattern) : Nat :=
  Text.utf8Size pattern.text

/-- The greatest size that a pattern may have, since it comes from the user. -/
def maxSize : Nat := 131072

end Pattern

end Diagnostics
