import Diagnostics.Text.Lowercase

/-!
# Comparison without regard to case

Two characters are the same letter when their `caselessKey` is the same: the simple lower-case
letter, or, where several lower-case letters have one capital, the one that stands for them all. The
comparison is by single characters, so a text and its `Text.lower` need not be the same letters:
U+0131 is the same letter as `i`, and its own lower-case form.
-/

namespace Diagnostics

/-- Lower-case letters that share a capital with another one, and that other one. -/
def letterVariants : List (Char × Char) :=
  [('\u0131', 'i'), ('\u017F', 's'), ('\u00B5', '\u03BC'), ('\u0345', '\u03B9'),
   ('\u1FBE', '\u03B9'), ('\u1FD3', '\u0390'), ('\u1FE3', '\u03B0'), ('\u03D0', '\u03B2'),
   ('\u03F5', '\u03B5'), ('\u03D1', '\u03B8'), ('\u03F0', '\u03BA'), ('\u03D6', '\u03C0'),
   ('\u03F1', '\u03C1'), ('\u03C2', '\u03C3'), ('\u03D5', '\u03C6'), ('\u1C80', '\u0432'),
   ('\u1C81', '\u0434'), ('\u1C82', '\u043E'), ('\u1C83', '\u0441'), ('\u1C84', '\u0442'),
   ('\u1C85', '\u0442'), ('\u1C86', '\u044A'), ('\u1C87', '\u0463'), ('\u1C88', '\uA64B'),
   ('\u1E9B', '\u1E61'), ('\uFB05', '\uFB06')]

/-- The letter that stands for all letters that differ from `c` in case only. -/
def caselessKey (c : Char) : Char :=
  let l := simpleLower c
  (letterVariants.lookup l).getD l

/-- Whether the two characters are the same letter but for case. -/
def sameLetter (c d : Char) : Bool :=
  caselessKey c == caselessKey d

/-- Whether `t` begins with `word` but for case. -/
def Text.startsCaseless : (word t : Text) → Bool
  | [], _ => true
  | _ :: _, [] => false
  | c :: word, d :: t => sameLetter c d && startsCaseless word t

end Diagnostics
