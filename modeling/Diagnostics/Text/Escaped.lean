import Diagnostics.Text.Basic

/-!
# Texts that stand for themselves in a pattern

A backslash in front of a character takes its special meaning away. `Text.escaped` puts one in front
of every character that has a special meaning somewhere in a pattern, of `#`, `&` and `~`, and of
white space.
-/

namespace Diagnostics.Text

/-- The characters that get a backslash. -/
def specialChars : Text :=
  "()[]\x7b\x7d?*+-|^$\\.&~# \t\n\r\x0b\x0c".toList

/-- The text as a pattern that matches exactly this text. -/
def escaped (t : Text) : Text :=
  t.flatMap fun c => if c ∈ specialChars then ['\\', c] else [c]

end Diagnostics.Text
