import Diagnostics.Text.Basic

/-!
# Terminal escape codes

Tools that colour their output put escape codes into it, which would end up inside file names and
messages. An escape code is an ESC followed by one of these:

* `]`, a text without BEL and ESC, and then BEL or ESC and `\`: a command string;
* `[`, parameters from `0` to `?`, intermediates from the space to `/`, and a final character from
  `@` to `~`: a control sequence;
* `(` or `)` and one of `B`, `0`, `U` and `K`: the choice of a character set;
* a character from `@` to `_` other than `[`: a code of two characters.

`afterCode?` reads one code and `strip` removes all of them in one pass from the left. A command
string that is not closed is a code of two characters, `ESC` and `]`.
-/

namespace Diagnostics.EscapeCode

/-- The character that begins every escape code. -/
def esc : Char := '\x1b'

/-- The character that ends a command string. -/
def bel : Char := '\x07'

/-- Whether the character lies between two others, both included. -/
def isBetween (first last c : Char) : Bool :=
  first ≤ c && c ≤ last

/-- What follows a command string whose `ESC ]` has been read. -/
def afterCommandString? (t : Text) : Option Text :=
  match t.dropWhile fun c => c != bel && c != esc with
  | [] => none
  | c :: rest =>
    if c = bel then some rest
    else match rest with
      | '\\' :: rest => some rest
      | _ => none

/-- What follows a control sequence whose `ESC [` has been read. -/
def afterControlSequence? (t : Text) : Option Text :=
  match (t.dropWhile (isBetween '0' '?')).dropWhile (isBetween ' ' '/') with
  | [] => none
  | c :: rest => if isBetween '@' '~' c then some rest else none

/-- What follows an escape code whose ESC has been read. -/
def afterCode? : Text → Option Text
  | [] => none
  | '[' :: rest => afterControlSequence? rest
  | ']' :: rest => some ((afterCommandString? rest).getD rest)
  | c :: rest =>
    if c = '(' ∨ c = ')' then
      match rest with
      | [] => none
      | set :: rest => if set ∈ ['B', '0', 'U', 'K'] then some rest else none
    else if isBetween '@' '_' c then some rest
    else none

/-- What follows a command string is no longer than the text. -/
theorem length_afterCommandString? {t rest : Text} (h : afterCommandString? t = some rest) :
    rest.length ≤ t.length := by
  have := (List.dropWhile_suffix (l := t) fun c => c != bel && c != esc).length_le
  simp only [afterCommandString?] at h
  grind

/-- What follows a control sequence is no longer than the text. -/
theorem length_afterControlSequence? {t rest : Text} (h : afterControlSequence? t = some rest) :
    rest.length ≤ t.length := by
  have h₁ := (List.dropWhile_suffix (l := t) (isBetween '0' '?')).length_le
  have h₂ := (List.dropWhile_suffix (l := t.dropWhile (isBetween '0' '?'))
    (isBetween ' ' '/')).length_le
  simp only [afterControlSequence?] at h
  grind

/-- What follows an escape code is no longer than the text after its ESC. -/
theorem length_afterCode? {t rest : Text} (h : afterCode? t = some rest) :
    rest.length ≤ t.length := by
  unfold afterCode? at h
  split at h
  · simp at h
  · exact Nat.le_succ_of_le (length_afterControlSequence? h)
  · rename_i t
    cases hc : afterCommandString? t with
    | none => simp_all
    | some r => have := length_afterCommandString? hc; simp_all; omega
  · grind

/-- The text without its escape codes. -/
def strip : Text → Text
  | [] => []
  | c :: t =>
    if c = esc then
      match hrest : afterCode? t with
      | some rest =>
        have := length_afterCode? hrest
        strip rest
      | none => c :: strip t
    else c :: strip t
termination_by t => t.length

end Diagnostics.EscapeCode
