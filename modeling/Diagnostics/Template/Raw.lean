import Diagnostics.Text.Basic

/-!
# Raw tokens

A template is a text with placeholders, such as `%f:%l: %m`. `rawTokens` cuts it, without loss, into
raw tokens: a placeholder, which is a percent sign and a selector, or a stretch of other text. A
percent sign that no selector follows begins a stretch of its own, which takes in the character
after it whatever that is; any other percent sign ends the stretch before it.
-/

namespace Diagnostics

/-- The characters that make a placeholder of a percent sign before them. -/
def selectors : Text :=
  "flckm.*%".toList

/-- Whether the text is a placeholder: a percent sign and a selector. -/
def isPlaceholder : Text → Bool
  | ['%', selector] => selector ∈ selectors
  | _ => false

/-- The first raw token of a text that begins with `c`, and the rest of the text. -/
def firstRawToken (c : Char) (t : Text) : Text × Text :=
  match c, t with
  | '%', [] => (['%'], [])
  | '%', d :: rest =>
    if d ∈ selectors then (['%', d], rest)
    else ('%' :: d :: rest.takeWhile (· ≠ '%'), rest.dropWhile (· ≠ '%'))
  | c, t => (c :: t.takeWhile (· ≠ '%'), t.dropWhile (· ≠ '%'))

/-- The first raw token and the rest make up the text again. -/
theorem firstRawToken_append (c : Char) (t : Text) :
    (firstRawToken c t).1 ++ (firstRawToken c t).2 = c :: t := by
  unfold firstRawToken
  split
  · rfl
  · split <;> simp
  · simp

/-- The rest is no longer than what follows the first character. -/
theorem length_firstRawToken_snd (c : Char) (t : Text) :
    (firstRawToken c t).2.length ≤ t.length := by
  have h := congrArg List.length (firstRawToken_append c t)
  have hpos : 0 < (firstRawToken c t).1.length := by
    unfold firstRawToken
    split
    · simp
    · split <;> simp
    · simp
  simp only [List.length_append, List.length_cons] at h
  omega

/-- The raw tokens of a template. -/
def rawTokens : Text → List Text
  | [] => []
  | c :: t =>
    have := length_firstRawToken_snd c t
    (firstRawToken c t).1 :: rawTokens (firstRawToken c t).2
termination_by t => t.length

/-- The raw tokens make up the template again. -/
theorem flatten_rawTokens (t : Text) : (rawTokens t).flatten = t := by
  fun_induction rawTokens t with
  | case1 => rfl
  | case2 c t _ ih => simp [ih, firstRawToken_append]

end Diagnostics
