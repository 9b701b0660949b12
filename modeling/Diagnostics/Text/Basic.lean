/-!
# Texts

A `Text` is the list of its characters. These are Unicode scalar values: a string with a surrogate
that stands alone has no UTF-8 form, and is left out here. Offsets and lengths count characters; only
`Text.utf8Size` counts bytes. The other functions are the few line and field operations that the
input needs: `unifyNewlines`, `terminateLines` and `splitFirst`.
-/

namespace Diagnostics

/-- A text, as the list of its characters. -/
abbrev Text := List Char

namespace Text

/-- The number of bytes that the text takes in UTF-8. -/
def utf8Size (t : Text) : Nat :=
  t.foldl (fun size c => size + c.utf8Size) 0

/-- Turns every line ending, a carriage return with or without a line feed after it, into a line
feed. -/
def unifyNewlines : Text → Text
  | [] => []
  | '\r' :: '\n' :: rest => '\n' :: unifyNewlines rest
  | '\r' :: rest => '\n' :: unifyNewlines rest
  | c :: rest => c :: unifyNewlines rest

/-- The lines one after the other, each followed by a line feed. -/
def terminateLines (lines : List Text) : Text :=
  lines.flatMap (· ++ ['\n'])

/-- The parts of the text before and after the first `separator`, if there is one. -/
def splitFirst (separator : Char) : Text → Option (Text × Text)
  | [] => none
  | c :: rest =>
    if c = separator then some ([], rest)
    else (splitFirst separator rest).map fun parts => (c :: parts.1, parts.2)

/-- The parts found by `splitFirst` make up the text again, and the first has no separator. -/
theorem splitFirst_eq_some_iff {separator : Char} {t before after : Text} :
    splitFirst separator t = some (before, after) ↔
      t = before ++ separator :: after ∧ separator ∉ before := by
  induction t generalizing before with
  | nil => simp [splitFirst]
  | cons c rest ih =>
    rcases Decidable.em (c = separator) with h | h
    · subst h
      cases before with
      | nil => simp [splitFirst]
      | cons d before => simp [splitFirst]; grind
    · cases before with
      | nil => simp [splitFirst, h]
      | cons d before =>
        simp only [splitFirst, h, if_false, Option.map_eq_some_iff, Prod.mk.injEq, List.cons.injEq,
          Prod.exists, List.cons_append, List.mem_cons, not_or]
        constructor
        · rintro ⟨b, a, hs, ⟨rfl, rfl⟩, rfl⟩
          exact ⟨⟨rfl, (ih.1 hs).1⟩, fun hc => h hc.symm, (ih.1 hs).2⟩
        · rintro ⟨⟨rfl, ht⟩, -, hb⟩
          exact ⟨before, after, ih.2 ⟨ht, hb⟩, ⟨rfl, rfl⟩, rfl⟩

end Text

end Diagnostics
