import Diagnostics.Text.Basic
import Diagnostics.Text.Word

/-!
# Cursors

A `Cursor` is a place in a text: how many characters lie before it, the last of them, and the
characters that follow. `Cursor.skip` moves it past a piece of the text, and `Cursor.Passes` says
that the piece was there.
-/

namespace Diagnostics

/-- A place in a text. -/
structure Cursor where
  /-- The number of characters before the place. -/
  offset : Nat
  /-- The character before the place, unless it is the start of the text. -/
  before : Option Char
  /-- The characters after the place. -/
  rest : Text
deriving DecidableEq, Repr

namespace Cursor

/-- The start of a text. -/
def start (t : Text) : Cursor where
  offset := 0
  before := none
  rest := t

/-- The place after a piece of the text. -/
def skip (c : Cursor) (piece : Text) : Cursor where
  offset := c.offset + piece.length
  before := piece.getLast?.or c.before
  rest := c.rest.drop piece.length

/-- The piece of the text from one place to a later one. -/
def upTo (c d : Cursor) : Text :=
  c.rest.take (d.offset - c.offset)

/-- Whether the place is a word boundary. -/
def isWordBoundary (c : Cursor) : Bool :=
  Diagnostics.isWordBoundary c.before c.rest.head?

/-- The text goes on with `piece` after `c`, and `d` is the place after it. -/
structure Passes (c : Cursor) (piece : Text) (d : Cursor) : Prop where
  /-- What follows `c` is the piece and what follows `d`. -/
  rest_eq : c.rest = piece ++ d.rest
  /-- The second place is where the piece ends. -/
  eq_skip : d = c.skip piece

@[simp] theorem skip_nil (c : Cursor) : c.skip [] = c := by
  simp [skip]

@[simp] theorem offset_skip (c : Cursor) (piece : Text) :
    (c.skip piece).offset = c.offset + piece.length := rfl

@[simp] theorem rest_skip (c : Cursor) (piece : Text) :
    (c.skip piece).rest = c.rest.drop piece.length := rfl

/-- Two pieces can be skipped one after the other or as one. -/
theorem skip_append (c : Cursor) (p q : Text) : c.skip (p ++ q) = (c.skip p).skip q := by
  simp [skip, List.getLast?_append, Nat.add_assoc, Option.or_assoc]

/-- A piece that stands in front of the rest can be passed. -/
theorem passes_skip {c : Cursor} {piece rest : Text} (h : c.rest = piece ++ rest) :
    c.Passes piece (c.skip piece) :=
  ⟨by simp [h], rfl⟩

/-- Nothing can be passed anywhere. -/
theorem passes_nil (c : Cursor) : c.Passes [] c :=
  ⟨rfl, by simp⟩

/-- Two pieces passed one after the other are one piece. -/
theorem Passes.trans {c d e : Cursor} {p q : Text} (h₁ : c.Passes p d) (h₂ : d.Passes q e) :
    c.Passes (p ++ q) e :=
  ⟨by rw [h₁.rest_eq, h₂.rest_eq, List.append_assoc],
    by rw [skip_append, ← h₁.eq_skip, h₂.eq_skip]⟩

/-- A piece that is passed moves the offset by its length. -/
theorem Passes.offset_eq {c d : Cursor} {p : Text} (h : c.Passes p d) :
    d.offset = c.offset + p.length := by
  rw [h.eq_skip, offset_skip]

/-- A piece that is passed is what lies between the two places. -/
theorem Passes.upTo_eq {c d : Cursor} {p : Text} (h : c.Passes p d) : c.upTo d = p := by
  simp [upTo, h.offset_eq, h.rest_eq]

/-- What follows the later place is shorter by the piece. -/
theorem Passes.length_rest {c d : Cursor} {p : Text} (h : c.Passes p d) :
    c.rest.length = p.length + d.rest.length := by
  rw [h.rest_eq, List.length_append]

end Cursor

end Diagnostics
