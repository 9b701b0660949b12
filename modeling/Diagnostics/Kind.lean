import Diagnostics.Text.Quoted

/-!
# Kinds of diagnostics
-/

namespace Diagnostics

/-- The severity of a diagnostic. -/
inductive Kind where
  /-- The tool warns and goes on. -/
  | warning
  /-- The tool fails. -/
  | error
deriving DecidableEq, Repr

namespace Kind

/-- All kinds, in the order in which they are listed to the user. -/
def all : List Kind := [warning, error]

/-- The name of the kind, as it is written in a record. -/
def name : Kind → Text
  | warning => "warning".toList
  | error => "error".toList

/-- The kind of that name. -/
def ofName? (name : Text) : Option Kind :=
  all.find? fun kind => kind.name = name

/-- The kinds are listed without gaps and named apart, so every name is read back. -/
theorem ofName?_eq_some_iff {t : Text} {kind : Kind} : ofName? t = some kind ↔ t = kind.name := by
  constructor
  · intro h
    have := List.find?_some h
    simpa using (of_decide_eq_true this).symm
  · rintro rfl
    cases kind <;> decide

end Kind

/-- The name is that of no kind. -/
structure UnknownKindName where
  /-- The name that was given. -/
  name : Text
deriving DecidableEq, Repr

/-- The text of the error. -/
def UnknownKindName.message (e : UnknownKindName) : Text :=
  e.name.quoted ++ " is not a valid Kind".toList

end Diagnostics
