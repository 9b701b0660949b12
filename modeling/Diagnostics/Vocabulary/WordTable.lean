import Diagnostics.Kind
import Diagnostics.Text.Lowercase

/-!
# Tables of words

A `WordTable` gives a kind to each of its words. It remembers the order in which the words came:
defining a word again changes its kind and leaves it in its place (`define`).
-/

namespace Diagnostics

/-- The definitions of a table, after the definition of `word` as `kind`. -/
def defineIn (word : Text) (kind : Kind) : List (Text × Kind) → List (Text × Kind)
  | [] => [(word, kind)]
  | entry :: rest =>
    if entry.1 = word then (word, kind) :: rest else entry :: defineIn word kind rest

/-- The words after a definition are those before it, with the word at the end if it is new. -/
theorem map_fst_defineIn (word : Text) (kind : Kind) (entries : List (Text × Kind)) :
    (defineIn word kind entries).map Prod.fst =
      if word ∈ entries.map Prod.fst then entries.map Prod.fst
      else entries.map Prod.fst ++ [word] := by
  induction entries with
  | nil => simp [defineIn]
  | cons entry rest ih =>
    by_cases h : entry.1 = word
    · simp [defineIn, h]
    · have h' : ¬word = entry.1 := fun e => h e.symm
      simp only [defineIn, h, if_false, List.map_cons, ih, List.mem_cons, h', false_or]
      split <;> simp

/-- A table of distinct words, each with its kind, in the order in which the words came. -/
structure WordTable where
  /-- The words and their kinds. -/
  entries : List (Text × Kind) := []
  /-- No word comes twice. -/
  nodup : (entries.map Prod.fst).Nodup := by simp
deriving DecidableEq, Repr

namespace WordTable

instance : EmptyCollection WordTable := ⟨{}⟩

/-- The words of the table. -/
def words (table : WordTable) : List Text :=
  table.entries.map Prod.fst

/-- The kind of the word, if the table has it. -/
def find? (table : WordTable) (word : Text) : Option Kind :=
  table.entries.lookup word

/-- The table with `word` defined as `kind`. -/
def define (table : WordTable) (word : Text) (kind : Kind) : WordTable where
  entries := defineIn word kind table.entries
  nodup := by
    rw [map_fst_defineIn]
    split
    · exact table.nodup
    · rename_i h
      simp only [List.nodup_append, table.nodup, true_and]
      refine ⟨by simp, fun a ha b hb => ?_⟩
      rw [List.mem_singleton] at hb
      subst hb
      exact fun e => h (e ▸ ha)

/-- The table with the definitions added, the first one first. -/
def defineAll (table : WordTable) (definitions : List (Text × Kind)) : WordTable :=
  definitions.foldl (fun t d => t.define d.1 d.2) table

/-- The table that the definitions make, the first one first. -/
def ofList (definitions : List (Text × Kind)) : WordTable :=
  (∅ : WordTable).defineAll definitions

/-- The table with every word in lower case. Of two words that become the same, the later one gives
the kind. -/
def lower (table : WordTable) : WordTable :=
  ofList (table.entries.map fun entry => (entry.1.lower, entry.2))

end WordTable

end Diagnostics
