import Diagnostics.Vocabulary.WordTable
import Diagnostics.Text.Word
import Diagnostics.Text.Escaped

/-!
# Vocabularies

A `Vocabulary` is the closed list of words that a tool writes for the kind of a diagnostic. Its
words are in lower case, and begin and end with a word character, since they are sought between word
boundaries. `Vocabulary.ofTable` checks a table of words, `Vocabulary.extend` adds words to a
vocabulary, and `Vocabulary.alternatives` lists the words in the order in which they are tried.
-/

namespace Diagnostics

/-- A text begins and ends with a word character; so it has one. -/
def HasWordEdges (word : Text) : Prop :=
  word.head?.any isWordChar = true ∧ word.getLast?.any isWordChar = true

instance (word : Text) : Decidable (HasWordEdges word) :=
  inferInstanceAs (Decidable (_ ∧ _))

/-- Why a table of words makes no vocabulary. -/
inductive VocabularyError where
  /-- There is no word, or one of them is empty. -/
  | missingWord
  /-- The word does not begin and end with a word character. -/
  | looseEdge (word : Text)
deriving DecidableEq, Repr

/-- The text of the error. -/
def VocabularyError.message : VocabularyError → Text
  | missingWord => "Kind vocabulary must contain non-empty words".toList
  | looseEdge word =>
    "Kind word must start and end with a word character: ".toList ++ word.quoted

/-- The words that a tool writes for the kind of a diagnostic. -/
structure Vocabulary where
  /-- The words and their kinds, in the order in which they came. -/
  table : WordTable
  /-- There is a word. -/
  words_ne_nil : table.words ≠ []
  /-- Every word begins and ends with a word character. -/
  hasWordEdges : ∀ word ∈ table.words, HasWordEdges word
deriving DecidableEq, Repr

namespace Vocabulary

/-- The vocabulary of the words of a table, in lower case. -/
def ofTable (table : WordTable) : Except VocabularyError Vocabulary :=
  let lowered := table.lower
  -- A word that is missing is reported before any edge.
  if h : lowered.words = [] ∨ [] ∈ lowered.words then .error .missingWord
  else match hedges : lowered.words.find? fun word => ¬HasWordEdges word with
    | some word => .error (.looseEdge word)
    | none => .ok
      { table := lowered
        words_ne_nil := fun e => h (Or.inl e)
        hasWordEdges := fun word hword => by
          simpa using List.find?_eq_none.1 hedges word hword }

/-- The vocabulary of the words `warning` and `error`. -/
def standard : Vocabulary where
  table := WordTable.ofList [(Kind.warning.name, .warning), (Kind.error.name, .error)]
  words_ne_nil := by decide
  hasWordEdges := by decide

/-- The vocabulary with further words. The words of `synonyms` are taken into the table as they are
written, and then the whole table is put into lower case. -/
def extend (vocabulary : Vocabulary) (synonyms : WordTable) : Except VocabularyError Vocabulary :=
  ofTable (vocabulary.table.defineAll synonyms.entries)

/-- The kind of a word, written in any case. -/
def find? (vocabulary : Vocabulary) (word : Text) : Option Kind :=
  vocabulary.table.find? word.lower

/-- Whether `v` is tried before `w`: a longer word first, and of two words of one length the one
that comes first by code points. -/
def IsTriedBefore (v w : Text) : Prop :=
  w.length < v.length ∨ w.length = v.length ∧ v < w

instance (v w : Text) : Decidable (IsTriedBefore v w) :=
  inferInstanceAs (Decidable (_ ∨ _ ∧ _))

/-- Puts a word in its place among words that are in the order in which they are tried. -/
def insertAlternative (word : Text) : List Text → List Text
  | [] => [word]
  | w :: rest =>
    if IsTriedBefore word w then word :: w :: rest else w :: insertAlternative word rest

/-- The words in the order in which they are tried. -/
def alternatives (vocabulary : Vocabulary) : List Text :=
  vocabulary.table.words.foldr insertAlternative []

/-- Words as a pattern that matches one of them, the first one first. -/
def alternation (words : List Text) : Text :=
  List.intercalate ['|'] (words.map Text.escaped)

/-- The words of the vocabulary as a pattern. -/
def patternText (vocabulary : Vocabulary) : Text :=
  alternation vocabulary.alternatives

end Vocabulary

end Diagnostics
