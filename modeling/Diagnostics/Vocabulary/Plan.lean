import Diagnostics.Failure

/-!
# How a vocabulary is made

A vocabulary starts from words of its own or from the standard ones, takes in tables of synonyms one
after the other, and last the words of definitions `WORD=KIND`. A `Vocabulary.Plan` lists these
steps, and `Plan.build` takes them.
-/

namespace Diagnostics.Vocabulary

/-- The vocabulary with the words of the definitions. All definitions are read first, and a later
one replaces an earlier one of the same spelling. -/
def extendWith (vocabulary : Vocabulary) (definitions : List Text) : Except Failure Vocabulary := do
  let pairs ← (definitions.mapM readSynonym).mapError .synonym
  (vocabulary.extend (.ofList pairs)).mapError .vocabulary

/-- The steps that make a vocabulary. -/
structure Plan where
  /-- The words to start from, unless these are the standard ones. -/
  words : Option (List (Text × Kind)) := none
  /-- The synonyms that are taken in, one table after the other. -/
  synonyms : List (List (Text × Kind)) := []
  /-- The definitions that are taken in at last, if any are given. -/
  definitions : Option (List Text) := none
deriving DecidableEq, Repr

namespace Plan

/-- The vocabulary that the plan starts from. -/
def base (plan : Plan) : Except VocabularyError Vocabulary :=
  match plan.words with
  | none => .ok standard
  | some words => ofTable (.ofList words)

/-- The vocabulary with the synonyms of the plan, one table after the other. -/
def withSynonyms (plan : Plan) (vocabulary : Vocabulary) : Except VocabularyError Vocabulary :=
  plan.synonyms.foldlM (fun v synonyms => extend v (.ofList synonyms)) vocabulary

/-- The vocabulary that the plan makes, or the failure of the first step that fails. -/
def build (plan : Plan) : Except Failure Vocabulary := do
  let vocabulary ← (plan.base.bind plan.withSynonyms).mapError .vocabulary
  match plan.definitions with
  | none => .ok vocabulary
  | some definitions => vocabulary.extendWith definitions

end Plan

end Diagnostics.Vocabulary
