import Diagnostics.Notice
import Diagnostics.Extraction.Iteration
import Diagnostics.Vocabulary.Plan

/-!
# Sessions

In a session templates, vocabularies, extractors and iterations are made and used under names, one
step at a time. Templates grow in place, and the file override of an extractor can be changed while
iterations over it are under way. So an iteration refers to its extractor by its place in the
session, where it stays even if its name is given to another one. A step that fails changes nothing,
unless it is an advance that raises an error: the iteration is over then.
-/

namespace Diagnostics

/-- What a name stands for in a session. -/
inductive Session.Object where
  /-- A template. -/
  | template (t : Template)
  /-- A vocabulary. -/
  | vocabulary (v : Vocabulary)
  /-- The extractor at a place. -/
  | extractor (place : Nat)
  /-- An iteration with the extractor at a place. -/
  | iteration (place : Nat) (i : Iteration)

/-- The state of a session. -/
structure Session where
  /-- The names in use; the latest use of a name comes first. -/
  objects : List (String × Session.Object) := []
  /-- All extractors that were made, in order. -/
  extractors : List Extractor := []
  /-- Whether verbose notices are shown. -/
  verbose : Bool := false

namespace Session

/-- What can be done in a session. An optional name `words` is that of a vocabulary; without it the
standard one is meant. -/
inductive Step where
  /-- Shows verbose notices from now on. -/
  | verbose
  /-- Makes a template of tokens. -/
  | template (name : String) (tokens : List Token)
  /-- Makes the template that a text describes. -/
  | templateOfText (name : String) (text : Text)
  /-- Makes a template with the tokens of another one. -/
  | copy (name source : String)
  /-- Adds tokens to the end of a template. -/
  | push (name : String) (tokens : List Token) (words : Option String)
  /-- Shows a template. -/
  | showTemplate (name : String) (words : Option String)
  /-- Finds the matches of a template in a text. -/
  | findAll (name : String) (text : Text) (words : Option String)
  /-- Makes a vocabulary. -/
  | vocabulary (name : String) (plan : Vocabulary.Plan)
  /-- Makes a vocabulary with further words than another one. -/
  | extend (name source : String) (synonyms : List (Text × Kind))
  /-- Shows a vocabulary. -/
  | showVocabulary (name : String)
  /-- Looks up the kind of a word that was found in a text. -/
  | kindOf (name : String) (word matched : Text)
  /-- Makes an extractor. -/
  | extractor (name : String) (template fileOverride : Text) (words : Option String)
  /-- Changes the file override of an extractor. -/
  | setFile (name : String) (file : Text)
  /-- Finds the records and the errors in a text. -/
  | parse (name : String) (text : Text)
  /-- Renders the records of a text as lines. -/
  | render (name : String) (text : Text) (strict : Bool)
  /-- Begins an iteration over a text. -/
  | iterate (name source : String) (text : Text) (stopsAtError : Bool)
  /-- Advances an iteration. -/
  | next (name : String)

/-- What a step answers. -/
inductive Reply where
  /-- The step is done. -/
  | done
  /-- The number of tokens of a template. -/
  | length (n : Nat)
  /-- A template, with the vocabulary to show its pattern with. -/
  | template (t : Template) (v : Vocabulary)
  /-- The matches in a text. -/
  | found (matched : List Match)
  /-- A vocabulary. -/
  | vocabulary (v : Vocabulary)
  /-- A kind. -/
  | kind (k : Kind)
  /-- A text. -/
  | text (t : Text)
  /-- The records and the errors of a text. -/
  | outcome (o : Outcome)
  /-- The lines of the records of a text. -/
  | lines (l : List Text)
  /-- An iteration has begun. -/
  | started
  /-- The next finding of an iteration, which goes on if this is an error. -/
  | finding (f : Finding)
  /-- The iteration is over. -/
  | finished
  /-- The step failed, or it raised the error that ends an iteration. -/
  | failure (e : Failure)
  /-- A name stands for nothing of the kind that the step needs. -/
  | unknownName

/-- The reply when an iteration comes to a finding. An error that ends the iteration is raised. -/
def Reply.ofFinding (i : Iteration) (f : Finding) : Reply :=
  match f with
  | .ok _ => .finding f
  | .error e => if i.endsWith f then .failure (.extraction e) else .finding f

/-- What a step leaves behind. -/
structure Answer where
  /-- The session after the step. -/
  session : Session
  /-- What the step answers. -/
  reply : Reply
  /-- What the user is told, in order. -/
  notices : List Notice := []

/-- The session with a name given to an object. -/
def put (s : Session) (name : String) (object : Object) : Session :=
  { s with objects := (name, object) :: s.objects }

/-- The template of that name. -/
def template? (s : Session) (name : String) : Option Template :=
  match s.objects.lookup name with
  | some (.template t) => some t
  | _ => none

/-- The vocabulary of that name. -/
def vocabulary? (s : Session) (name : String) : Option Vocabulary :=
  match s.objects.lookup name with
  | some (.vocabulary v) => some v
  | _ => none

/-- The vocabulary of an optional name, the standard one without a name. -/
def words? (s : Session) : Option String → Option Vocabulary
  | none => some .standard
  | some name => s.vocabulary? name

/-- The extractor of that name, with its place. -/
def extractor? (s : Session) (name : String) : Option (Nat × Extractor) :=
  match s.objects.lookup name with
  | some (.extractor place) => s.extractors[place]?.map fun x => (place, x)
  | _ => none

/-- The iteration of that name, with the place of its extractor and the extractor. -/
def iteration? (s : Session) (name : String) : Option (Nat × Extractor × Iteration) :=
  match s.objects.lookup name with
  | some (.iteration place i) => s.extractors[place]?.map fun x => (place, x, i)
  | _ => none

/-- The answer of a step that changes nothing. -/
def answer (s : Session) (reply : Reply) : Answer where
  session := s
  reply := reply

/-- The answer of a step that gives a name to a new template. -/
def putTemplate (s : Session) (name : String) (t : Template) : Answer where
  session := s.put name (.template t)
  reply := .length t.tokens.length

/-- The answer of a step that gives a name to a new vocabulary, or fails to make it. -/
def putVocabulary (s : Session) (name : String) : Except Failure Vocabulary → Answer
  | .error e => s.answer (.failure e)
  | .ok v => { session := s.put name (.vocabulary v), reply := .vocabulary v }

/-- The answer of a step that gives a name to a new extractor, or fails to make it. -/
def putExtractor (s : Session) (name : String) : Except TemplateError Extractor → Answer
  | .error e => s.answer (.failure (.template e))
  | .ok x =>
    { session :=
        { s.put name (.extractor s.extractors.length) with extractors := s.extractors ++ [x] }
      reply := .text x.pattern.text
      notices := [x.notice] }

/-- The answer of a step whose names stand for what it needs. -/
def step? (s : Session) : Step → Option Answer
  | .verbose => some { session := { s with verbose := true }, reply := .done }
  | .template name tokens => some (s.putTemplate name ⟨tokens⟩)
  | .templateOfText name text => some (s.putTemplate name (.ofText text))
  | .copy name source => do
    let t ← s.template? source
    return s.putTemplate name t
  | .push name tokens words => do
    let t ← s.template? name
    let v ← s.words? words
    let t := tokens.foldl Template.push t
    return { session := s.put name (.template t), reply := .template t v }
  | .showTemplate name words => do
    let t ← s.template? name
    let v ← s.words? words
    return s.answer (.template t v)
  | .findAll name text words => do
    let t ← s.template? name
    let v ← s.words? words
    match t.compile v with
    | .error e => return s.answer (.failure (.template e))
    | .ok pattern => return s.answer (.found (pattern.findAll text))
  | .vocabulary name plan => some (s.putVocabulary name plan.build)
  | .extend name source synonyms => do
    let v ← s.vocabulary? source
    return s.putVocabulary name ((v.extend (.ofList synonyms)).mapError .vocabulary)
  | .showVocabulary name => do
    let v ← s.vocabulary? name
    return s.answer (.vocabulary v)
  | .kindOf name word matched => do
    let v ← s.vocabulary? name
    match v.kindOf word matched with
    | .error e => return s.answer (.failure (.extraction e))
    | .ok kind => return s.answer (.kind kind)
  | .extractor name template fileOverride words => do
    let v ← s.words? words
    return s.putExtractor name (Extractor.ofTemplate template fileOverride v)
  | .setFile name file => do
    let (place, _) ← s.extractor? name
    let extractors := s.extractors.modify place fun x => { x with fileOverride := file }
    return { session := { s with extractors := extractors }, reply := .text file }
  | .parse name text => do
    let (_, x) ← s.extractor? name
    let findings := x.findings text
    return { session := s, reply := .outcome (.ofFindings findings),
             notices := findings.map .ofFinding }
  | .render name text strict => do
    let (_, x) ← s.extractor? name
    let reply := match x.render strict text with
      | .error e => .failure (.extraction e)
      | .ok lines => .lines lines
    return { session := s, reply := reply, notices := x.renderNotices strict text }
  | .iterate name source text stopsAtError => do
    let (place, _) ← s.extractor? source
    let i := Iteration.start stopsAtError text
    return { session := s.put name (.iteration place i), reply := .started }
  | .next name => do
    let (place, x, i) ← s.iteration? name
    let (finding?, i') := i.advance x
    let s := s.put name (.iteration place i')
    match finding? with
    | none => return s.answer .finished
    | some finding =>
      return { session := s, reply := .ofFinding i finding, notices := [.ofFinding finding] }

/-- The answer of a step. -/
def step (s : Session) (todo : Step) : Answer :=
  (s.step? todo).getD (s.answer .unknownName)

/-- The answers of steps that are taken one after the other. -/
def run (s : Session) : List Step → List Answer
  | [] => []
  | todo :: rest =>
    let answer := s.step todo
    answer :: run answer.session rest

/-- What the plain console shows of an answer. -/
def Answer.transcript (a : Answer) : Text :=
  Notice.transcript a.session.verbose a.notices

end Session

end Diagnostics
