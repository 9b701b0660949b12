import Mathlib.Data.List.Basic
import Diagnostics.Session

/-!
# Advances leave everything else alone

Sessions are alike but for an iteration (`Session.AlikeBut`) if they differ in nothing but how far it
has come. Names stand for the same templates, vocabularies and extractors then, since none of these is
an iteration. So a step that does not advance the iteration answers the same in both sessions, and
leaves them alike (`AlikeBut.step`), and an advance in one of them leaves them alike as well
(`AlikeBut.next_left`). It follows by induction on the steps of a run that the advances of an
iteration may be left out, and nothing else that the run answers changes (`answersBut_eq`).
-/

namespace Diagnostics.Session

/-- Whether the step advances the iteration of that name. -/
def Step.advances (name : String) : Step → Bool
  | .next name' => name' = name
  | _ => false

/-- Only one step advances an iteration of a given name. -/
theorem Step.advances_eq_true_iff {name : String} {todo : Step} :
    todo.advances name = true ↔ todo = .next name := by
  cases todo <;> simp [advances]

/-- What a name stands for does not change when another name is given to an object. -/
theorem lookup_put_of_ne {name other : String} (h : other ≠ name) (s : Session) (object : Object) :
    (s.put name object).objects.lookup other = s.objects.lookup other := by
  have hbeq : (other == name) = false := beq_eq_false_iff_ne.2 h
  rw [put, List.lookup_cons, hbeq]

/-- The extractor of a name is at the place that the name stands for. -/
theorem extractor?_eq_some_iff {s : Session} {name : String} {place : Nat} {x : Extractor} :
    s.extractor? name = some (place, x) ↔
      s.objects.lookup name = some (.extractor place) ∧ s.extractors[place]? = some x := by
  unfold extractor?
  constructor
  · intro h
    split at h
    · rename_i hlookup
      obtain ⟨_, hx, heq⟩ := Option.map_eq_some_iff.1 h
      obtain ⟨rfl, rfl⟩ := Prod.mk.inj heq
      exact ⟨hlookup, hx⟩
    · cases h
  · rintro ⟨hlookup, hx⟩
    rw [hlookup]
    exact Option.map_eq_some_iff.2 ⟨x, hx, rfl⟩

/-- The extractor of an iteration is at the place that the name stands for. -/
theorem iteration?_eq_some_iff {s : Session} {name : String} {place : Nat} {x : Extractor}
    {i : Iteration} : s.iteration? name = some (place, x, i) ↔
      s.objects.lookup name = some (.iteration place i) ∧ s.extractors[place]? = some x := by
  unfold iteration?
  constructor
  · intro h
    split at h
    · rename_i hlookup
      obtain ⟨_, hx, heq⟩ := Option.map_eq_some_iff.1 h
      obtain ⟨rfl, hpair⟩ := Prod.mk.inj heq
      obtain ⟨rfl, rfl⟩ := Prod.mk.inj hpair
      exact ⟨hlookup, hx⟩
    · cases h
  · rintro ⟨hlookup, hx⟩
    rw [hlookup]
    exact Option.map_eq_some_iff.2 ⟨x, hx, rfl⟩

/-- An iteration advances with the extractor as it is. -/
theorem step_next {s : Session} {name : String} {place : Nat} {x : Extractor} {i : Iteration}
    (hiteration : s.iteration? name = some (place, x, i)) :
    s.step (.next name) = match (i.advance x).1 with
      | none => { session := s.put name (.iteration place (i.advance x).2), reply := .finished }
      | some finding =>
        { session := s.put name (.iteration place (i.advance x).2),
          reply := .ofFinding i finding, notices := [.ofFinding finding] } := by
  unfold step step?
  dsimp only
  rw [hiteration]
  dsimp only [Option.bind_eq_bind, Option.bind_some]
  cases (i.advance x).1 <;> rfl

/-- Where no iteration is under way, none advances. -/
theorem step_next_of_eq_none {s : Session} {name : String} (h : s.iteration? name = none) :
    s.step (.next name) = s.answer .unknownName := by
  unfold step step?
  dsimp only
  rw [h]
  rfl

/-! ## Sessions that are alike -/

/-- The sessions are the same, but for how far the iteration of that name has come. -/
structure AlikeBut (name : String) (s s' : Session) : Prop where
  /-- They have the same extractors. -/
  extractors : s.extractors = s'.extractors
  /-- They show the same notices. -/
  verbose : s.verbose = s'.verbose
  /-- Other names stand for the same objects. -/
  lookup : ∀ other, other ≠ name → s.objects.lookup other = s'.objects.lookup other
  /-- The name stands for the same object, or for iterations with the same extractor. -/
  lookup_self : s.objects.lookup name = s'.objects.lookup name ∨ ∃ place i i',
    s.objects.lookup name = some (.iteration place i) ∧
      s'.objects.lookup name = some (.iteration place i')

/-- The answers are the same, and the sessions after them are alike. -/
structure Answer.AlikeBut (name : String) (a a' : Answer) : Prop where
  /-- The sessions are alike. -/
  session : a.session.AlikeBut name a'.session
  /-- The replies are the same. -/
  reply : a.reply = a'.reply
  /-- The notices are the same. -/
  notices : a.notices = a'.notices

namespace AlikeBut

/-- A session is alike to itself. -/
theorem refl (name : String) (s : Session) : s.AlikeBut name s :=
  ⟨rfl, rfl, fun _ _ => rfl, Or.inl rfl⟩

variable {s s' : Session} {name : String} (h : s.AlikeBut name s')
include h

/-- Any name stands for the same object, or for iterations. -/
theorem lookup_cases (other : String) :
    s.objects.lookup other = s'.objects.lookup other ∨ ∃ place i i',
      s.objects.lookup other = some (.iteration place i) ∧
        s'.objects.lookup other = some (.iteration place i') := by
  by_cases hname : other = name
  · exact hname ▸ h.lookup_self
  · exact Or.inl (h.lookup other hname)

/-- A name stands for the same template. -/
theorem template?_eq (other : String) : s.template? other = s'.template? other := by
  unfold template?
  rcases h.lookup_cases other with heq | ⟨place, i, i', hleft, hright⟩
  · rw [heq]
  · rw [hleft, hright]

/-- A name stands for the same vocabulary. -/
theorem vocabulary?_eq (other : String) : s.vocabulary? other = s'.vocabulary? other := by
  unfold vocabulary?
  rcases h.lookup_cases other with heq | ⟨place, i, i', hleft, hright⟩
  · rw [heq]
  · rw [hleft, hright]

/-- A name, or none, stands for the same vocabulary. -/
theorem words?_eq (words : Option String) : s.words? words = s'.words? words := by
  cases words with
  | none => rfl
  | some other => exact h.vocabulary?_eq other

/-- A name stands for the same extractor, at the same place. -/
theorem extractor?_eq (other : String) : s.extractor? other = s'.extractor? other := by
  unfold extractor?
  rcases h.lookup_cases other with heq | ⟨place, i, i', hleft, hright⟩
  · rw [heq, h.extractors]
  · rw [hleft, hright]

/-- Another name stands for the same iteration. -/
theorem iteration?_eq {other : String} (hother : other ≠ name) :
    s.iteration? other = s'.iteration? other := by
  unfold iteration?
  rw [h.lookup other hother, h.extractors]

/-- With a name given to the same object the sessions are alike. -/
theorem put (other : String) (object : Object) :
    (s.put other object).AlikeBut name (s'.put other object) where
  extractors := h.extractors
  verbose := h.verbose
  lookup := by
    intro other' hother
    simp only [Session.put, List.lookup_cons]
    split
    · rfl
    · exact h.lookup other' hother
  lookup_self := by
    simp only [Session.put, List.lookup_cons]
    split
    · exact Or.inl rfl
    · exact h.lookup_self

/-- A step that changes nothing leaves the sessions alike. -/
theorem answer (reply : Reply) : (s.answer reply).AlikeBut name (s'.answer reply) :=
  ⟨h, rfl, rfl⟩

/-- A step that gives a name to a template leaves the sessions alike. -/
theorem putTemplate (other : String) (t : Template) :
    (s.putTemplate other t).AlikeBut name (s'.putTemplate other t) :=
  ⟨h.put other _, rfl, rfl⟩

/-- A step that may give a name to a vocabulary leaves the sessions alike. -/
theorem putVocabulary (other : String) (made : Except Failure Vocabulary) :
    (s.putVocabulary other made).AlikeBut name (s'.putVocabulary other made) := by
  cases made with
  | error e => exact h.answer _
  | ok v => exact ⟨h.put other _, rfl, rfl⟩

/-- A step that may give a name to an extractor leaves the sessions alike. -/
theorem putExtractor (other : String) (made : Except TemplateError Extractor) :
    (s.putExtractor other made).AlikeBut name (s'.putExtractor other made) := by
  cases made with
  | error e => exact h.answer _
  | ok x =>
    have hput := h.put other (.extractor s.extractors.length)
    have hmore : s.extractors ++ [x] = s'.extractors ++ [x] := by rw [h.extractors]
    unfold Session.putExtractor
    rw [← h.extractors]
    exact ⟨⟨rfl, hput.verbose, hput.lookup, hput.lookup_self⟩, rfl, rfl⟩

/-- A step that does not advance the iteration answers the same in both sessions, and leaves them
alike. -/
theorem step {todo : Step} (hother : todo.advances name = false) :
    (s.step todo).AlikeBut name (s'.step todo) := by
  -- Where a name stands for nothing of the kind that the step needs, it does so in both sessions.
  have hbind : ∀ {α : Type} {object object' : Option α} {f f' : α → Option Answer},
      object = object' →
      (∀ a, ((f a).getD (s.answer .unknownName)).AlikeBut name
        ((f' a).getD (s'.answer .unknownName))) →
      ((object.bind f).getD (s.answer .unknownName)).AlikeBut name
        ((object'.bind f').getD (s'.answer .unknownName)) := by
    rintro α object - f f' rfl hf
    cases object with
    | none => exact h.answer _
    | some a => exact hf a
  cases todo with
  | verbose => exact ⟨⟨h.extractors, rfl, h.lookup, h.lookup_self⟩, rfl, rfl⟩
  | template other tokens => exact h.putTemplate other _
  | templateOfText other text => exact h.putTemplate other _
  | copy other source => exact hbind (h.template?_eq source) fun t => h.putTemplate other t
  | push other tokens words =>
    exact hbind (h.template?_eq other) fun t => hbind (h.words?_eq words) fun v =>
      ⟨h.put other _, rfl, rfl⟩
  | showTemplate other words =>
    exact hbind (h.template?_eq other) fun t => hbind (h.words?_eq words) fun v => h.answer _
  | findAll other text words =>
    refine hbind (h.template?_eq other) fun t => hbind (h.words?_eq words) fun v => ?_
    cases t.compile v <;> exact h.answer _
  | vocabulary other plan => exact h.putVocabulary other _
  | extend other source synonyms =>
    exact hbind (h.vocabulary?_eq source) fun v => h.putVocabulary other _
  | showVocabulary other => exact hbind (h.vocabulary?_eq other) fun v => h.answer _
  | kindOf other word matched =>
    refine hbind (h.vocabulary?_eq other) fun v => ?_
    cases v.kindOf word matched <;> exact h.answer _
  | extractor other template fileOverride words =>
    exact hbind (h.words?_eq words) fun v => h.putExtractor other _
  | setFile other file =>
    refine hbind (h.extractor?_eq other) fun found => ⟨⟨?_, h.verbose, h.lookup, h.lookup_self⟩,
      rfl, rfl⟩
    exact congrArg (List.modify · found.1 fun x => { x with fileOverride := file }) h.extractors
  | parse other text => exact hbind (h.extractor?_eq other) fun found => ⟨h, rfl, rfl⟩
  | render other text strict => exact hbind (h.extractor?_eq other) fun found => ⟨h, rfl, rfl⟩
  | iterate other source text stopsAtError =>
    exact hbind (h.extractor?_eq source) fun found => ⟨h.put other _, rfl, rfl⟩
  | next other =>
    have hname : other ≠ name := by simpa [Step.advances] using hother
    refine hbind (h.iteration?_eq hname) fun found => ?_
    obtain ⟨place, x, i⟩ := found
    dsimp only
    cases (i.advance x).1 with
    | none => exact (h.put other _).answer _
    | some finding => exact ⟨h.put other _, rfl, rfl⟩

/-- An advance of the iteration in one of the sessions leaves them alike. -/
theorem next_left : (s.step (.next name)).session.AlikeBut name s' := by
  cases hiteration : s.iteration? name with
  | none =>
    rw [step_next_of_eq_none hiteration]
    exact h
  | some found =>
    obtain ⟨place, x, i⟩ := found
    obtain ⟨hself, -⟩ := iteration?_eq_some_iff.1 hiteration
    have hother : ∃ i', s'.objects.lookup name = some (.iteration place i') := by
      rcases h.lookup_self with heq | ⟨place', i₁, i', hleft, hright⟩
      · exact ⟨i, heq.symm.trans hself⟩
      · cases hself.symm.trans hleft
        exact ⟨i', hright⟩
    obtain ⟨i', hi'⟩ := hother
    have hput : (s.put name (.iteration place (i.advance x).2)).AlikeBut name s' :=
      ⟨h.extractors, h.verbose,
        fun other hname => (lookup_put_of_ne hname s _).trans (h.lookup other hname),
        Or.inr ⟨place, _, i', List.lookup_cons_self, hi'⟩⟩
    rw [step_next hiteration]
    cases (i.advance x).1 <;> exact hput

end AlikeBut

/-! ## Runs without the advances of an iteration -/

/-- What the steps of a run answer. -/
def answers (s : Session) (steps : List Step) : List (Reply × List Notice) :=
  (s.run steps).map fun a => (a.reply, a.notices)

/-- What the steps of a run answer, but for those that advance the iteration of that name. -/
def answersBut (s : Session) (name : String) (steps : List Step) : List (Reply × List Notice) :=
  ((steps.zip (s.run steps)).filter fun taken => !taken.1.advances name).map fun taken =>
    (taken.2.reply, taken.2.notices)

/-- In a session that is alike, without the advances of the iteration, a run answers the same. -/
theorem AlikeBut.answersBut_eq {s s' : Session} {name : String} (h : s.AlikeBut name s')
    (steps : List Step) :
    s.answersBut name steps = s'.answers (steps.filter fun todo => !todo.advances name) := by
  induction steps generalizing s s' with
  | nil => rfl
  | cons todo steps ih =>
    cases hadvances : todo.advances name with
    | false =>
      have halike := h.step hadvances
      have hrest := ih halike.session
      simp only [answersBut, answers, run, List.zip_cons_cons, List.filter_cons, hadvances,
        Bool.not_false, if_true, List.map_cons, halike.reply, halike.notices] at hrest ⊢
      rw [hrest]
    | true =>
      obtain rfl := Step.advances_eq_true_iff.1 hadvances
      have hrest := ih h.next_left
      simp only [answersBut, answers, run, List.zip_cons_cons, List.filter_cons, hadvances,
        Bool.not_true, Bool.false_eq_true, if_false] at hrest ⊢
      exact hrest

/-- The advances of an iteration may be left out of a run, and nothing else that the run answers
changes. -/
theorem answersBut_eq (s : Session) (name : String) (steps : List Step) :
    s.answersBut name steps = s.answers (steps.filter fun todo => !todo.advances name) :=
  (AlikeBut.refl name s).answersBut_eq steps

end Diagnostics.Session
