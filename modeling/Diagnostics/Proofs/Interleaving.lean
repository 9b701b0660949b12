import Mathlib.Data.List.Basic
import Diagnostics.Session
import Diagnostics.Proofs.Advances
import Diagnostics.Proofs.Independence
import Diagnostics.Proofs.RoundTrip

/-!
# Iterations in a session

In a session many iterations may be under way, with extractors whose file override changes, and
their advances may come in any order, between any other steps. What a step can do to the names and
the extractors of a session is said once (`Session.Effect`, `Session.effect_step`). It follows that
an extractor changes its file override when a step sets it and at no other time
(`Session.extractor_step`), that an iteration keeps its place and its extractor through all steps
that do not give its name away (`Session.Iterates.other`), and that only its own advances move it on
(`Session.Iterates.next`, `Session.Iterates.after`). So the findings that it gives are those of one
traversal of its text, each with the file override that was set last before it is given, and what
the other steps answer does not depend on the advances of an iteration (`reply_next_eq_traversal`).
-/

namespace Diagnostics

namespace Session

/-! ## What a step can do -/

/-- The name that a step gives to a new object, unless it fails. -/
def Step.newName? : Step → Option String
  | .template name _ => some name
  | .templateOfText name _ => some name
  | .copy name _ => some name
  | .push name _ _ => some name
  | .vocabulary name _ => some name
  | .extend name _ _ => some name
  | .extractor name _ _ _ => some name
  | .iterate name _ _ _ => some name
  | _ => none

/-- Whether the reply says that the step failed. -/
def Reply.isFailure : Reply → Bool
  | .failure _ => true
  | .unknownName => true
  | _ => false

/-- What an advance answers: the record or the error that it gives, a record with a file override, or
that there is none. An error is raised where the iteration stops at errors. -/
def Reply.ofAdvance (file : Text) (stopsAtError : Bool) : Option Finding → Reply
  | none => .finished
  | some (.ok r) => .finding (Finding.inFile file (.ok r))
  | some (.error e) => if stopsAtError then .failure (.extraction e) else .finding (.error e)

/-- The file override that the step gives to the extractor at the place, if it gives it one. -/
def setFile? (s : Session) (place : Nat) : Step → Option Text
  | .setFile name file =>
    if (s.extractor? name).map Prod.fst = some place then some file else none
  | _ => none

/-- A step that makes an object gives no extractor another file override. -/
theorem setFile?_eq_none {todo : Step} {name : String} (hname : todo.newName? = some name)
    (s : Session) (place : Nat) : s.setFile? place todo = none := by
  cases todo <;> first | rfl | cases hname

/-- What a step can do to the names and the extractors of a session. -/
inductive Effect (s : Session) (todo : Step) (a : Answer) : Prop
  /-- The step changes neither. -/
  | keep (objects : a.session.objects = s.objects)
    (extractors : a.session.extractors = s.extractors)
    (sets : ∀ place, s.setFile? place todo = none)
  /-- The step gives a name to a new object, and may make an extractor. -/
  | create (name : String) (object : Object) (newName : todo.newName? = some name)
    (reply : a.reply.isFailure = false) (objects : a.session.objects = (name, object) :: s.objects)
    (extractors : s.extractors <+: a.session.extractors)
  /-- The step changes the file override of an extractor. -/
  | setFile (place : Nat) (file : Text) (objects : a.session.objects = s.objects)
    (extractors : a.session.extractors = s.extractors.modify place fun x => x.withFile file)
    (sets : ∀ place', s.setFile? place' todo = if place = place' then some file else none)
  /-- The step advances an iteration. -/
  | advance (name : String) (object : Object) (next : todo = .next name)
    (objects : a.session.objects = (name, object) :: s.objects)
    (extractors : a.session.extractors = s.extractors)

/-- A step that fails changes nothing. -/
theorem effect_answer {s : Session} {todo : Step} (hset : ∀ place, s.setFile? place todo = none)
    (reply : Reply) : Effect s todo (s.answer reply) :=
  .keep rfl rfl hset

/-- A step that may give a name to a vocabulary does that or fails. -/
theorem effect_putVocabulary {s : Session} {todo : Step} {name : String}
    (hname : todo.newName? = some name) (made : Except Failure Vocabulary) :
    Effect s todo (s.putVocabulary name made) := by
  cases made with
  | error e => exact effect_answer (setFile?_eq_none hname s) _
  | ok v => exact .create name _ hname rfl rfl (List.prefix_refl _)

/-- A step that may give a name to an extractor does that or fails. -/
theorem effect_putExtractor {s : Session} {todo : Step} {name : String}
    (hname : todo.newName? = some name) (made : Except TemplateError Extractor) :
    Effect s todo (s.putExtractor name made) := by
  cases made with
  | error e => exact effect_answer (setFile?_eq_none hname s) _
  | ok x => exact .create name _ hname rfl rfl (List.prefix_append _ _)

/-- A file override is set at the extractor that the name stands for, and where the name stands for
none, nothing changes. -/
theorem effect_setFile (s : Session) (name : String) (file : Text) :
    Effect s (.setFile name file) (s.step (.setFile name file)) := by
  unfold step step?
  dsimp only
  cases hfound : s.extractor? name with
  | none =>
    refine effect_answer (fun place => ?_) _
    rw [setFile?, hfound]
    rfl
  | some found =>
    obtain ⟨place, x⟩ := found
    refine .setFile place file rfl rfl fun place' => ?_
    rw [setFile?, hfound]
    simp only [Option.map_some, Option.some.injEq]

/-- Every step has one of these effects. -/
theorem effect_step (s : Session) (todo : Step) : Effect s todo (s.step todo) := by
  -- Where a name stands for nothing of the kind that the step needs, nothing changes.
  have hbind : (∀ place, s.setFile? place todo = none) →
      ∀ {α : Type} (object : Option α) (f : α → Option Answer),
      (∀ a, Effect s todo ((f a).getD (s.answer .unknownName))) →
        Effect s todo ((object.bind f).getD (s.answer .unknownName)) := by
    intro hset α object f h
    cases object with
    | none => exact effect_answer hset _
    | some a => exact h a
  cases todo with
  | setFile name file => exact effect_setFile s name file
  | verbose => exact .keep rfl rfl fun _ => rfl
  | template name tokens => exact .create name _ rfl rfl rfl (List.prefix_refl _)
  | templateOfText name text => exact .create name _ rfl rfl rfl (List.prefix_refl _)
  | copy name source =>
    exact hbind (fun _ => rfl) _ _ fun t => .create name _ rfl rfl rfl (List.prefix_refl _)
  | push name tokens words =>
    exact hbind (fun _ => rfl) _ _ fun t => hbind (fun _ => rfl) _ _ fun v =>
      .create name _ rfl rfl rfl (List.prefix_refl _)
  | showTemplate name words =>
    exact hbind (fun _ => rfl) _ _ fun t => hbind (fun _ => rfl) _ _ fun v =>
      effect_answer (fun _ => rfl) _
  | findAll name text words =>
    refine hbind (fun _ => rfl) _ _ fun t => hbind (fun _ => rfl) _ _ fun v => ?_
    cases t.compile v <;> exact effect_answer (fun _ => rfl) _
  | vocabulary name plan => exact effect_putVocabulary rfl _
  | extend name source synonyms =>
    exact hbind (fun _ => rfl) _ _ fun v => effect_putVocabulary rfl _
  | showVocabulary name => exact hbind (fun _ => rfl) _ _ fun v => effect_answer (fun _ => rfl) _
  | kindOf name word matched =>
    refine hbind (fun _ => rfl) _ _ fun v => ?_
    cases v.kindOf word matched <;> exact effect_answer (fun _ => rfl) _
  | extractor name template fileOverride words =>
    exact hbind (fun _ => rfl) _ _ fun v => effect_putExtractor rfl _
  | parse name text => exact hbind (fun _ => rfl) _ _ fun found => .keep rfl rfl fun _ => rfl
  | render name text strict => exact hbind (fun _ => rfl) _ _ fun found => .keep rfl rfl fun _ => rfl
  | iterate name source text stopsAtError =>
    exact hbind (fun _ => rfl) _ _ fun found => .create name _ rfl rfl rfl (List.prefix_refl _)
  | next name =>
    refine hbind (fun _ => rfl) _ _ fun found => ?_
    obtain ⟨place, x, i⟩ := found
    dsimp only
    cases (i.advance x).1 <;> exact .advance name _ rfl rfl rfl

/-- An extractor stays at its place, and gets the file override that the step gives it, if any. -/
theorem extractor_step {s : Session} {place : Nat} {x : Extractor} {file : Text}
    (hextractor : s.extractors[place]? = some (x.withFile file)) (todo : Step) :
    (s.step todo).session.extractors[place]? =
      some (x.withFile ((s.setFile? place todo).getD file)) := by
  cases effect_step s todo with
  | keep hobjects hextractors hsets =>
    rw [hextractors, hextractor, hsets]
    rfl
  | create name object hname hreply hobjects hextractors =>
    obtain ⟨more, hmore⟩ := hextractors
    obtain ⟨hlt, -⟩ := List.getElem?_eq_some_iff.1 hextractor
    rw [← hmore, List.getElem?_append_left hlt, hextractor, setFile?_eq_none hname]
    rfl
  | setFile place' file' hobjects hextractors hsets =>
    rw [hextractors, List.getElem?_modify, hextractor, hsets]
    by_cases hplace : place' = place
    · rw [if_pos hplace]
      exact congrArg some (if_pos hplace)
    · rw [if_neg hplace]
      exact congrArg some (if_neg hplace)
  | advance name object hnext hobjects hextractors =>
    subst hnext
    rw [hextractors, hextractor]
    rfl

/-! ## Runs -/

/-- The session after steps that are taken one after the other. -/
def after (s : Session) (steps : List Step) : Session :=
  steps.foldl (fun s todo => (s.step todo).session) s

/-- The answers of a run that goes on with one more step. -/
theorem run_concat (s : Session) (steps : List Step) (todo : Step) :
    s.run (steps ++ [todo]) = s.run steps ++ [(s.after steps).step todo] := by
  induction steps generalizing s with
  | nil => rfl
  | cons first steps ih =>
    have hrest := ih (s.step first).session
    exact congrArg (List.cons (s.step first)) hrest

/-- The file overrides that the steps of a run give to the extractor at the place, in order. -/
def filesSet (s : Session) (place : Nat) : List Step → List Text
  | [] => []
  | todo :: steps => (s.setFile? place todo).toList ++ (s.step todo).session.filesSet place steps

/-- The file override that was set last is that of the steps after the first one, or else that of the
first one. -/
theorem getLastD_filesSet_cons (s : Session) (place : Nat) (todo : Step) (steps : List Step)
    (file : Text) : (s.filesSet place (todo :: steps)).getLastD file =
      ((s.step todo).session.filesSet place steps).getLastD
        ((s.setFile? place todo).getD file) := by
  rw [filesSet]
  cases s.setFile? place todo with
  | none => rfl
  | some file' => exact List.getLastD_cons

/-- No step of a run gives the name to a new object: those that would do so fail. -/
def KeepsName (s : Session) (name : String) (steps : List Step) : Prop :=
  ∀ taken ∈ steps.zip (s.run steps), taken.1.newName? = some name → taken.2.reply.isFailure = true

/-- A run keeps a name when its first step and the run after it do. -/
theorem keepsName_cons_iff {s : Session} {name : String} {todo : Step} {steps : List Step} :
    s.KeepsName name (todo :: steps) ↔
      (todo.newName? = some name → (s.step todo).reply.isFailure = true) ∧
        (s.step todo).session.KeepsName name steps := by
  simp only [KeepsName, run, List.zip_cons_cons, List.forall_mem_cons]

/-- A run keeps a name when none of its steps would give that name to an object. -/
theorem keepsName_of_forall_ne {s : Session} {name : String} {steps : List Step}
    (h : ∀ todo ∈ steps, todo.newName? ≠ some name) : s.KeepsName name steps :=
  fun _ htaken hnew => absurd hnew (h _ (List.of_mem_zip htaken).1)

/-! ## An iteration that is under way -/

/-- An iteration begins at the extractor that its name stands for. -/
theorem step_iterate {s : Session} {source : String} {place : Nat} {x : Extractor}
    (hsource : s.extractor? source = some (place, x)) (name : String) (text : Text)
    (stopsAtError : Bool) :
    s.step (.iterate name source text stopsAtError) =
      { session := s.put name (.iteration place (.start stopsAtError text)), reply := .started } := by
  unfold step step?
  dsimp only
  rw [hsource]
  rfl

/-- Under the name an iteration is under way that may stop at errors, with the extractor at the place,
which is `x` but for its file override; `left` are the findings that it has still to give, without a
file override. -/
structure Iterates (s : Session) (name : String) (place : Nat) (x : Extractor) (stopsAtError : Bool)
    (file : Text) (left : List Finding) : Prop where
  /-- The name stands for the iteration. -/
  lookup : ∃ i, s.objects.lookup name = some (.iteration place i) ∧
    i.stopsAtError = stopsAtError ∧ i.remaining (x.withFile []) = left
  /-- The extractor is at its place. -/
  extractor : s.extractors[place]? = some (x.withFile file)

namespace Iterates

variable {s : Session} {name : String} {place : Nat} {x : Extractor} {stopsAtError : Bool}
  {file : Text} {left : List Finding}

/-- An iteration that begins has to give the findings of the whole text. -/
theorem iterate {source : String} (hsource : s.extractor? source = some (place, x)) (text : Text)
    (stopsAtError : Bool) :
    (s.step (.iterate name source text stopsAtError)).session.Iterates name place x stopsAtError
      x.fileOverride ((x.withFile []).traversal stopsAtError text) := by
  obtain ⟨-, hplace⟩ := extractor?_eq_some_iff.1 hsource
  rw [step_iterate hsource]
  exact ⟨⟨_, List.lookup_cons_self, rfl, Iteration.remaining_start stopsAtError text⟩, hplace⟩

/-- An advance answers the first of the findings that are left, with the file override of the
moment, and leaves the others. -/
theorem next (h : s.Iterates name place x stopsAtError file left) :
    (s.step (.next name)).session.Iterates name place x stopsAtError file left.tail ∧
      (s.step (.next name)).reply = Reply.ofAdvance file stopsAtError left.head? := by
  obtain ⟨⟨i, hlookup, rfl, rfl⟩, hextractor⟩ := h
  have hiteration := iteration?_eq_some_iff.2 ⟨hlookup, hextractor⟩
  obtain ⟨hfirst, hrest⟩ := Iteration.advance_eq (x.withFile []) i
  have hadvance : i.advance (x.withFile file) = _ := Iteration.advance_withFile i
  rw [step_next hiteration, hadvance, hfirst]
  have hleft : (s.put name (.iteration place (i.advance (x.withFile [])).2)).Iterates name place x
      i.stopsAtError file (i.remaining (x.withFile [])).tail :=
    ⟨⟨_, List.lookup_cons_self, Iteration.stopsAtError_advance _ i, hrest⟩, hextractor⟩
  rcases (i.remaining (x.withFile [])).head? with _ | e | r <;> exact ⟨hleft, rfl⟩

/-- A step that does not advance the iteration and does not give its name away leaves it as it is,
but for the file override that it may set. -/
theorem other (h : s.Iterates name place x stopsAtError file left) {todo : Step}
    (hother : todo.advances name = false)
    (hname : todo.newName? = some name → (s.step todo).reply.isFailure = true) :
    (s.step todo).session.Iterates name place x stopsAtError ((s.setFile? place todo).getD file)
      left := by
  obtain ⟨⟨i, hlookup, hleft⟩, hextractor⟩ := h
  refine ⟨⟨i, ?_, hleft⟩, extractor_step hextractor todo⟩
  cases effect_step s todo with
  | keep hobjects => rw [hobjects, hlookup]
  | create name' object hnew hreply hobjects =>
    have hne : name ≠ name' := by
      rintro rfl
      rw [hname hnew] at hreply
      cases hreply
    rw [hobjects]
    exact (lookup_put_of_ne hne s object).trans hlookup
  | setFile place' file' hobjects => rw [hobjects, hlookup]
  | advance name' object hnext hobjects =>
    have hne : name ≠ name' := by
      rintro rfl
      rw [Step.advances_eq_true_iff.2 hnext] at hother
      cases hother
    rw [hobjects]
    exact (lookup_put_of_ne hne s object).trans hlookup

/-- After a run that keeps its name, an iteration has given as many findings as there were advances
of it, and its extractor has the file override that was set last. -/
theorem after (h : s.Iterates name place x stopsAtError file left) {steps : List Step}
    (hname : s.KeepsName name steps) :
    (s.after steps).Iterates name place x stopsAtError
      ((s.filesSet place steps).getLastD file) (left.drop (steps.countP (Step.advances name))) := by
  induction steps generalizing s file left with
  | nil => exact h
  | cons todo steps ih =>
    obtain ⟨hfirst, hname⟩ := keepsName_cons_iff.1 hname
    rw [getLastD_filesSet_cons]
    cases hadvances : todo.advances name with
    | false =>
      rw [List.countP_cons_of_neg (by rw [hadvances]; decide)]
      exact ih (h.other hadvances hfirst) hname
    | true =>
      obtain rfl := Step.advances_eq_true_iff.1 hadvances
      have hrest := ih h.next.1 hname
      rw [List.drop_tail] at hrest
      rw [List.countP_cons_of_pos hadvances]
      exact hrest

end Iterates

/-- An iteration begins in any session, and steps of any kind follow that do not give its name away.
If `k` of them advance the iteration, then one more advance gives the finding number `k` that the
extractor without its file override finds in the text, a record being in the file that was set last
for the extractor, by then; if there is no such finding, the iteration is over. Where it stops at
errors, the error is raised. And the advances of any iteration may be left out of all these steps,
without a change of what the others answer. -/
theorem reply_next_eq_traversal {s : Session} {source : String} {place : Nat} {x : Extractor}
    (hsource : s.extractor? source = some (place, x)) (name : String) (text : Text)
    (stopsAtError : Bool) (steps : List Step)
    (hname : (s.step (.iterate name source text stopsAtError)).session.KeepsName name steps) :
    let first : Step := .iterate name source text stopsAtError
    let taken := first :: (steps ++ [.next name])
    (s.run taken).getLast?.map Answer.reply =
        some (Reply.ofAdvance ((s.filesSet place (first :: steps)).getLastD x.fileOverride)
          stopsAtError
          (((x.withFile []).traversal stopsAtError text)[steps.countP (Step.advances name)]?)) ∧
      ∀ other, s.answersBut other taken =
        s.answers (taken.filter fun todo => !todo.advances other) := by
  intro first taken
  refine ⟨?_, fun other => s.answersBut_eq other taken⟩
  obtain ⟨-, hreply⟩ := ((Iterates.iterate hsource text stopsAtError).after hname).next
  rw [List.head?_drop] at hreply
  have hlast : (s.run taken).getLast? = some ((s.after (first :: steps)).step (.next name)) := by
    have hrun : s.run taken = _ := run_concat s (first :: steps) (.next name)
    rw [hrun, List.getLast?_concat]
  rw [hlast]
  exact congrArg some hreply

/-- The second advance gives the second record, in the file that was set in between, although another
iteration over the same extractor was advanced as well. That one raises its error, and is over. -/
theorem reply_next_other_file :
    let s : Session :=
      { objects := [("x", .extractor 0)], extractors := [Extractor.passthrough] }
    let first : Step := .iterate "i" "x" "a:1:2: error: b\nc:3:4: warning: d".toList false
    let raising : Step := .iterate "j" "x" "p:0:1: error: q".toList true
    let steps : List Step := [.next "i", raising, .setFile "x" "g".toList, .next "j"]
    let taken := first :: (steps ++ [.next "i"])
    s.extractor? "x" = some (0, Extractor.passthrough) ∧
      (s.step first).session.KeepsName "i" steps ∧
      (s.run taken).getLast?.map Answer.reply =
        some (.finding (.ok ⟨"g".toList, 3, 4, .warning, "d".toList⟩)) ∧
      s.answersBut "j" taken = s.answers (taken.filter fun todo => !todo.advances "j") ∧
      (s.step raising).session.KeepsName "j" [.next "j"] ∧
      (s.run [raising, .next "j"]).getLast?.map Answer.reply =
        some (.failure (.extraction
          (.invalidNumber "line".toList "0".toList "p:0:1: error: q".toList))) ∧
      (s.run [raising, .next "j", .next "j"]).getLast?.map Answer.reply = some .finished := by
  intro s first raising steps taken
  have hsource : s.extractor? "x" = some (0, Extractor.passthrough) := rfl
  have hname : (s.step first).session.KeepsName "i" steps := keepsName_of_forall_ne (by decide)
  have hraising : (s.step raising).session.KeepsName "j" [.next "j"] :=
    keepsName_of_forall_ne (by decide)
  obtain ⟨hreply, hothers⟩ := reply_next_eq_traversal hsource "i" _ false steps hname
  have hset : (s.filesSet 0 (first :: steps)).getLastD Extractor.passthrough.fileOverride =
      "g".toList := by decide +kernel
  have hsecond : ((Extractor.passthrough.withFile []).traversal false
      "a:1:2: error: b\nc:3:4: warning: d".toList)[steps.countP (Step.advances "i")]? =
        some (.ok ⟨"c".toList, 3, 4, .warning, "d".toList⟩) := by decide +kernel
  rw [hset, hsecond] at hreply
  have herror : (Extractor.passthrough.withFile []).traversal true "p:0:1: error: q".toList =
      [.error (.invalidNumber "line".toList "0".toList "p:0:1: error: q".toList)] := by
    decide +kernel
  obtain ⟨hraised, -⟩ := reply_next_eq_traversal hsource "j" "p:0:1: error: q".toList true []
    (keepsName_of_forall_ne (by decide))
  obtain ⟨hover, -⟩ := reply_next_eq_traversal hsource "j" "p:0:1: error: q".toList true
    [.next "j"] hraising
  rw [herror] at hraised hover
  exact ⟨hsource, hname, hreply, hothers "j", hraising, hraised, hover⟩

end Session

end Diagnostics
