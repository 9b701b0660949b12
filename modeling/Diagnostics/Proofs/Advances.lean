import Diagnostics.Extraction.Iteration
import Diagnostics.Notice

/-!
# Findings one at a time and all at once

An iteration gives, one by one, the findings that `Extractor.findings` lists. What it has still to
give is `Iteration.remaining`; an advance gives the first of these findings and leaves the others
(`Iteration.advance_eq`). The file override of the extractor makes a difference to the records that
are given and to nothing else (`Iteration.advance_withFile`), so it may change from one advance to
the next.
-/

namespace Diagnostics

/-- The finding, with the file of a record replaced unless `file` is empty. -/
def Finding.inFile (file : Text) (finding : Finding) : Finding :=
  finding.map fun r => if file = [] then r else { r with file := file }

/-- The matches that are left are the next one and those that are left after it. -/
theorem Scan.all_eq (pattern : Pattern) (s : Scan) :
    s.all pattern = match s.next? pattern with
      | none => []
      | some (m, s') => m :: s'.all pattern := by
  rw [Scan.all]
  split
  · rename_i hnone
    rw [hnone]
  · rename_i m s' hsome
    simp only [hsome]

namespace Extractor

/-- The extractor with another file override. -/
def withFile (x : Extractor) (file : Text) : Extractor :=
  { x with fileOverride := file }

variable {x : Extractor} {file : Text}

/-- The file override only replaces the file of the record that is found. -/
theorem findingOf_withFile (x : Extractor) (file : Text) (m : Match) :
    (x.withFile file).findingOf m = ((x.withFile []).findingOf m).map (Finding.inFile file) := by
  have hrecord : x.template.recordOf x.vocabulary file m =
      Finding.inFile file (x.template.recordOf x.vocabulary [] m) := by
    unfold Template.recordOf Finding.inFile
    cases (x.template.tokens.zip m.groups).foldlM
      (fun r part => Template.fill x.vocabulary m.text r part.1 part.2) {} <;> rfl
  unfold findingOf withFile
  dsimp only
  rw [hrecord]
  cases x.template.isMessage m <;> rfl

/-- The findings that a search has still to come to. -/
def findingsFrom (x : Extractor) (s : Scan) : List Finding :=
  (s.all x.pattern).filterMap x.findingOf

/-- The next finding is that of the next match, unless this is no message. -/
theorem next?_eq (x : Extractor) (s : Scan) :
    x.next? s = match s.next? x.pattern with
      | none => none
      | some (m, s') =>
        match x.findingOf m with
        | some finding => some (finding, s')
        | none => x.next? s' := by
  rw [next?]
  split
  · rename_i hnone
    rw [hnone]
  · rename_i m s' hsome
    cases hfinding : x.findingOf m <;> simp only [hsome, hfinding]

/-- The findings that are left are the next one and those that are left after it. -/
theorem findingsFrom_eq (x : Extractor) (s : Scan) :
    x.findingsFrom s = match x.next? s with
      | none => []
      | some (finding, s') => finding :: x.findingsFrom s' := by
  fun_induction x.next? s with
  | case1 s hnone => rw [findingsFrom, Scan.all_eq, hnone]; rfl
  | case2 s m s' hsome _ finding hfinding =>
    rw [findingsFrom, Scan.all_eq, hsome]
    exact List.filterMap_cons_some hfinding
  | case3 s m s' hsome _ hfinding ih =>
    rw [← ih, findingsFrom, Scan.all_eq, hsome]
    exact List.filterMap_cons_none hfinding

/-- The file override only replaces the file of the next record, and the search goes on in the same
way. -/
theorem next?_withFile (s : Scan) : (x.withFile file).next? s =
    ((x.withFile []).next? s).map fun next => (Finding.inFile file next.1, next.2) := by
  fun_induction (x.withFile []).next? s with
  | case1 s hnone =>
    have hnone' : s.next? (x.withFile file).pattern = none := hnone
    rw [next?_eq, hnone']
    rfl
  | case2 s m s' hsome _ finding hfinding =>
    have hsome' : s.next? (x.withFile file).pattern = some (m, s') := hsome
    have hfinding' := findingOf_withFile x file m
    rw [hfinding] at hfinding'
    rw [next?_eq, hsome']
    dsimp only
    rw [hfinding']
    rfl
  | case3 s m s' hsome _ hfinding ih =>
    have hsome' : s.next? (x.withFile file).pattern = some (m, s') := hsome
    have hfinding' := findingOf_withFile x file m
    rw [hfinding] at hfinding'
    rw [next?_eq, hsome']
    dsimp only
    rw [hfinding']
    exact ih

/-- The findings in a text as a traversal gives them that ends with the first error, if it stops at
errors. -/
def traversal (x : Extractor) (stopsAtError : Bool) (t : Text) : List Finding :=
  if stopsAtError then upToError (x.findings t) else x.findings t

end Extractor

namespace Iteration

variable {x : Extractor} {file : Text}

/-- The findings that an iteration has still to give. -/
def remaining (x : Extractor) (i : Iteration) : List Finding :=
  match i.scan with
  | none => []
  | some s => if i.stopsAtError then upToError (x.findingsFrom s) else x.findingsFrom s

/-- At its start an iteration has to give all findings of the text. -/
theorem remaining_start (stopsAtError : Bool) (t : Text) :
    (start stopsAtError t).remaining x = x.traversal stopsAtError t := rfl

/-- An advance of an iteration that is not over goes on as the search does. -/
theorem advance_some (x : Extractor) (s : Scan) (stopsAtError : Bool) :
    advance x ⟨some s, stopsAtError⟩ = match x.next? s with
      | none => (none, ⟨none, stopsAtError⟩)
      | some (finding, s') =>
        (some finding, ⟨if endsWith ⟨some s, stopsAtError⟩ finding then none else some s',
          stopsAtError⟩) := rfl

/-- An advance gives the first of the findings that remain, and the others remain after it. -/
theorem advance_eq (x : Extractor) (i : Iteration) :
    (i.advance x).1 = (i.remaining x).head? ∧
      (i.advance x).2.remaining x = (i.remaining x).tail := by
  obtain ⟨_ | s, stopsAtError⟩ := i
  · exact ⟨rfl, rfl⟩
  have hleft := x.findingsFrom_eq s
  rw [advance_some]
  simp only [remaining]
  cases hnext : x.next? s with
  | none =>
    rw [hnext] at hleft
    rw [hleft]
    cases stopsAtError <;> exact ⟨rfl, rfl⟩
  | some next =>
    obtain ⟨finding, s'⟩ := next
    rw [hnext] at hleft
    rw [hleft]
    -- After an error nothing remains if the iteration stops there.
    cases stopsAtError <;> cases finding <;> exact ⟨rfl, rfl⟩

/-- Whether an iteration stops at errors does not change as it goes on. -/
theorem stopsAtError_advance (x : Extractor) (i : Iteration) :
    (i.advance x).2.stopsAtError = i.stopsAtError := by
  unfold advance
  split <;> rfl

/-- The file override only replaces the file of the record that is given. -/
theorem advance_withFile (i : Iteration) : i.advance (x.withFile file) =
    ((i.advance (x.withFile [])).1.map (Finding.inFile file), (i.advance (x.withFile [])).2) := by
  obtain ⟨_ | s, stopsAtError⟩ := i
  · rfl
  rw [advance_some, advance_some, Extractor.next?_withFile]
  cases (x.withFile []).next? s with
  | none => rfl
  | some next =>
    obtain ⟨finding, s'⟩ := next
    cases finding <;> rfl

end Iteration

end Diagnostics
