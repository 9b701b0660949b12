import Diagnostics.Proofs.Advances
import Diagnostics.Proofs.Findings

/-!
# Strict and lenient extractions

What an extractor finds in a text is read in three ways: an iteration gives the findings one by one,
an outcome sorts them into records and errors, and a rendering writes the lines of the records. A
strict rendering fails with the first error, a lenient one leaves the errors out and names them as
warnings. All of them tell the same story. The findings that an iteration gives until it is over
are settled (`Iteration.gives_iff`), the outcome is their records and their errors
(`Outcome.ofFindings_eq`), and so is what a rendering writes (`Extractor.render_strict_eq`,
`Extractor.render_lenient_eq`) and the warnings that it prints (`Extractor.filter_renderNotices_eq`).
`render_strict_agrees_lenient` puts them together.
-/

namespace Diagnostics

variable {x : Extractor} {findings : List Finding}

/-! ## Findings one by one -/

/-- Advanced again and again, the iteration gives these findings, and then it is over. -/
inductive Iteration.Gives (x : Extractor) : Iteration → List Finding → Prop where
  /-- The iteration is over. -/
  | over {i : Iteration} : (i.advance x).1 = none → Gives x i []
  /-- The iteration gives a finding, and then the others. -/
  | more {i : Iteration} {finding : Finding} {findings : List Finding} :
    (i.advance x).1 = some finding → Gives x (i.advance x).2 findings →
    Gives x i (finding :: findings)

/-- An iteration gives the findings that remain, and no others. -/
theorem Iteration.gives_iff {i : Iteration} : Gives x i findings ↔ findings = i.remaining x := by
  induction findings generalizing i with
  | nil =>
    obtain ⟨hfirst, -⟩ := i.advance_eq x
    constructor
    · rintro ⟨hover⟩
      rw [hfirst, List.head?_eq_none_iff] at hover
      exact hover.symm
    · intro hremaining
      exact .over (by rw [hfirst, ← hremaining]; rfl)
  | cons finding findings ih =>
    obtain ⟨hfirst, hrest⟩ := i.advance_eq x
    constructor
    · rintro (_ | ⟨hgiven, hothers⟩)
      rw [hfirst, List.head?_eq_some_iff] at hgiven
      obtain ⟨others, hremaining⟩ := hgiven
      rw [ih, hrest, hremaining, List.tail_cons] at hothers
      rw [hremaining, hothers]
    · intro hremaining
      refine .more (by rw [hfirst, ← hremaining]; rfl) (ih.2 ?_)
      rw [hrest, ← hremaining, List.tail_cons]

/-! ## Renderings -/

/-- A lenient rendering gives the lines of the records. -/
theorem Extractor.render_lenient_eq (x : Extractor) (t : Text) :
    x.render false t = .ok (((x.findings t).filterMap Finding.record?).map Record.render) := by
  rw [render, Outcome.ofFindings_eq]
  rfl

/-- What a lenient rendering tells the user outside of verbose mode is a warning for each error. -/
theorem Extractor.filter_renderNotices_eq (x : Extractor) (t : Text) :
    (x.renderNotices false t).filter (fun n => !n.isVerbose) =
      ((x.findings t).filterMap Finding.error?).map .skipped := by
  have hfound : ∀ findings : List Finding,
      (findings.map Notice.ofFinding).filter (fun n => !n.isVerbose) = [] := by
    intro findings
    refine List.filter_eq_nil_iff.2 fun n hn => ?_
    obtain ⟨finding, -, rfl⟩ := List.mem_map.1 hn
    cases finding <;> simp [Notice.ofFinding, Notice.isVerbose]
  have hskipped : ∀ errors : List ExtractionError,
      (errors.map Notice.skipped).filter (fun n => !n.isVerbose) = errors.map .skipped := by
    intro errors
    refine List.filter_eq_self.2 fun n hn => ?_
    obtain ⟨e, -, rfl⟩ := List.mem_map.1 hn
    rfl
  calc (x.renderNotices false t).filter (fun n => !n.isVerbose)
      = ((x.findings t).map Notice.ofFinding).filter (fun n => !n.isVerbose) ++
          ((Outcome.ofFindings (x.findings t)).errors.map Notice.skipped).filter
            (fun n => !n.isVerbose) := List.filter_append ..
    _ = (Outcome.ofFindings (x.findings t)).errors.map .skipped := by
        rw [hfound, hskipped, List.nil_append]
    _ = ((x.findings t).filterMap Finding.error?).map .skipped := by rw [Outcome.ofFindings_eq]

/-- Strict and lenient extractions agree. There are findings that the iteration over the text gives
and no others; an iteration that stops at errors gives them up to the first error. The outcome of
the text is their records and their errors, each in order. A lenient rendering succeeds with the
lines of the records and warns of each error; a strict one fails with the first error, and without
one is the same as the lenient one, which then does not warn. -/
theorem render_strict_agrees_lenient (x : Extractor) (t : Text) : ∃ findings : List Finding,
    (∀ others, (Iteration.start false t).Gives x others ↔ others = findings) ∧
      (∀ others, (Iteration.start true t).Gives x others ↔ others = upToError findings) ∧
      x.parse t = ⟨findings.filterMap Finding.record?, findings.filterMap Finding.error?⟩ ∧
      x.render false t = .ok ((findings.filterMap Finding.record?).map Record.render) ∧
      (x.renderNotices false t).filter (fun n => !n.isVerbose) =
        (findings.filterMap Finding.error?).map .skipped ∧
      x.render true t =
        (findings.filterMap Finding.error?).head?.elim (x.render false t) .error := by
  refine ⟨x.findings t, fun others => ?_, fun others => ?_, ?_, ?_, ?_, ?_⟩
  · exact Iteration.gives_iff
  · exact Iteration.gives_iff
  · exact Outcome.ofFindings_eq _
  · exact x.render_lenient_eq t
  · exact x.filter_renderNotices_eq t
  · rw [x.render_strict_eq, x.render_lenient_eq]

end Diagnostics
