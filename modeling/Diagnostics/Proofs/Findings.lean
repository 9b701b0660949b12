import Mathlib.Data.List.Forall2
import Diagnostics.Extraction.Extractor
import Diagnostics.Proofs.Numeral

/-!
# Findings of an extractor

What a proof needs to know of extractors in general. Every extractor is made by `ofTemplate` from its
template, its vocabulary and its file override (`Extractor.ofTemplate_eq_ok`,
`Extractor.eq_of_ofTemplate_eq_ok`). A match makes no record only where one of its groups cannot be
filled in (`Template.fill_eq_error`). The findings are sorted into records and errors, each in their
order (`Outcome.ofFindings_eq`), and a strict extraction fails with the first error
(`Extractor.render_strict_eq`).
-/

namespace Diagnostics

/-! ## Failures -/

/-- A computation in two parts that succeeds has succeeded in the first part, and then in the
second. -/
theorem exists_of_bind_eq_ok {ε α β : Type} {x : Except ε α} {f : α → Except ε β} {b : β}
    (h : x.bind f = .ok b) : ∃ a, x = .ok a ∧ f a = .ok b := by
  cases x with
  | error e => cases h
  | ok a => exact ⟨a, rfl, h⟩

/-- A computation that goes through a list goes on with what its first step gives. -/
theorem foldlM_cons_of_eq_ok {ε α β : Type} {f : β → α → Except ε β} {a : α} {as : List α} {b b' : β}
    (h : f b a = .ok b') : (a :: as).foldlM f b = as.foldlM f b' := by
  rw [List.foldlM_cons, h]
  rfl

/-- A computation that goes through a list fails when it comes, by steps that succeed, to a member
at which it fails. -/
theorem foldlM_eq_error_iff {ε α β : Type} {f : β → α → Except ε β} {as : List α} {b : β} {e : ε} :
    as.foldlM f b = .error e ↔ ∃ before a after b', as = before ++ a :: after ∧
      before.foldlM f b = .ok b' ∧ f b' a = .error e := by
  constructor
  · intro h
    induction as generalizing b with
    | nil => cases h
    | cons a as ih =>
      cases hfirst : f b a with
      | error e' =>
        rw [List.foldlM_cons, hfirst] at h
        obtain rfl : e' = e := Except.error.inj h
        exact ⟨[], a, as, b, rfl, rfl, hfirst⟩
      | ok b' =>
        rw [foldlM_cons_of_eq_ok hfirst] at h
        obtain ⟨before, a', after, b'', rfl, hbefore, hfail⟩ := ih h
        exact ⟨a :: before, a', after, b'', rfl, (foldlM_cons_of_eq_ok hfirst).trans hbefore, hfail⟩
  · rintro ⟨before, a, after, b', rfl, hbefore, hfail⟩
    rw [List.foldlM_append, hbefore]
    change (a :: after).foldlM f b' = .error e
    rw [List.foldlM_cons, hfail]
    rfl

/-- A computation that goes through a list succeeds when it takes every member, if it depends on the
member alone whether it does so. It then comes to what its steps come to. -/
theorem foldlM_eq_ok_iff {ε α β : Type} {f : β → α → Except ε β} {p : α → Prop} {g : β → α → β}
    (h : ∀ b a b', f b a = .ok b' ↔ p a ∧ b' = g b a) {as : List α} {b b' : β} :
    as.foldlM f b = .ok b' ↔ (∀ a ∈ as, p a) ∧ b' = as.foldl g b := by
  induction as generalizing b with
  | nil =>
    rw [List.foldlM_nil, List.foldl_nil]
    exact ⟨fun heq => ⟨List.forall_mem_nil p, (Except.ok.inj heq).symm⟩, fun ⟨_, heq⟩ => heq ▸ rfl⟩
  | cons a as ih =>
    rw [List.forall_mem_cons, List.foldl_cons, and_assoc, ← ih]
    constructor
    · intro hfold
      obtain ⟨b₁, hfirst, hrest⟩ := exists_of_bind_eq_ok (List.foldlM_cons.symm.trans hfold)
      obtain ⟨ha, rfl⟩ := (h b a b₁).1 hfirst
      exact ⟨ha, hrest⟩
    · rintro ⟨ha, hrest⟩
      exact (foldlM_cons_of_eq_ok ((h b a _).2 ⟨ha, rfl⟩)).trans hrest

/-- A result that is changed on success is a failure exactly when it was one before. -/
theorem map_eq_error_iff {ε α β : Type} {f : α → β} {x : Except ε α} {e : ε} :
    x.map f = .error e ↔ x = .error e := by
  cases x <;> simp [Except.map]

/-- A result that is changed on success is a success exactly when it was one before. -/
theorem map_eq_ok_iff {ε α β : Type} {f : α → β} {x : Except ε α} {b : β} :
    x.map f = .ok b ↔ ∃ a, x = .ok a ∧ b = f a := by
  cases x <;> simp [Except.map, eq_comm]

/-- A result whose error is changed on failure is a success exactly when it was one before. -/
theorem mapError_eq_ok_iff {ε ε' α : Type} {f : ε → ε'} {x : Except ε α} {a : α} :
    x.mapError f = .ok a ↔ x = .ok a := by
  cases x <;> simp [Except.mapError]

/-- A result whose error is changed on failure was a failure before. -/
theorem exists_of_mapError_eq_error {ε ε' α : Type} {f : ε → ε'} {x : Except ε α} {e : ε'}
    (h : x.mapError f = .error e) : ∃ e', x = .error e' := by
  cases x with
  | error e' => exact ⟨e', rfl⟩
  | ok a => cases h

/-- A computation on the members of a list succeeds when it does so on every one of them. -/
theorem mapM_eq_ok_iff {ε α β : Type} {f : α → Except ε β} {as : List α} {bs : List β} :
    as.mapM f = .ok bs ↔ List.Forall₂ (fun a b => f a = .ok b) as bs := by
  induction as generalizing bs with
  | nil =>
    rw [List.mapM_nil, List.forall₂_nil_left_iff]
    exact ⟨fun h => (Except.ok.inj h).symm, fun h => congrArg _ h.symm⟩
  | cons a as ih =>
    rw [List.mapM_cons]
    constructor
    · intro h
      obtain ⟨b, hb, hrest⟩ := exists_of_bind_eq_ok h
      obtain ⟨bs', hbs', hpure⟩ := exists_of_bind_eq_ok hrest
      obtain rfl := Except.ok.inj hpure
      exact .cons hb (ih.1 hbs')
    · rintro (_ | ⟨hb, hbs⟩)
      rw [hb, ih.2 hbs]
      rfl

/-- A computation on the members of a list that succeeds has succeeded on each of them. -/
theorem exists_of_mapM_eq_ok {ε α β : Type} {f : α → Except ε β} {as : List α} {bs : List β} {a : α}
    (h : as.mapM f = .ok bs) (ha : a ∈ as) : ∃ b, f a = .ok b := by
  have hall : List.Forall₂ (fun a b => (∃ b, f a = .ok b) ∧ f a = .ok b) as bs :=
    (mapM_eq_ok_iff.1 h).imp fun a b hok => ⟨⟨b, hok⟩, hok⟩
  exact (List.forall₂_and_left as bs).1 hall |>.1 a ha

/-- A computation on the members of a list that fails has failed on one of them. -/
theorem exists_of_mapM_eq_error {ε α β : Type} {f : α → Except ε β} {as : List α} {e : ε}
    (h : as.mapM f = .error e) : ∃ a ∈ as, f a = .error e := by
  induction as with
  | nil => cases h
  | cons a as ih =>
    rw [List.mapM_cons] at h
    cases hfirst : f a with
    | error e' =>
      rw [hfirst] at h
      obtain rfl : e' = e := Except.error.inj h
      exact ⟨a, List.mem_cons_self, hfirst⟩
    | ok b =>
      rw [hfirst] at h
      cases hrest : as.mapM f with
      | error e' =>
        rw [hrest] at h
        obtain rfl : e' = e := Except.error.inj h
        obtain ⟨a', hmem, hfail⟩ := ih hrest
        exact ⟨a', List.mem_cons_of_mem a hmem, hfail⟩
      | ok bs =>
        rw [hrest] at h
        cases h

/-- What comes of a computation on the members of a list comes of one of them. -/
theorem exists_of_mem_of_mapM_eq_ok {ε α β : Type} {f : α → Except ε β} {as : List α} {bs : List β}
    {b : β} (h : as.mapM f = .ok bs) (hb : b ∈ bs) : ∃ a ∈ as, f a = .ok b := by
  have hall := mapM_eq_ok_iff.1 h
  clear h
  induction hall with
  | nil => cases hb
  | cons ha _ ih =>
    rcases List.mem_cons.1 hb with rfl | hb
    · exact ⟨_, List.mem_cons_self, ha⟩
    · obtain ⟨a, hmem, hok⟩ := ih hb
      exact ⟨a, List.mem_cons_of_mem _ hmem, hok⟩

/-- A computation that succeeds on every member of a list succeeds on the list. -/
theorem exists_mapM_eq_ok {ε α β : Type} {f : α → Except ε β} {as : List α}
    (h : ∀ a ∈ as, ∃ b, f a = .ok b) : ∃ bs, as.mapM f = .ok bs := by
  cases hmapM : as.mapM f with
  | ok bs => exact ⟨bs, rfl⟩
  | error e =>
    obtain ⟨a, ha, hfail⟩ := exists_of_mapM_eq_error hmapM
    obtain ⟨b, hok⟩ := h a ha
    cases hfail.symm.trans hok

/-! ## Groups -/

section

variable {vocabulary : Vocabulary} {matched group word : Text} {r : Record} {e : ExtractionError}

/-- A word has the kind that the vocabulary gives to it. -/
theorem Vocabulary.kindOf_eq_ok_iff {kind : Kind} :
    vocabulary.kindOf word matched = .ok kind ↔ vocabulary.find? word = some kind := by
  rw [kindOf]
  cases vocabulary.find? word <;> simp

/-- A word that has no kind is refused, and the error names it. -/
theorem Vocabulary.kindOf_eq_error_iff : vocabulary.kindOf word matched = .error e ↔
    vocabulary.find? word = none ∧ e = .ofWord word matched := by
  rw [kindOf]
  cases vocabulary.find? word <;> simp [eq_comm]

/-- The group of a line is read as a number. -/
theorem Template.fill_line_eq : fill vocabulary matched r (.placeholder .line) group =
    (readPositive "line".toList group matched).map fun n => { r with line := (n : Int) } := by
  rw [fill]
  cases readPositive "line".toList group matched <;> rfl

/-- The group of a column is read as a number. -/
theorem Template.fill_column_eq : fill vocabulary matched r (.placeholder .column) group =
    (readPositive "column".toList group matched).map fun n => { r with column := (n : Int) } := by
  rw [fill]
  cases readPositive "column".toList group matched <;> rfl

/-- A word that has a kind fills it in. -/
theorem Template.fill_kind_of_find? {kind : Kind} (h : vocabulary.find? word = some kind) :
    fill vocabulary matched r (.placeholder .kind) word = .ok { r with kind := kind } := by
  rw [fill, Vocabulary.kindOf_eq_ok_iff.2 h]
  rfl

/-- A group that cannot be filled in is an unknown kind, or the number of a line or a column, and the
error names it. -/
theorem Template.fill_eq_error {token : Token}
    (h : fill vocabulary matched r token group = .error e) :
    (token = .placeholder .kind ∧ vocabulary.find? group = none ∧ e = .ofWord group matched) ∨
      (token = .placeholder .line ∧ e = .ofNumber "line".toList group matched) ∨
      (token = .placeholder .column ∧ e = .ofNumber "column".toList group matched) := by
  rcases token with (_ | _ | _ | _ | _ | _ | _) | _
  case placeholder.line =>
    rw [fill_line_eq, map_eq_error_iff, readPositive_eq_error_iff] at h
    exact Or.inr (Or.inl ⟨rfl, h.2⟩)
  case placeholder.column =>
    rw [fill_column_eq, map_eq_error_iff, readPositive_eq_error_iff] at h
    exact Or.inr (Or.inr ⟨rfl, h.2⟩)
  case placeholder.kind =>
    rw [fill, map_eq_error_iff, Vocabulary.kindOf_eq_error_iff] at h
    exact Or.inl ⟨rfl, h⟩
  all_goals simp [fill] at h

end

/-- A match that makes no record has a group that cannot be filled in. -/
theorem Template.exists_fill_of_recordOf_eq_error {t : Template} {vocabulary : Vocabulary}
    {fileOverride : Text} {m : Match} {e : ExtractionError}
    (h : t.recordOf vocabulary fileOverride m = .error e) :
    ∃ part ∈ t.tokens.zip m.groups, ∃ r, fill vocabulary m.text r part.1 part.2 = .error e := by
  obtain ⟨before, part, after, r, hparts, -, hfill⟩ := foldlM_eq_error_iff.1 (map_eq_error_iff.1 h)
  exact ⟨part, hparts ▸ List.mem_append_right before List.mem_cons_self, r, hfill⟩

/-! ## Sorting findings -/

/-- The record that was found, unless it was an error. -/
def Finding.record? : Finding → Option Record
  | .ok r => some r
  | .error _ => none

/-- The error that was found, unless it was a record. -/
def Finding.error? : Finding → Option ExtractionError
  | .ok _ => none
  | .error e => some e

/-- The record of a finding. -/
theorem Finding.record?_eq_some_iff {finding : Finding} {r : Record} :
    finding.record? = some r ↔ finding = .ok r := by
  cases finding <;> simp [record?]

/-- The error of a finding. -/
theorem Finding.error?_eq_some_iff {finding : Finding} {e : ExtractionError} :
    finding.error? = some e ↔ finding = .error e := by
  cases finding <;> simp [error?]

/-- An outcome has the records among the findings and the errors among them, in their order. -/
theorem Outcome.ofFindings_eq (findings : List Finding) :
    ofFindings findings =
      ⟨findings.filterMap Finding.record?, findings.filterMap Finding.error?⟩ := by
  induction findings with
  | nil => rfl
  | cons finding findings ih =>
    cases finding with
    | ok r => rw [ofFindings, ih]; rfl
    | error e => rw [ofFindings, ih]; rfl

/-- Every finding is a record or an error, and none is both. -/
theorem Outcome.length_ofFindings (findings : List Finding) :
    (ofFindings findings).records.length + (ofFindings findings).errors.length =
      findings.length := by
  induction findings with
  | nil => rfl
  | cons finding findings ih =>
    cases finding <;> simp only [ofFindings, List.length_cons] <;> omega

/-- The findings are records only, and no errors. -/
theorem Outcome.ofFindings_eq_iff {findings : List Finding} {records : List Record} :
    ofFindings findings = ⟨records, []⟩ ↔ findings = records.map .ok := by
  induction findings generalizing records with
  | nil => cases records <;> simp [ofFindings]
  | cons finding findings ih =>
    cases finding with
    | error e => cases records <;> simp [ofFindings]
    | ok r =>
      cases records with
      | nil => simp [ofFindings]
      | cons r' records =>
        rw [List.map_cons, List.cons.injEq, ← ih, ofFindings]
        cases ofFindings findings
        simp [and_assoc]

/-- The records of an outcome are the findings that are records. -/
theorem Outcome.mem_records_ofFindings {findings : List Finding} {r : Record} :
    r ∈ (ofFindings findings).records ↔ .ok r ∈ findings := by
  rw [ofFindings_eq, List.mem_filterMap]
  simp only [Finding.record?_eq_some_iff, exists_eq_right]

/-- The errors of an outcome are the findings that are errors. -/
theorem Outcome.mem_errors_ofFindings {findings : List Finding} {e : ExtractionError} :
    e ∈ (ofFindings findings).errors ↔ .error e ∈ findings := by
  rw [ofFindings_eq, List.mem_filterMap]
  simp only [Finding.error?_eq_some_iff, exists_eq_right]

/-- A strict rendering fails with the first error. Without one it gives the lines of the records. -/
theorem Extractor.render_strict_eq (x : Extractor) (t : Text) :
    x.render true t = ((x.findings t).filterMap Finding.error?).head?.elim
      (.ok (((x.findings t).filterMap Finding.record?).map Record.render)) .error := by
  have hmapM : ∀ findings : List Finding,
      findings.mapM (fun finding => finding.map Record.render) =
        (findings.filterMap Finding.error?).head?.elim
          (.ok ((findings.filterMap Finding.record?).map Record.render)) .error := by
    intro findings
    induction findings with
    | nil => rfl
    | cons finding findings ih =>
      rw [List.mapM_cons, ih]
      cases finding with
      | error e => rfl
      | ok r =>
        -- The first finding is no error, so the first error is that of the others.
        have herrors : (Except.ok r :: findings).filterMap Finding.error? =
            findings.filterMap Finding.error? := rfl
        rw [herrors]
        cases (findings.filterMap Finding.error?).head? <;> rfl
  exact hmapM (x.findings t)

/-- A rendering fails when it is strict and there is an error. -/
theorem Extractor.exists_render_eq_error_iff {x : Extractor} {strict : Bool} {t : Text} :
    (∃ e, x.render strict t = .error e) ↔ strict = true ∧ ∃ e, .error e ∈ x.findings t := by
  cases strict with
  | false => exact iff_of_false (fun ⟨_, h⟩ => nomatch h) (fun ⟨h, _⟩ => nomatch h)
  | true =>
    rw [eq_self, true_and]
    constructor
    · rintro ⟨e, h⟩
      obtain ⟨finding, hmem, hfail⟩ := exists_of_mapM_eq_error h
      exact ⟨e, map_eq_error_iff.1 hfail ▸ hmem⟩
    · rintro ⟨e, hmem⟩
      cases h : x.render true t with
      | error e' => exact ⟨e', rfl⟩
      | ok lines =>
        obtain ⟨line, hline⟩ := exists_of_mapM_eq_ok h hmem
        cases hline

/-- Where nothing malformed is found, a strict extraction gives the lines of the records. -/
theorem Extractor.render_strict_of_findings_eq {x : Extractor} {t : Text} {records : List Record}
    (h : x.findings t = records.map .ok) : x.render true t = .ok (records.map Record.render) := by
  obtain ⟨hrecords, herrors⟩ :=
    Outcome.mk.inj ((Outcome.ofFindings_eq _).symm.trans (Outcome.ofFindings_eq_iff.2 h))
  rw [render_strict_eq, hrecords, herrors]
  rfl

/-- So does every extraction, whether it is strict or not. -/
theorem Extractor.render_of_findings_eq {x : Extractor} {t : Text} {records : List Record}
    (h : x.findings t = records.map .ok) (strict : Bool) :
    x.render strict t = .ok (records.map Record.render) := by
  cases strict with
  | true => exact render_strict_of_findings_eq h
  | false => rw [render, Outcome.ofFindings_eq_iff.2 h, if_neg Bool.false_ne_true]

/-! ## Extractors and their templates -/

/-- An extractor is what comes of its template, its vocabulary and its file override. -/
theorem Extractor.ofTemplate_eq_ok {x : Extractor} {text fileOverride : Text}
    {vocabulary : Vocabulary} (htemplate : x.template = Template.ofText text)
    (hfileOverride : x.fileOverride = fileOverride) (hvocabulary : x.vocabulary = vocabulary) :
    Extractor.ofTemplate text fileOverride vocabulary = .ok x := by
  obtain ⟨template, vocabulary, fileOverride, pattern, hcompile⟩ := x
  obtain rfl : template = Template.ofText text := htemplate
  subst hfileOverride hvocabulary
  unfold Extractor.ofTemplate
  dsimp only
  split
  · rename_i pattern' hcompile'
    obtain rfl : pattern = pattern' := by
      rw [hcompile] at hcompile'
      exact Except.ok.inj hcompile'
    rfl
  · rename_i e hcompile'
    rw [hcompile] at hcompile'
    simp at hcompile'

/-- An extractor that is made has the template, the vocabulary and the file override that it was made
of. -/
theorem Extractor.eq_of_ofTemplate_eq_ok {x : Extractor} {text fileOverride : Text}
    {vocabulary : Vocabulary} (h : ofTemplate text fileOverride vocabulary = .ok x) :
    x.template = Template.ofText text ∧ x.vocabulary = vocabulary ∧
      x.fileOverride = fileOverride := by
  unfold ofTemplate at h
  dsimp only at h
  split at h
  · obtain rfl := Except.ok.inj h
    exact ⟨rfl, rfl, rfl⟩
  · simp at h

/-- A template whose pattern is not too large makes an extractor. -/
theorem Extractor.exists_ofTemplate_eq_ok {text : Text} {vocabulary : Vocabulary}
    (h : ((Template.ofText text).pattern vocabulary).size ≤ Pattern.maxSize) (fileOverride : Text) :
    ∃ x, ofTemplate text fileOverride vocabulary = .ok x :=
  ⟨⟨Template.ofText text, vocabulary, fileOverride, (Template.ofText text).pattern vocabulary,
    if_pos h⟩, ofTemplate_eq_ok rfl rfl rfl⟩

/-- The pattern of an extractor is not too large. -/
theorem Extractor.size_pattern_le (x : Extractor) :
    (x.template.pattern x.vocabulary).size ≤ Pattern.maxSize := by
  have hcompile := x.compile_eq
  unfold Template.compile at hcompile
  dsimp only at hcompile
  split at hcompile
  · assumption
  · simp at hcompile

/-- The pattern of an extractor is that of its template under its vocabulary. -/
theorem Extractor.pattern_eq (x : Extractor) : x.pattern = x.template.pattern x.vocabulary := by
  have hcompile := x.compile_eq
  unfold Template.compile at hcompile
  dsimp only at hcompile
  split at hcompile
  · exact (Except.ok.inj hcompile).symm
  · simp at hcompile

end Diagnostics
