import Diagnostics.Proofs.Advances
import Diagnostics.Proofs.LeadingKind

/-!
# Runs of the presets

What a run with a preset comes to, when nothing in the output of the tool is malformed, are the lines
of the records that the extractor of the preset finds (`normalize_preset_lines`). The templates of
the PHP interpreter and of the Rust compiler begin with the kind. One step of their extractors is
said here once for both: behind a lead-in, a message that is a first cut is found, and the search
goes on behind it (`IsLeadIn.exists_findingsFrom_eq`).
-/

namespace Diagnostics

/-! ## Extractors of presets -/

/-- The extractor of a preset, with the standard vocabulary and without a file override. -/
def Extractor.ofPreset (preset : Preset) : Extractor where
  template := Template.ofText preset.template
  vocabulary := Vocabulary.standard
  fileOverride := []
  pattern := (Template.ofText preset.template).pattern Vocabulary.standard
  compile_eq := by
    unfold Template.compile
    exact if_pos (by cases preset <;> decide +kernel)

/-- It is made of the template of the preset. -/
theorem Extractor.ofTemplate_ofPreset (preset : Preset) :
    Extractor.ofTemplate preset.template [] Vocabulary.standard = .ok (ofPreset preset) :=
  ofTemplate_eq_ok rfl rfl rfl

/-- If all that is found in the output of a tool are records, a run with its preset gives their
lines, whether it is strict or not. -/
theorem normalize_preset_lines {preset : Preset} {output : Text} {records : List Record}
    (h : (Extractor.ofPreset preset).findings output = records.map .ok) (strict : Bool) :
    (normalize output preset.template [] Vocabulary.standard strict).lines =
      .ok (records.map Record.render) := by
  rw [(normalize_eq_of_ofTemplate (Extractor.ofTemplate_ofPreset preset) output strict).1,
    Extractor.render_of_findings_eq h]
  rfl

/-! ## Filling in a record -/

namespace Template

variable {vocabulary : Vocabulary} {matched : Text} {r : Record}

/-- The spelling of a kind fills in the kind. -/
theorem fill_kind {kind : Kind} {word : Text} (h : kind.IsSpelled word) :
    fill Vocabulary.standard matched r (.placeholder .kind) word = .ok { r with kind := kind } :=
  fill_kind_of_find? (Vocabulary.kindOf_eq_ok_iff.1 (h.kindOf_eq matched))

variable {z : Int} (hpos : 1 ≤ z) (hlt : z < 10 ^ maxNumeralLength)
include hpos hlt

/-- The numeral of a positive number fills in the number, whatever the field is. -/
theorem map_readPositive_decimal {field : Text} (update : Int → Record) :
    (readPositive field (decimal z) matched).map (fun n => update n) = .ok (update z) := by
  rw [readPositive_decimal hpos hlt]
  show Except.ok (update (z.toNat : Int)) = _
  rw [Int.toNat_of_nonneg (Int.le_of_lt hpos)]

/-- The numeral of a line fills in the line. -/
theorem fill_line :
    fill vocabulary matched r (.placeholder .line) (decimal z) = .ok { r with line := z } :=
  map_readPositive_decimal hpos hlt fun n => { r with line := n }

/-- The numeral of a column fills in the column. -/
theorem fill_column :
    fill vocabulary matched r (.placeholder .column) (decimal z) = .ok { r with column := z } :=
  map_readPositive_decimal hpos hlt fun n => { r with column := n }

end Template

/-! ## One message after the other -/

/-- A colon behind a word for a kind is no word character. -/
theorem isWordChar_colon : isWordChar ':' = false := by decide +kernel

section

variable {x : Extractor} {tokens : List Token} {word before lead right : Text}
  {pieces : List Text} {previous : Option Match}

/-- A match that begins with a kind is a message, so its record is found, or the error. -/
theorem Extractor.findingOf_eq_of_kind (hx : x.template = ⟨.placeholder .kind :: tokens⟩)
    (hword : word ≠ []) {start : Nat} {finding : Finding}
    (hrecord : Template.recordOf ⟨.placeholder .kind :: tokens⟩ x.vocabulary x.fileOverride
      ⟨start, word :: pieces⟩ = finding) :
    x.findingOf ⟨start, word :: pieces⟩ = some finding := by
  have hkind : (Token.isAnchor (.placeholder .kind) && decide (word ≠ [])) = true :=
    decide_eq_true hword
  have hmessage : x.template.isMessage ⟨start, word :: pieces⟩ = true := by
    rw [hx, Template.isMessage, List.zip_cons_cons, List.any_cons, hkind, Bool.true_or]
  rw [findingOf, if_pos hmessage, hx, hrecord]

/-- The findings that are left are those of the matches of the template that are left. -/
theorem Extractor.findingsFrom_eq_of_kind (hx : x.template = ⟨.placeholder .kind :: tokens⟩)
    (hvocabulary : x.vocabulary = Vocabulary.standard) (s : Scan) :
    x.findingsFrom s =
      (s.all (Template.pattern ⟨.placeholder .kind :: tokens⟩ Vocabulary.standard)).filterMap
        x.findingOf := by
  rw [findingsFrom, pattern_eq, hx, hvocabulary]

/-- Behind a lead-in, a message that is a first cut is what is found next, and the search goes on
behind it. -/
theorem IsLeadIn.exists_findingsFrom_eq (hx : x.template = ⟨.placeholder .kind :: tokens⟩)
    (hvocabulary : x.vocabulary = Vocabulary.standard) (hlead : IsLeadIn before lead)
    (hbefore : before.length = resumeOffset previous)
    (hcut : IsFirstCut Vocabulary.standard (.placeholder .kind :: tokens) (before ++ lead) pieces
      right)
    {finding : Finding} (hfinding : ∀ start, x.findingOf ⟨start, pieces⟩ = some finding) :
    ∃ m, (before ++ (lead ++ pieces.flatten)).length = resumeOffset (some m) ∧
      x.findingsFrom (.resume (before ++ (lead ++ (pieces.flatten ++ right))) previous) =
        finding ::
          x.findingsFrom (.resume (before ++ (lead ++ (pieces.flatten ++ right))) (some m)) := by
  have hnext := hlead.isNextMatch hbefore hcut
  have hprevious : resumeOffset previous ≤
      (before ++ (lead ++ (pieces.flatten ++ right))).length := by
    rw [← hbefore, List.length_append]
    exact Nat.le_add_right _ _
  refine ⟨⟨(before ++ lead).length, pieces⟩, ?_, ?_⟩
  · show _ = (before ++ lead).length + pieces.flatten.length
    rw [← List.append_assoc, List.length_append]
  · rw [Extractor.findingsFrom_eq_of_kind hx hvocabulary,
      hnext.all_resume_eq hprevious (List.cons_ne_nil _ _), List.filterMap_cons_some (hfinding _),
      Extractor.findingsFrom_eq_of_kind hx hvocabulary]

end

end Diagnostics
