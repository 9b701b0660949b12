import Diagnostics.Normalize
import Diagnostics.Proofs.RoundTrip

/-!
# Normal output is left as it is

What the passthrough preset lets through is the normal form of the output of tools. A record that it
finds in a text, whatever else stands there, is writable and has no inner header in its file
(`Extractor.isWritable_of_mem_findings`): the file that is found is the shortest one, and an inner
header would give a shorter one. Lines of such records are read back as they are, so a second
normalization changes nothing (`normalize_passthrough_idempotent`).
-/

namespace Diagnostics

/-- The file of a match has no inner header, since the match would have ended its file there. -/
theorem Line.not_hasInnerHeader {text : Text} {previous : Option Match} {m : Match} {l : Line}
    (hm : IsNextMatch Vocabulary.standard tokens text previous m) (hgroups : m.groups = l.pieces) :
    ¬HasInnerHeader l.file := by
  intro hinner
  obtain ⟨shorter, htext, hlt⟩ := exists_shorter_file hinner
  have hcut : CutAt Vocabulary.standard tokens text m.start shorter.pieces := by
    obtain ⟨left, right, hleft, hlength, -⟩ := hm.cutAt
    rw [hgroups, flatten_pieces, ← htext] at hleft
    exact ⟨left, right, by rwa [flatten_pieces], hlength, isCut_iff.2 ⟨shorter, rfl⟩⟩
  have hle : l.file.length ≤ shorter.file.length := by
    rcases hm.first _ hcut (shorter.mayFollow _ _) with hsame | hprecedes
    · exact Nat.le_of_eq (congrArg (List.length ∘ file) (pieces_inj.1 (hsame.trans hgroups)).symm)
    · exact length_file_le (hgroups ▸ hprecedes)
  omega

/-- A record that is read from a line can be written on a line. -/
theorem Line.isWritable_of_recordOf {l : Line} {start : Nat} {r : Record}
    (h : Template.recordOf ⟨tokens⟩ Vocabulary.standard [] ⟨start, l.pieces⟩ = .ok r) :
    r.IsWritable := by
  obtain ⟨line, column, kind, hline, hcolumn, -, rfl⟩ := recordOf_eq_ok_iff.1 h
  obtain ⟨hline, hlineLt⟩ := readPositive_bounds hline
  obtain ⟨hcolumn, hcolumnLt⟩ := readPositive_bounds hcolumn
  exact
    { file_ne_nil := l.file_ne_nil
      nul_notMem_file := l.nul_notMem_file
      lineFeed_notMem_file := l.lineFeed_notMem_file
      message_ne_nil := l.message_ne_nil
      lineFeed_notMem_message := l.lineFeed_notMem_message
      one_le_line := hline
      line_lt := hlineLt
      one_le_column := hcolumn
      column_lt := hcolumnLt }

namespace Extractor

/-- The records that are found in any text can be written, and their files have no inner header. -/
theorem isWritable_of_mem_findings {text : Text} {r : Record}
    (h : .ok r ∈ passthrough.findings text) : r.IsWritable ∧ ¬HasInnerHeader r.file := by
  obtain ⟨m, hm, hfinding⟩ := List.mem_filterMap.1 h
  obtain ⟨earlier, later, hmatches⟩ := List.append_of_mem hm
  have hnext := isNextMatch_of_findAll hmatches
  obtain ⟨_, _, -, -, hcut⟩ := hnext.cutAt
  obtain ⟨l, hgroups⟩ := Line.isCut_iff.1 hcut
  have hrecord := Option.some.inj ((Line.findingOf_eq hgroups).symm.trans hfinding)
  refine ⟨Line.isWritable_of_recordOf hrecord, ?_⟩
  obtain ⟨_, _, _, -, -, -, rfl⟩ := Line.recordOf_eq_ok_iff.1 hrecord
  exact Line.not_hasInnerHeader hnext hgroups

/-- The lines of records that are found in a text are read back as these records, without errors. -/
theorem findings_render {records : List Record}
    (h : ∀ r ∈ records, r.IsWritable ∧ ¬HasInnerHeader r.file) :
    passthrough.findings (List.intercalate ['\n'] (records.map Record.render)) =
      records.map .ok := by
  have hstart : ([] : Text).length = resumeOffset none := rfl
  rw [← linesAfter_nil]
  exact (filterMap_findingOf_iff (fun r hr => (h r hr).1) hstart (Or.inl rfl)).2
    fun r hr => (h r hr).2

end Extractor

/-- The lines that come of the passthrough preset are those that its extractor renders. -/
theorem normalize_passthrough_lines (output : Text) (strict : Bool) :
    (normalize output Preset.passthrough.template [] Vocabulary.standard strict).lines =
      (Extractor.passthrough.render strict output).mapError .extraction := by
  rw [normalize, Extractor.ofTemplate_passthrough]
  rfl

/-- To normalize what is normal already changes nothing. Of the lines that the passthrough preset
makes of any text, joined by line feeds, it makes the same lines again, and finds nothing malformed,
even if the first text was full of malformed matches. -/
theorem normalize_passthrough_idempotent (text : Text) :
    ∃ lines, (normalize text Preset.passthrough.template [] Vocabulary.standard false).lines =
        .ok lines ∧
      (normalize (List.intercalate ['\n'] lines) Preset.passthrough.template []
        Vocabulary.standard true).lines = .ok lines := by
  let records := (Outcome.ofFindings (Extractor.passthrough.findings text)).records
  have hrecords : ∀ r ∈ records, r.IsWritable ∧ ¬HasInnerHeader r.file := fun r hr =>
    Extractor.isWritable_of_mem_findings (Outcome.mem_records_ofFindings.1 hr)
  refine ⟨records.map Record.render, ?_, ?_⟩
  · rw [normalize_passthrough_lines]
    rfl
  · rw [normalize_passthrough_lines, Extractor.render_strict_of_findings_eq
      (Extractor.findings_render hrecords)]
    rfl

end Diagnostics
