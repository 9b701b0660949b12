import Diagnostics.Proofs.Findings
import Diagnostics.Proofs.Numeral
import Diagnostics.Proofs.RecordLine

/-!
# Records are read back from their lines

A record that is writable is a `Line` of the template of records (`Record.IsWritable.line`), and the
record of that line is the record again (`Record.IsWritable.recordOf_line`). Of the text of several
records, a search reads one record from each line, unless the file of one of them has an inner
header (`filterMap_findingOf_iff`). So the extractor of that template undoes the rendering of
records exactly when no file has an inner header (`parse_render_iff`).
-/

namespace Diagnostics

/-! ## The record of a line -/

/-- The extractor of records that are lines already, with the standard vocabulary. -/
def Extractor.passthrough : Extractor where
  template := ⟨Line.tokens⟩
  vocabulary := Vocabulary.standard
  fileOverride := []
  pattern := Template.pattern ⟨Line.tokens⟩ Vocabulary.standard
  compile_eq := by
    unfold Template.compile
    exact if_pos (by decide +kernel)

/-- It is the extractor of the passthrough preset. -/
theorem Extractor.ofTemplate_passthrough :
    Extractor.ofTemplate Preset.passthrough.template [] Vocabulary.standard = .ok passthrough :=
  ofTemplate_eq_ok Line.ofText_passthrough.symm rfl rfl

namespace Line

/-- The record of a line takes its fields from the parts of the line one by one. -/
theorem recordOf_pieces (l : Line) (start : Nat) :
    Template.recordOf ⟨tokens⟩ Vocabulary.standard [] ⟨start, l.pieces⟩ = (do
      let line ← readPositive "line".toList l.header.line l.text
      let column ← readPositive "column".toList l.header.column l.text
      let kind ← Vocabulary.standard.kindOf l.header.kind l.text
      .ok ⟨l.file, line, column, kind, l.message⟩) := by
  have htext : (⟨start, l.pieces⟩ : Match).text = l.text := flatten_pieces
  unfold Template.recordOf
  rw [htext]
  simp only [tokens, pieces, Header.tokens, Header.pieces, List.cons_append, List.nil_append,
    List.zip_cons_cons, List.zip_nil_left, List.foldlM_cons, List.foldlM_nil, Template.fill]
  -- The first part that cannot be read is the error; else the record is complete.
  rcases readPositive "line".toList l.header.line l.text with e | line
  · rfl
  rcases readPositive "column".toList l.header.column l.text with e | column
  · rfl
  rcases Vocabulary.standard.kindOf l.header.kind l.text with e | kind
  · rfl
  · rfl

/-- A line has a record when its numbers and its kind can be read. -/
theorem recordOf_eq_ok_iff {l : Line} {start : Nat} {r : Record} :
    Template.recordOf ⟨tokens⟩ Vocabulary.standard [] ⟨start, l.pieces⟩ = .ok r ↔
      ∃ line column kind, readPositive "line".toList l.header.line l.text = .ok line ∧
        readPositive "column".toList l.header.column l.text = .ok column ∧
        Vocabulary.standard.kindOf l.header.kind l.text = .ok kind ∧
        r = ⟨l.file, line, column, kind, l.message⟩ := by
  rw [recordOf_pieces]
  constructor
  · intro h
    obtain ⟨line, hline, h⟩ := exists_of_bind_eq_ok h
    obtain ⟨column, hcolumn, h⟩ := exists_of_bind_eq_ok h
    obtain ⟨kind, hkind, h⟩ := exists_of_bind_eq_ok h
    exact ⟨line, column, kind, hline, hcolumn, hkind, (Except.ok.inj h).symm⟩
  · rintro ⟨line, column, kind, hline, hcolumn, hkind, rfl⟩
    rw [hline, hcolumn, hkind]
    rfl

/-- A line is a message. -/
theorem isMessage_pieces (l : Line) (start : Nat) :
    Template.isMessage ⟨tokens⟩ ⟨start, l.pieces⟩ = true := by
  have hfile : (Token.isAnchor (.placeholder .file) && decide (l.file ≠ [])) = true :=
    decide_eq_true l.file_ne_nil
  rw [Template.isMessage, tokens, pieces, List.zip_cons_cons, List.any_cons, hfile, Bool.true_or]

/-- What an extractor of records finds in a match with the parts of a line. -/
theorem findingOf_eq {l : Line} {m : Match} (hm : m.groups = l.pieces) :
    Extractor.passthrough.findingOf m =
      some (Template.recordOf ⟨tokens⟩ Vocabulary.standard [] ⟨m.start, l.pieces⟩) := by
  obtain ⟨start, groups⟩ := m
  obtain rfl : groups = l.pieces := hm
  exact if_pos (l.isMessage_pieces start)

end Line

/-! ## Records that can be written -/

/-- The record can be written on a line, so that its parts are those of a line of records and its
numbers are not too long. -/
structure Record.IsWritable (r : Record) : Prop where
  /-- The file has a name. -/
  file_ne_nil : r.file ≠ []
  /-- The name of the file has no null character. -/
  nul_notMem_file : '\x00' ∉ r.file
  /-- The name of the file stands on one line. -/
  lineFeed_notMem_file : '\n' ∉ r.file
  /-- There is a message. -/
  message_ne_nil : r.message ≠ []
  /-- The message stands on one line. -/
  lineFeed_notMem_message : '\n' ∉ r.message
  /-- Lines are counted from one. -/
  one_le_line : 1 ≤ r.line
  /-- The line has no more digits than can be read. -/
  line_lt : r.line < 10 ^ maxNumeralLength
  /-- Columns are counted from one. -/
  one_le_column : 1 ≤ r.column
  /-- The column has no more digits than can be read. -/
  column_lt : r.column < 10 ^ maxNumeralLength

/-- Whether a record can be written is decided by its parts. Of its numbers the digits are counted,
which is done sooner than to compare them with the power of ten. -/
theorem Record.isWritable_iff {r : Record} : r.IsWritable ↔
    (r.file ≠ [] ∧ '\x00' ∉ r.file ∧ '\n' ∉ r.file) ∧ (r.message ≠ [] ∧ '\n' ∉ r.message) ∧
      (1 ≤ r.line ∧ (decimal r.line).length ≤ maxNumeralLength) ∧
      1 ≤ r.column ∧ (decimal r.column).length ≤ maxNumeralLength := by
  have hlength : ∀ {z : Int}, 1 ≤ z →
      ((decimal z).length ≤ maxNumeralLength ↔ z < 10 ^ maxNumeralLength) := fun hz =>
    length_decimal_le_iff (Int.le_of_lt hz) (by decide)
  constructor
  · rintro ⟨hfile, hnul, hfileLine, hmessage, hmessageLine, hline, hlineLt, hcolumn, hcolumnLt⟩
    exact ⟨⟨hfile, hnul, hfileLine⟩, ⟨hmessage, hmessageLine⟩, ⟨hline, (hlength hline).2 hlineLt⟩,
      hcolumn, (hlength hcolumn).2 hcolumnLt⟩
  · rintro ⟨⟨hfile, hnul, hfileLine⟩, ⟨hmessage, hmessageLine⟩, ⟨hline, hlineLt⟩, hcolumn,
      hcolumnLt⟩
    exact ⟨hfile, hnul, hfileLine, hmessage, hmessageLine, hline, (hlength hline).1 hlineLt,
      hcolumn, (hlength hcolumn).1 hcolumnLt⟩

instance (r : Record) : Decidable r.IsWritable :=
  decidable_of_iff _ Record.isWritable_iff.symm

/-- The name of a kind is a word for it. -/
theorem Kind.admits_name (kind : Kind) :
    (Token.placeholder .kind).Admits Vocabulary.standard [' '] kind.name [':'] := by
  cases kind <;> decide +kernel

/-- The name of a kind is read as the kind. -/
theorem Kind.kindOf_name (kind : Kind) (matched : Text) :
    Vocabulary.standard.kindOf kind.name matched = .ok kind := by
  have hfind : Vocabulary.standard.find? kind.name = some kind := by
    cases kind <;> decide +kernel
  rw [Vocabulary.kindOf, hfind]

namespace Record.IsWritable

variable {r : Record} (h : r.IsWritable)
include h

/-- The line of a record. -/
def line : Line where
  file := r.file
  header :=
    { line := decimal r.line
      column := decimal r.column
      kind := r.kind.name
      line_ne_nil := decimal_ne_nil
      isDigit_line := fun _ => isDigit_of_mem_decimal (Int.le_of_lt h.one_le_line)
      column_ne_nil := decimal_ne_nil
      isDigit_column := fun _ => isDigit_of_mem_decimal (Int.le_of_lt h.one_le_column)
      admits_kind := r.kind.admits_name }
  message := r.message
  file_ne_nil := h.file_ne_nil
  nul_notMem_file := h.nul_notMem_file
  lineFeed_notMem_file := h.lineFeed_notMem_file
  message_ne_nil := h.message_ne_nil
  lineFeed_notMem_message := h.lineFeed_notMem_message

/-- The record is rendered as its line. -/
theorem render_eq : r.render = h.line.text := by
  simp [Record.render, line, Line.text, Header.text]

/-- The record is read back from its line. -/
theorem recordOf_line (start : Nat) :
    Template.recordOf ⟨Line.tokens⟩ Vocabulary.standard [] ⟨start, h.line.pieces⟩ = .ok r := by
  refine Line.recordOf_eq_ok_iff.2 ⟨r.line.toNat, r.column.toNat, r.kind,
    readPositive_decimal h.one_le_line h.line_lt, readPositive_decimal h.one_le_column h.column_lt,
    r.kind.kindOf_name _, ?_⟩
  rw [Int.toNat_of_nonneg (Int.le_of_lt h.one_le_line),
    Int.toNat_of_nonneg (Int.le_of_lt h.one_le_column)]
  rfl

end Record.IsWritable

/-! ## Several records -/

/-- The lines of the records: `lead` stands in front of the first one, and a line feed in front of
every other one. -/
def linesAfter (lead : Text) : List Record → Text
  | [] => []
  | r :: records => lead ++ (r.render ++ linesAfter ['\n'] records)

/-- The lines of the records without anything in front are the lines joined by line feeds. -/
theorem linesAfter_nil (records : List Record) :
    linesAfter [] records = List.intercalate ['\n'] (records.map Record.render) := by
  cases records with
  | nil => rfl
  | cons r records =>
    induction records generalizing r with
    | nil => simp [linesAfter]
    | cons r' records ih =>
      have hrest : linesAfter ['\n'] (r' :: records) = '\n' :: linesAfter [] (r' :: records) := rfl
      rw [linesAfter, hrest, ih r', List.map_cons, List.map_cons, List.map_cons,
        List.intercalate_cons_cons]
      simp

/-- Behind a line the text ends or another line begins. -/
theorem linesAfter_lineFeed (records : List Record) :
    linesAfter ['\n'] records = [] ∨ ∃ t, linesAfter ['\n'] records = '\n' :: t := by
  cases records with
  | nil => exact Or.inl rfl
  | cons r records => exact Or.inr ⟨_, rfl⟩

section

variable {r : Record} {before lead tail : Text} {previous : Option Match}

/-- The findings that are left begin with that of the next line: the record, if there is no inner
header in its file, and else something different. Behind the record the search goes on. -/
theorem exists_findingOf_line (h : r.IsWritable) (hbefore : before.length = resumeOffset previous)
    (hlead : lead = [] ∨ lead = ['\n']) (htail : tail = [] ∨ ∃ t, tail = '\n' :: t) :
    ∃ m finding, (Scan.resume (before ++ (lead ++ (r.render ++ tail))) previous).all
        Extractor.passthrough.pattern =
          m :: (Scan.resume (before ++ (lead ++ (r.render ++ tail))) (some m)).all
            Extractor.passthrough.pattern ∧
      Extractor.passthrough.findingOf m = some finding ∧
      (HasInnerHeader r.file → finding ≠ .ok r) ∧
      (¬HasInnerHeader r.file →
        finding = .ok r ∧ (before ++ (lead ++ r.render)).length = resumeOffset (some m)) := by
  rw [h.render_eq]
  have hle : ∀ t, resumeOffset previous ≤ (before ++ t).length := by
    intro t
    rw [← hbefore, List.length_append]
    exact Nat.le_add_right _ _
  obtain ⟨m, hnext, hall⟩ := exists_all_resume_eq_cons (hle _) Line.tokens_ne_nil
    h.line.cutAt_pieces (hle lead) (h.line.mayFollow _ _)
  by_cases hfile : HasInnerHeader r.file
  · -- Any record of the match has the shorter file.
    obtain ⟨l, hgroups, hlt⟩ := Line.exists_length_file_lt hbefore hlead hnext hfile
    refine ⟨m, _, hall, Line.findingOf_eq hgroups, fun _ hrecord => ?_, absurd hfile⟩
    obtain ⟨_, _, _, -, -, -, rfl⟩ := Line.recordOf_eq_ok_iff.1 hrecord
    exact Nat.lt_irrefl _ hlt
  · have hgroups := Line.groups_eq hbefore hlead htail hnext hfile
    have hstart := Line.start_eq hbefore hlead hnext
    refine ⟨m, _, hall, Line.findingOf_eq hgroups, fun h => absurd h hfile, fun _ => ⟨?_, ?_⟩⟩
    · exact h.recordOf_line m.start
    · have hstop : m.stop = m.start + h.line.text.length := by
        rw [Match.stop, Match.text, hgroups, Line.flatten_pieces]
      rw [resumeOffset, Option.map_some, Option.getD_some, hstop, hstart, ← List.append_assoc,
        List.length_append]

/-- From the lines of records exactly these records are found, and no errors, if and only if no file
has an inner header. -/
theorem filterMap_findingOf_iff {records : List Record} (h : ∀ r ∈ records, r.IsWritable)
    (hbefore : before.length = resumeOffset previous) (hlead : lead = [] ∨ lead = ['\n']) :
    ((Scan.resume (before ++ linesAfter lead records) previous).all
        Extractor.passthrough.pattern).filterMap Extractor.passthrough.findingOf =
          records.map .ok ↔ ∀ r ∈ records, ¬HasInnerHeader r.file := by
  -- What stands before is any text up to the place where the search goes on, so that each record
  -- can be passed over to the text before the next one.
  induction records generalizing before lead previous with
  | nil =>
    have hall : (Scan.resume before previous).all Extractor.passthrough.pattern = [] :=
      Line.all_resume_eq_nil hbefore
    rw [linesAfter, List.append_nil, hall]
    simp
  | cons r records ih =>
    obtain ⟨hr, hrecords⟩ := List.forall_mem_cons.1 h
    have htail := linesAfter_lineFeed records
    obtain ⟨m, finding, hall, hfinding, hinner, hrecord⟩ :=
      exists_findingOf_line hr hbefore hlead htail
    rw [linesAfter, hall, List.filterMap_cons_some hfinding, List.map_cons, List.cons.injEq,
      List.forall_mem_cons]
    by_cases hfile : HasInnerHeader r.file
    · exact iff_of_false (fun heq => hinner hfile heq.1) fun hall => hall.1 hfile
    · obtain ⟨rfl, hstop⟩ := hrecord hfile
      have hrest := ih hrecords hstop (Or.inr rfl)
      rw [List.append_assoc, List.append_assoc] at hrest
      exact and_congr (iff_of_true rfl hfile) hrest

end

/-- Parsing undoes rendering. Of the lines of records that can be written, joined by line feeds, the
extractor of the passthrough preset gives back these records in order, and no error, if and only if
no file has an inner header: the colon, the digits, the colon, the digits, the colon with a space,
the kind word and the colon with a space of a record's line, behind some text of the file. -/
theorem parse_render_iff (records : List Record) (h : ∀ r ∈ records, r.IsWritable) :
    ∃ x, Extractor.ofTemplate Preset.passthrough.template [] Vocabulary.standard = .ok x ∧
      (x.parse (List.intercalate ['\n'] (records.map Record.render)) = ⟨records, []⟩ ↔
        ∀ r ∈ records, ¬HasInnerHeader r.file) := by
  refine ⟨Extractor.passthrough, Extractor.ofTemplate_passthrough, ?_⟩
  have hstart : ([] : Text).length = resumeOffset none := rfl
  have hfindings := filterMap_findingOf_iff h hstart (Or.inl rfl)
  rw [← linesAfter_nil, Extractor.parse, Outcome.ofFindings_eq_iff]
  exact hfindings

/-- Colons and numbers in the file, and what looks like a record in the message, do no harm. -/
theorem parse_render_colons :
    (∀ r ∈ [(⟨"a:1".toList, 2, 3, .error, "b:4:5: error: c".toList⟩ : Record),
        ⟨"d".toList, 6, 7, .warning, "e".toList⟩], r.IsWritable) ∧
      ∃ x, Extractor.ofTemplate Preset.passthrough.template [] Vocabulary.standard = .ok x ∧
        x.parse "a:1:2:3: error: b:4:5: error: c\nd:6:7: warning: e".toList =
          ⟨[⟨"a:1".toList, 2, 3, .error, "b:4:5: error: c".toList⟩,
            ⟨"d".toList, 6, 7, .warning, "e".toList⟩], []⟩ := by
  have hlt : ∀ n < 10, ((n : Nat) : Int) < 10 ^ maxNumeralLength := by
    intro n hn
    refine (length_decimal_le_iff (Int.natCast_nonneg n) (by decide)).1 ?_
    revert n
    decide
  have hwritable : ∀ r ∈ [(⟨"a:1".toList, 2, 3, .error, "b:4:5: error: c".toList⟩ : Record),
      ⟨"d".toList, 6, 7, .warning, "e".toList⟩], r.IsWritable := by
    simp only [List.forall_mem_cons]
    refine ⟨⟨by decide, by decide, by decide, by decide, by decide, by decide, hlt 2 (by decide),
      by decide, hlt 3 (by decide)⟩, ⟨by decide, by decide, by decide, by decide, by decide,
      by decide, hlt 6 (by decide), by decide, hlt 7 (by decide)⟩, nofun⟩
  obtain ⟨x, hx, hparse⟩ := parse_render_iff _ hwritable
  refine ⟨hwritable, x, hx, hparse.2 ?_⟩
  simp only [List.forall_mem_cons]
  refine ⟨fun h => ?_, fun h => ?_, nofun⟩
  · exact absurd h.space_mem (by decide)
  · exact absurd h.space_mem (by decide)

end Diagnostics
