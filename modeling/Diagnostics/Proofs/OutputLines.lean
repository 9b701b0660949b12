import Diagnostics.Proofs.CommandRuns
import Diagnostics.Proofs.RecordFields
import Diagnostics.Proofs.Matches

/-!
# Lines of the output

Whatever the template, the vocabulary and the text are, every line of the output is one that an
editor can read (`IsRecordLine`): a file, two positive numbers without leading zeros, a kind and a
message, all on one line. Of the fields of a record this is what the tokens admit and what is read as
a number (`Extractor.isRecordLine_of_mem_findings`). So there are as many line feeds in what the
command writes as there are records (`output_isRecordLine`).
-/

namespace Diagnostics

/-! ## Numerals -/

/-- The text is the numeral of a positive number in ASCII digits, without leading zeros, and not too
long to be read. -/
structure IsPositiveNumeral (t : Text) : Prop where
  /-- There is a digit. -/
  ne_nil : t ≠ []
  /-- All characters are digits. -/
  isDigit : ∀ c ∈ t, c.isDigit = true
  /-- The first one is not zero. -/
  head_ne_zero : t.head? ≠ some '0'
  /-- There are not too many. -/
  length_le : t.length ≤ maxNumeralLength

/-- A positive number is written without leading zeros. -/
theorem head?_decimal_ne_zero {z : Int} (hpos : 1 ≤ z) : (decimal z).head? ≠ some '0' := by
  have hnonneg : 0 ≤ z := by omega
  intro hhead
  obtain ⟨digits, hdecimal⟩ := List.head?_eq_some_iff.1 hhead
  have hvalue : numeralValue digits = z.toNat := by
    rw [← numeralValue_decimal hnonneg, hdecimal]
    rfl
  cases digits with
  | nil =>
    have hzero : 0 = z.toNat := hvalue
    omega
  | cons c rest =>
    -- The digits behind the zero have the same value, but there is one less of them.
    have hlt : z < 10 ^ (c :: rest).length := by
      have hlt := numeralValue_lt (c :: rest)
      rw [hvalue] at hlt
      have hcast : (z.toNat : Int) < 10 ^ (c :: rest).length := by exact_mod_cast hlt
      rwa [Int.toNat_of_nonneg hnonneg] at hcast
    have hlength := (length_decimal_le_iff hnonneg (Nat.zero_lt_succ _)).2 hlt
    rw [hdecimal] at hlength
    exact Nat.not_succ_le_self _ hlength

/-- A positive number that is not too long is written as a positive numeral. -/
theorem isPositiveNumeral_decimal {z : Int} (hpos : 1 ≤ z) (hlt : z < 10 ^ maxNumeralLength) :
    IsPositiveNumeral (decimal z) where
  ne_nil := decimal_ne_nil
  isDigit := by
    rw [decimal_of_nonneg (by omega)]
    exact fun c hc => Nat.isDigit_of_mem_toDigits (by decide) (by decide) hc
  head_ne_zero := head?_decimal_ne_zero hpos
  length_le := (length_decimal_le_iff (by omega) (by decide)).2 hlt

/-! ## Lines -/

/-- The text reads `file:line:column: kind: message`, with positive numerals, the name of a kind and
a message on one line. The file is the one that is given beforehand, if one is, and else a text
without line feed and NUL. -/
def IsRecordLine (fileOverride t : Text) : Prop :=
  ∃ file line column kind message : Text,
    t = file ++ ':' :: line ++ ':' :: column ++ ": ".toList ++ kind ++ ": ".toList ++ message ∧
      IsPositiveNumeral line ∧ IsPositiveNumeral column ∧
      (kind = "warning".toList ∨ kind = "error".toList) ∧ '\n' ∉ message ∧
      (fileOverride ≠ [] → file = fileOverride) ∧
      (fileOverride = [] → '\n' ∉ file ∧ '\x00' ∉ file)

/-- Such a text is one line, if the file that is given beforehand is. -/
theorem IsRecordLine.lineFeed_notMem {fileOverride t : Text} (h : IsRecordLine fileOverride t)
    (hfile : '\n' ∉ fileOverride) : '\n' ∉ t := by
  obtain ⟨file, line, column, kind, message, rfl, hline, hcolumn, hkind, hmessage, hgiven,
    hfound⟩ := h
  have hdigits : ∀ {digits : Text}, IsPositiveNumeral digits → '\n' ∉ digits := fun hdigits hmem =>
    absurd (hdigits.isDigit '\n' hmem) (by decide)
  have hfile' : '\n' ∉ file := by
    by_cases hempty : fileOverride = []
    · exact (hfound hempty).1
    · exact hgiven hempty ▸ hfile
  have hkind' : '\n' ∉ kind := by
    rcases hkind with rfl | rfl <;> decide
  simp [hfile', hdigits hline, hdigits hcolumn, hkind', hmessage]

/-! ## Records that are found -/

/-- The group of the last token that is a placeholder is the group of such a token. -/
theorem mem_of_lastGroup?_eq_some {p : Placeholder} {parts : List (Token × Text)} {group : Text}
    (h : lastGroup? p parts = some group) : (.placeholder p, group) ∈ parts := by
  obtain ⟨⟨token, group'⟩, hlast, rfl⟩ := Option.map_eq_some_iff.1 h
  obtain ⟨hmem, htoken⟩ := mem_of_findRev?_eq_some hlast
  obtain rfl : token = .placeholder p := of_decide_eq_true htoken
  exact hmem

section

variable {tokens : List Token} {vocabulary : Vocabulary} {text fileOverride : Text} {m : Match}

/-- The group of a match is admitted by its token, between some texts. -/
theorem exists_admits_of_mem_zip_findAll
    (hm : m ∈ (Template.pattern ⟨tokens⟩ vocabulary).findAll text) {token : Token} {group : Text}
    (hpart : (token, group) ∈ tokens.zip m.groups) :
    ∃ left right, token.Admits vocabulary left group right := by
  obtain ⟨earlier, later, hmatches⟩ := List.append_of_mem hm
  obtain ⟨left, right, -, -, hcut⟩ := (isNextMatch_of_findAll hmatches).cutAt
  exact hcut.exists_admits_of_mem_zip hpart

/-- A character that stands in no group of a placeholder does not stand in the text that counts, nor
in the empty text where there is none. -/
theorem notMem_lastGroup {parts : List (Token × Text)} {p : Placeholder} {c : Char}
    (h : ∀ group, (.placeholder p, group) ∈ parts → c ∉ group) :
    c ∉ (lastGroup? p parts).getD [] := by
  cases hlast : lastGroup? p parts with
  | none => exact List.not_mem_nil
  | some group => exact h group (mem_of_lastGroup?_eq_some hlast)

/-- The number of a line or a column, or the number one where there is none, is written as a positive
numeral. -/
theorem isPositiveNumeral_lastGroup {parts : List (Token × Text)} {p : Placeholder}
    (h : ∀ digits, (.placeholder p, digits) ∈ parts → DenotesPositive digits) :
    IsPositiveNumeral
      (decimal ((lastGroup? p parts).elim 1 fun digits => (numeralValue digits : Int))) := by
  cases hlast : lastGroup? p parts with
  | none =>
    have hone : decimal 1 = ['1'] := Nat.toDigits_of_lt_base (by decide)
    exact hone ▸ ⟨by decide, List.forall_mem_singleton.2 (by decide), by decide, by decide⟩
  | some digits =>
    obtain ⟨hpos, hlt⟩ := (h digits (mem_of_lastGroup?_eq_some hlast)).bounds
    exact isPositiveNumeral_decimal hpos hlt

/-- The record of a match is written as a line. -/
theorem isRecordLine_of_recordOf (hm : m ∈ (Template.pattern ⟨tokens⟩ vocabulary).findAll text)
    {r : Record} (hr : Template.recordOf ⟨tokens⟩ vocabulary fileOverride m = .ok r) :
    IsRecordLine fileOverride r.render := by
  obtain ⟨htakes, rfl⟩ := recordOf_eq_ok_iff.1 hr
  have hmessage : '\n' ∉ (Record.ofParts vocabulary (tokens.zip m.groups)).message := by
    refine notMem_lastGroup fun group hpart => ?_
    obtain ⟨left, right, -, hline⟩ := exists_admits_of_mem_zip_findAll hm hpart
    exact hline
  have hfile : '\n' ∉ (Record.ofParts vocabulary (tokens.zip m.groups)).file ∧
      '\x00' ∉ (Record.ofParts vocabulary (tokens.zip m.groups)).file := by
    refine ⟨notMem_lastGroup fun group hpart => ?_, notMem_lastGroup fun group hpart => ?_⟩
    · obtain ⟨left, right, -, -, hline⟩ := exists_admits_of_mem_zip_findAll hm hpart
      exact hline
    · obtain ⟨left, right, -, hnul, -⟩ := exists_admits_of_mem_zip_findAll hm hpart
      exact hnul
  have hkind : ∀ kind : Kind, kind.name = "warning".toList ∨ kind.name = "error".toList := by
    rintro (_ | _)
    · exact Or.inl rfl
    · exact Or.inr rfl
  refine ⟨_, _, _, _, _, rfl, isPositiveNumeral_lastGroup fun _ => htakes _,
    isPositiveNumeral_lastGroup fun _ => htakes _, hkind _, hmessage,
    fun hgiven => if_neg hgiven, ?_⟩
  rintro rfl
  rw [if_pos rfl]
  exact hfile

end

namespace Extractor

variable {x : Extractor} {text : Text}

/-- A record that is found is written as a line. -/
theorem isRecordLine_of_mem_findings {r : Record} (h : .ok r ∈ x.findings text) :
    IsRecordLine x.fileOverride r.render := by
  obtain ⟨m, hm, hfinding⟩ := List.mem_filterMap.1 h
  rw [x.pattern_eq] at hm
  unfold findingOf at hfinding
  split at hfinding
  · exact isRecordLine_of_recordOf hm (Option.some.inj hfinding)
  · cases hfinding

/-- A rendering that succeeds gives the lines of the records, whether it is strict or not. -/
theorem lines_eq_of_render_eq_ok {strict : Bool} {lines : List Text}
    (h : x.render strict text = .ok lines) : lines = (x.parse text).records.map Record.render := by
  rw [parse, Outcome.ofFindings_eq]
  cases strict with
  | false => exact Except.ok.inj (h.symm.trans (x.render_lenient_eq text))
  | true =>
    rw [x.render_strict_eq] at h
    cases hfirst : ((x.findings text).filterMap Finding.error?).head? with
    | none =>
      rw [hfirst] at h
      exact (Except.ok.inj h).symm
    | some e =>
      rw [hfirst] at h
      cases h

/-- The lines of the records are lines that an editor can read. -/
theorem isRecordLine_of_mem_records {line : Text}
    (h : line ∈ (x.parse text).records.map Record.render) : IsRecordLine x.fileOverride line := by
  obtain ⟨r, hr, rfl⟩ := List.mem_map.1 h
  exact isRecordLine_of_mem_findings (Outcome.mem_records_ofFindings.1 hr)

end Extractor

/-- Every line that the library gives, for any template, vocabulary and text, strict or not, reads
`file:line:column: kind: message`, with positive numbers without leading zeros, a kind and a message,
and is one line. The file is the one that is given beforehand, if one is. What the command writes, for
all options that do not list the presets and with any frontend, is nothing on a failure, and else one
such line for each record, each with a line feed behind it and no other line feeds. -/
theorem output_isRecordLine (fileOverride : Text) (hfile : '\n' ∉ fileOverride) :
    (∀ output template vocabulary strict lines,
        (normalize output template fileOverride vocabulary strict).lines = .ok lines →
        ∀ line ∈ lines, '\n' ∉ line ∧ IsRecordLine fileOverride line) ∧
      ∀ (f : CommandLine.Frontend) args setting input o, f.read args = .ok o →
        o.listPresets = false → o.file = fileOverride →
        (f.run args setting input).code = 1 ∧ (f.run args setting input).output = [] ∨
          ∃ template vocabulary text x, o.UsesTemplate setting template ∧
            o.UsesVocabulary vocabulary ∧ o.ReadsText input text ∧
            Extractor.ofTemplate template fileOverride vocabulary = .ok x ∧
            (f.run args setting input).code = 0 ∧
            (f.run args setting input).output =
              ((x.parse text).records.flatMap fun r => r.render ++ ['\n']) ∧
            (f.run args setting input).output.count '\n' = (x.parse text).records.length ∧
            ∀ r ∈ (x.parse text).records, '\n' ∉ r.render ∧ IsRecordLine fileOverride r.render := by
  constructor
  · intro output template vocabulary strict lines hlines line hline
    cases hx : Extractor.ofTemplate template fileOverride vocabulary with
    | error e =>
      rw [normalize, hx] at hlines
      cases hlines
    | ok x =>
      obtain ⟨-, -, rfl⟩ := Extractor.eq_of_ofTemplate_eq_ok hx
      rw [(normalize_eq_of_ofTemplate hx output strict).1, mapError_eq_ok_iff] at hlines
      obtain rfl := Extractor.lines_eq_of_render_eq_ok hlines
      have hread := Extractor.isRecordLine_of_mem_records hline
      exact ⟨hread.lineFeed_notMem hfile, hread⟩
  · intro f args setting input o hargs hlist hoption
    obtain ⟨hcode, houtput⟩ := CommandLine.Frontend.run_of_read hargs setting input
    rw [hcode, houtput]
    rcases @CommandLine.runOptions_cases o setting input hlist with ⟨-, hfailure⟩ |
      ⟨template, vocabulary, x, lines, huses, huses', hx, hlines, hsuccess, hwritten⟩
    · exact Or.inl hfailure
    · obtain ⟨-, -, hoverride⟩ := Extractor.eq_of_ofTemplate_eq_ok hx
      obtain rfl := Extractor.lines_eq_of_render_eq_ok hlines
      have hrecords : ∀ line ∈ (x.parse (o.text input)).records.map Record.render,
          '\n' ∉ line ∧ IsRecordLine fileOverride line := by
        intro line hline
        have hread := Extractor.isRecordLine_of_mem_records hline
        rw [hoverride, hoption] at hread
        exact ⟨hread.lineFeed_notMem hfile, hread⟩
      refine Or.inr ⟨template, vocabulary, o.text input, x, huses, huses',
        CommandLine.Options.readsText_iff.2 rfl, hoption ▸ hx, hsuccess, ?_, ?_,
        fun r hr => hrecords _ (List.mem_map_of_mem hr)⟩
      · rw [hwritten, Text.terminateLines, List.flatMap_map]
      · rw [hwritten, Text.count_terminateLines fun line hline => (hrecords line hline).1,
          List.length_map]

/-- A line in the digits of another script, with a leading zero, is written in ASCII digits without
it, in the file that is given beforehand. -/
theorem output_isRecordLine_other_digits :
    '\n' ∉ "b.c".toList ∧
      ((normalize "a.c:٠٣: Warning: x".toList "%f:%l: %k: %m".toList "b.c".toList
          Vocabulary.standard true).lines = .ok ["b.c:3:1: warning: x".toList] ∧
        IsRecordLine "b.c".toList "b.c:3:1: warning: x".toList) ∧
      (CommandLine.Frontend.plain.read ["-e%f:%l: %k: %m".toList, "-fb.c".toList] =
          .ok { template := some "%f:%l: %k: %m".toList, file := "b.c".toList } ∧
        ∃ records : List Record,
          (CommandLine.Frontend.plain.run ["-e%f:%l: %k: %m".toList, "-fb.c".toList] none
            "a.c:٠٣: Warning: x".toList).output = (records.flatMap fun r => r.render ++ ['\n']) ∧
          records.length = 1) := by
  have hfile : '\n' ∉ "b.c".toList := by decide
  have hlines : (normalize "a.c:٠٣: Warning: x".toList "%f:%l: %k: %m".toList "b.c".toList
      Vocabulary.standard true).lines = .ok ["b.c:3:1: warning: x".toList] := by decide +kernel
  have hargs : CommandLine.Frontend.plain.read ["-e%f:%l: %k: %m".toList, "-fb.c".toList] =
      .ok { template := some "%f:%l: %k: %m".toList, file := "b.c".toList } := by decide +kernel
  have houtput : (CommandLine.Frontend.plain.run ["-e%f:%l: %k: %m".toList, "-fb.c".toList] none
      "a.c:٠٣: Warning: x".toList).output = "b.c:3:1: warning: x\n".toList := by decide +kernel
  obtain ⟨hlibrary, hcommand⟩ := output_isRecordLine _ hfile
  refine ⟨hfile, ⟨hlines, (hlibrary _ _ _ _ _ hlines _ List.mem_cons_self).2⟩, hargs, ?_⟩
  rcases hcommand .plain _ none "a.c:٠٣: Warning: x".toList _ hargs rfl rfl with
    ⟨-, hempty⟩ | ⟨_, _, _, x, -, -, -, -, -, hwritten, hcount, -⟩
  · cases houtput.symm.trans hempty
  · refine ⟨_, hwritten, ?_⟩
    rw [← hcount, houtput]
    decide

end Diagnostics
