import Diagnostics.Proofs.Findings
import Diagnostics.Proofs.WordTables

/-!
# Fields of the record of a match

A template may have a placeholder several times, or not at all. Whether the group of a token can be
filled in depends on the token and the group alone (`Token.Takes`), and so does what is wrong with a
group that cannot (`Token.Fault`). So all groups count for whether there is a record, the last token
of each field for what the record says (`Record.ofParts`), and the first group that cannot be filled
in for the error (`recordOf_first_fault_or_last_fields`).
-/

namespace Diagnostics

/-! ## One group -/

/-- The group can be filled in for the token: it denotes a positive number where a line or a column
stands, and is a word of the vocabulary, in any case, where a kind stands. -/
def Token.Takes (vocabulary : Vocabulary) (token : Token) (group : Text) : Prop :=
  match token with
  | placeholder .line => DenotesPositive group
  | placeholder .column => DenotesPositive group
  | placeholder .kind => group.lower ∈ vocabulary.table.words
  | _ => True

/-- What is wrong with a group that cannot be filled in for its token, in a match of this text. -/
inductive Token.Fault (vocabulary : Vocabulary) (matched : Text) :
    Token → Text → ExtractionError → Prop where
  /-- The digits of a line denote no positive number. -/
  | line {digits : Text} : ¬DenotesPositive digits →
    Fault vocabulary matched (placeholder .line) digits
      (.invalidNumber "line".toList digits matched)
  /-- The digits of a column denote no positive number. -/
  | column {digits : Text} : ¬DenotesPositive digits →
    Fault vocabulary matched (placeholder .column) digits
      (.invalidNumber "column".toList digits matched)
  /-- The word for a kind, put into lower case, is no word of the vocabulary. -/
  | kind {word : Text} : word.lower ∉ vocabulary.table.words →
    Fault vocabulary matched (placeholder .kind) word (.unknownKind word matched)

/-- The record with the group of one more token, which is a token and its group, written into it. -/
def Record.write (vocabulary : Vocabulary) (r : Record) (part : Token × Text) : Record :=
  match part.1 with
  | .placeholder .file => { r with file := part.2 }
  | .placeholder .line => { r with line := numeralValue part.2 }
  | .placeholder .column => { r with column := numeralValue part.2 }
  | .placeholder .kind => { r with kind := (vocabulary.find? part.2).getD .error }
  | .placeholder .message => { r with message := part.2 }
  | _ => r

section

variable {vocabulary : Vocabulary} {matched group : Text} {r r' : Record} {token : Token}
  {e : ExtractionError}

/-- A group that can be filled in for its token is written into the record. -/
theorem fill_eq_ok_iff : Template.fill vocabulary matched r token group = .ok r' ↔
    token.Takes vocabulary group ∧ r' = r.write vocabulary (token, group) := by
  rcases token with (_ | _ | _ | _ | _ | _ | _) | _
  case placeholder.line =>
    rw [Template.fill_line_eq, map_eq_ok_iff]
    simp only [readPositive_eq_ok_iff, and_assoc, exists_and_left, exists_eq_left]
    exact Iff.rfl
  case placeholder.column =>
    rw [Template.fill_column_eq, map_eq_ok_iff]
    simp only [readPositive_eq_ok_iff, and_assoc, exists_and_left, exists_eq_left]
    exact Iff.rfl
  case placeholder.kind =>
    rw [Template.fill, map_eq_ok_iff, Token.Takes, WordTable.mem_words_iff]
    simp only [Vocabulary.kindOf_eq_ok_iff, Record.write, Vocabulary.find?]
    constructor
    · rintro ⟨kind, hfind, rfl⟩
      exact ⟨⟨kind, hfind⟩, by rw [hfind]; rfl⟩
    · rintro ⟨⟨kind, hfind⟩, rfl⟩
      exact ⟨kind, hfind, by rw [hfind]; rfl⟩
  all_goals simp [Template.fill, Token.Takes, Record.write, eq_comm]

/-- Any other group is refused, and the error names it and the whole match. -/
theorem fill_eq_error_iff (hmatched : matched = [] → group = []) :
    Template.fill vocabulary matched r token group = .error e ↔
      token.Fault vocabulary matched group e := by
  have hcontext : ExtractionError.context group matched = matched := by
    rw [ExtractionError.context]
    split
    · rename_i hempty
      rw [hmatched hempty, hempty]
    · rfl
  rcases token with (_ | _ | _ | _ | _ | _ | _) | _
  case placeholder.line =>
    rw [Template.fill_line_eq, map_eq_error_iff, readPositive_eq_error_iff, ExtractionError.ofNumber,
      hcontext]
    constructor
    · rintro ⟨hdigits, rfl⟩
      exact .line hdigits
    · rintro (hdigits | _ | _)
      exact ⟨hdigits, rfl⟩
  case placeholder.column =>
    rw [Template.fill_column_eq, map_eq_error_iff, readPositive_eq_error_iff,
      ExtractionError.ofNumber, hcontext]
    constructor
    · rintro ⟨hdigits, rfl⟩
      exact .column hdigits
    · rintro (_ | hdigits | _)
      exact ⟨hdigits, rfl⟩
  case placeholder.kind =>
    rw [Template.fill, map_eq_error_iff, Vocabulary.kindOf_eq_error_iff, ExtractionError.ofWord,
      hcontext, Vocabulary.find?, WordTable.find?_eq_none_iff]
    constructor
    · rintro ⟨hword, rfl⟩
      exact .kind hword
    · rintro (_ | _ | hword)
      exact ⟨hword, rfl⟩
  -- The other tokens refuse nothing.
  all_goals
    constructor
    · intro hfill
      simp [Template.fill] at hfill
    · rintro ⟨⟩

end

/-! ## All groups -/

/-- The group of the last token that is this placeholder. -/
def lastGroup? (p : Placeholder) (parts : List (Token × Text)) : Option Text :=
  (parts.findRev? fun part => part.1 = .placeholder p).map Prod.snd

/-- The record of tokens and their groups: each field is that of the last token for it, and has its
default if there is none. -/
def Record.ofParts (vocabulary : Vocabulary) (parts : List (Token × Text)) : Record where
  file := (lastGroup? .file parts).getD ({} : Record).file
  line := (lastGroup? .line parts).elim ({} : Record).line fun digits => numeralValue digits
  column := (lastGroup? .column parts).elim ({} : Record).column fun digits => numeralValue digits
  kind := (lastGroup? .kind parts).elim ({} : Record).kind fun word =>
    (vocabulary.find? word).getD .error
  message := (lastGroup? .message parts).getD ({} : Record).message

/-- One more token is the last of its kind, and leaves the last ones of other kinds as they are. -/
theorem lastGroup?_concat (p : Placeholder) (parts : List (Token × Text)) (part : Token × Text) :
    lastGroup? p (parts ++ [part]) =
      if part.1 = .placeholder p then some part.2 else lastGroup? p parts := by
  rw [lastGroup?, findRev?_append, lastGroup?]
  by_cases hpart : part.1 = .placeholder p <;> simp [List.findRev?, hpart]

/-- Groups that are written one after the other make the record in which the last ones count. -/
theorem foldl_write (vocabulary : Vocabulary) (parts : List (Token × Text)) :
    parts.foldl (Record.write vocabulary) {} = Record.ofParts vocabulary parts := by
  induction parts using List.reverseRecOn with
  | nil => rfl
  | append_singleton parts part ih =>
    rw [List.foldl_append, ih]
    obtain ⟨token, group⟩ := part
    rcases token with (_ | _ | _ | _ | _ | _ | _) | _ <;>
      simp [Record.write, Record.ofParts, lastGroup?_concat]

/-- Groups are filled in when each of them can be, and those that come last count. -/
theorem foldlM_fill_eq_ok_iff {vocabulary : Vocabulary} {matched : Text} {r : Record}
    {parts : List (Token × Text)} :
    parts.foldlM (fun r part => Template.fill vocabulary matched r part.1 part.2) {} = .ok r ↔
      (∀ part ∈ parts, part.1.Takes vocabulary part.2) ∧ r = Record.ofParts vocabulary parts := by
  have hfill : ∀ (r : Record) (part : Token × Text) (r' : Record),
      Template.fill vocabulary matched r part.1 part.2 = .ok r' ↔
        part.1.Takes vocabulary part.2 ∧ r' = r.write vocabulary part := fun _ _ _ => fill_eq_ok_iff
  rw [foldlM_eq_ok_iff hfill, foldl_write]

section

variable {tokens : List Token} {vocabulary : Vocabulary} {fileOverride : Text} {m : Match}

/-- A match makes a record when every group can be filled in. -/
theorem recordOf_eq_ok_iff {r : Record} :
    Template.recordOf ⟨tokens⟩ vocabulary fileOverride m = .ok r ↔
      (∀ part ∈ tokens.zip m.groups, part.1.Takes vocabulary part.2) ∧
        r = { Record.ofParts vocabulary (tokens.zip m.groups) with
          file := if fileOverride = [] then
            (Record.ofParts vocabulary (tokens.zip m.groups)).file else fileOverride } := by
  rw [Template.recordOf, map_eq_ok_iff]
  simp only [foldlM_fill_eq_ok_iff, and_assoc, exists_and_left, exists_eq_left]
  refine and_congr_right fun _ => ?_
  split <;> rfl

/-- A match makes an error when some group cannot be filled in, and the first one is the error. -/
theorem recordOf_eq_error_iff {e : ExtractionError} :
    Template.recordOf ⟨tokens⟩ vocabulary fileOverride m = .error e ↔
      ∃ before token group after, tokens.zip m.groups = before ++ (token, group) :: after ∧
        (∀ part ∈ before, part.1.Takes vocabulary part.2) ∧
        token.Fault vocabulary m.text group e := by
  -- A group of a match without text has no text.
  have hmatched : ∀ {before token group after},
      tokens.zip m.groups = before ++ (token, group) :: after → m.text = [] → group = [] := by
    intro before token group after hparts hempty
    have hpart : (token, group) ∈ tokens.zip m.groups :=
      hparts ▸ List.mem_append_right before List.mem_cons_self
    exact List.flatten_eq_nil_iff.1 hempty group (List.of_mem_zip hpart).2
  rw [Template.recordOf, map_eq_error_iff, foldlM_eq_error_iff]
  constructor
  · rintro ⟨before, ⟨token, group⟩, after, r, hparts, hbefore, hfill⟩
    exact ⟨before, token, group, after, hparts, (foldlM_fill_eq_ok_iff.1 hbefore).1,
      (fill_eq_error_iff (hmatched hparts)).1 hfill⟩
  · rintro ⟨before, token, group, after, hparts, hbefore, hfault⟩
    exact ⟨before, (token, group), after, _, hparts, foldlM_fill_eq_ok_iff.2 ⟨hbefore, rfl⟩,
      (fill_eq_error_iff (hmatched hparts)).2 hfault⟩

end

/-- The record of a match has, in each field, what the last token for it says, and its default where
no token is for it; only the file is another one if it is given beforehand. There is a record exactly
when every group can be filled in for its token: the digits of a line and a column are not too many
and not all zero, and the word for a kind is one of the vocabulary. Otherwise the first group that
cannot be filled in is the error, which names it and the whole match. -/
theorem recordOf_first_fault_or_last_fields (tokens : List Token) (vocabulary : Vocabulary)
    (fileOverride : Text) (m : Match) :
    (∀ r, Template.recordOf ⟨tokens⟩ vocabulary fileOverride m = .ok r ↔
        (∀ part ∈ tokens.zip m.groups, part.1.Takes vocabulary part.2) ∧
          r = { Record.ofParts vocabulary (tokens.zip m.groups) with
            file := if fileOverride = [] then
              (Record.ofParts vocabulary (tokens.zip m.groups)).file else fileOverride }) ∧
      ∀ e, Template.recordOf ⟨tokens⟩ vocabulary fileOverride m = .error e ↔
        ∃ before token group after, tokens.zip m.groups = before ++ (token, group) :: after ∧
          (∀ part ∈ before, part.1.Takes vocabulary part.2) ∧
          token.Fault vocabulary m.text group e :=
  ⟨fun _ => recordOf_eq_ok_iff, fun _ => recordOf_eq_error_iff⟩

/-- A line that is zero is an error even if the line is given once more. -/
example : Template.recordOf ⟨[.placeholder .line, .literal [':'], .placeholder .line]⟩
    Vocabulary.standard [] ⟨0, [['0'], [':'], ['5']]⟩ =
      .error (.invalidNumber "line".toList ['0'] "0:5".toList) := by decide +kernel

end Diagnostics
