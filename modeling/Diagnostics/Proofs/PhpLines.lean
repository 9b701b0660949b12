import Diagnostics.Proofs.PresetRuns

/-!
# Messages of the PHP interpreter

The PHP interpreter writes a message on one line: the kind, the message, the file and the number of
the line, with words between them that the message and the file may have in them, too. A `PhpLine`
is such a line. Its parts are the first cut where the kind begins (`PhpLine.isFirstCut`). The message
is the longest text in front of ` in `: one that goes on further would leave ` in ` in the file
(`PhpLine.isInfix_of_longer_message`), since no ` on line ` begins behind the one that is there. The
file is the shortest text in front of ` on line ` and a digit: one that ends earlier would leave both
in the file (`PhpLine.exists_of_shorter_file`). So every line gives its record
(`PhpLine.findings_text`), and a run gives the lines of the records (`normalize_php_lines`).
-/

namespace Diagnostics

/-- The words between the message and the file. -/
def inWords : Text := " in ".toList

/-- The words between the file and the number of the line. -/
def onLineWords : Text := " on line ".toList

/-- The words in front of the number of a line, with a digit behind them, stand in the file, with
text of the file in front of them. -/
def HasInnerNumber (file : Text) : Prop :=
  ∃ shorter c rest, shorter ≠ [] ∧ isDigit c = true ∧
    file = shorter ++ (onLineWords ++ c :: rest)

/-- A file with an inner number has a digit. -/
theorem HasInnerNumber.any_isDigit {file : Text} (h : HasInnerNumber file) :
    file.any isDigit = true := by
  obtain ⟨shorter, c, rest, -, hc, rfl⟩ := h
  exact List.any_eq_true.2 ⟨c, by simp, hc⟩

/-- A message of the PHP interpreter on a line of its own. -/
structure PhpLine where
  /-- What the message tells. It has no column. -/
  record : Record
  /-- It can be told in a message. -/
  isWritable : record.IsWritable
  /-- A message without a column is about the first one. -/
  column_eq : record.column = 1
  /-- The file cannot be parted at the words in front of a file. -/
  not_isInfix_file : ¬inWords <:+: ' ' :: record.file
  /-- The file does not look like one with the number of a line. -/
  not_hasInnerNumber : ¬HasInnerNumber record.file
  /-- What stands in front of the kind. -/
  lead : Text
  /-- It stands on the line. -/
  lineFeed_notMem_lead : '\n' ∉ lead
  /-- It does not make the word longer. -/
  any_getLast?_lead : lead.getLast?.any isWordChar = false
  /-- It does not begin another message. -/
  not_hasKind_lead : ¬HasKind lead
  /-- The word for the kind. -/
  word : Text
  /-- It is the name of the kind. -/
  isSpelled : record.kind.IsSpelled word

namespace PhpLine

/-- The tokens behind the kind. -/
def tokens : List Token :=
  [.literal [':', ' '], .placeholder .message, .literal inWords, .placeholder .file,
    .literal onLineWords, .placeholder .line]

/-- The template of the PHP preset. -/
theorem template_ofPreset :
    (Extractor.ofPreset .php).template = ⟨.placeholder .kind :: tokens⟩ := by decide +kernel

/-- The parts of the message behind the kind. -/
def pieces (l : PhpLine) : List Text :=
  [[':', ' '], l.record.message, inWords, l.record.file, onLineWords, decimal l.record.line]

/-- The text of the line. -/
def text (l : PhpLine) : Text :=
  l.lead ++ l.word ++ ": ".toList ++ l.record.message ++ " in ".toList ++ l.record.file ++
    " on line ".toList ++ decimal l.record.line

/-- The text is what stands in front of the kind, and the parts. -/
theorem text_eq (l : PhpLine) : l.text = l.lead ++ (l.word :: l.pieces).flatten := by
  simp only [text, pieces, List.flatten_cons, List.flatten_nil, List.append_nil, List.append_assoc]
  rfl

/-! ## The words between the parts -/

/-- Behind the words in front of a number these words do not begin again, since they end in a space
and the number has none. -/
theorem eq_nil_of_append_onLineWords {more digits rest : Text} (hdigits : ' ' ∉ digits)
    (h : onLineWords ++ digits = more ++ (onLineWords ++ rest)) : more = [] := by
  have hwords : onLineWords = " on line".toList ++ [' '] := by decide
  have h' : onLineWords ++ digits = (more ++ " on line".toList) ++ ' ' :: rest := by
    rw [h, hwords]
    simp
  rcases List.append_eq_append_iff.1 h' with ⟨skipped, -, hbehind⟩ | ⟨skipped, hlength, hbehind⟩
  · exact absurd (hbehind ▸ List.mem_append_right skipped List.mem_cons_self) hdigits
  · cases skipped with
    | nil =>
      have hnumber : ' ' :: rest = digits := hbehind
      exact absurd (hnumber ▸ List.mem_cons_self) hdigits
    | cons c skipped =>
      have hcount := congrArg List.length hlength
      rw [List.length_append, List.length_append, List.length_cons] at hcount
      have honLine : onLineWords.length = " on line".toList.length + 1 := by decide
      exact List.length_eq_zero_iff.1 (by omega)

/-- A message that goes on further leaves the words in front of a file in the file. -/
theorem isInfix_of_longer_message {more file file' digits rest : Text} (hmore : more ≠ [])
    (hdigits : ' ' ∉ digits)
    (h : more ++ (inWords ++ (file' ++ (onLineWords ++ rest))) =
      inWords ++ (file ++ (onLineWords ++ digits))) :
    inWords <:+: ' ' :: file := by
  -- The words in front of the number are the last ones, so the shorter file ends in the longer one.
  obtain ⟨tail, htail⟩ : ∃ tail, inWords ++ file = more ++ (inWords ++ tail) := by
    have h' : (more ++ (inWords ++ file')) ++ (onLineWords ++ rest) =
        (inWords ++ file) ++ (onLineWords ++ digits) := by simpa using h
    rcases List.append_eq_append_iff.1 h' with ⟨tail, hfile, -⟩ | ⟨skipped, hfile, hwords⟩
    · exact ⟨file' ++ tail, by rw [hfile]; simp⟩
    · obtain rfl := eq_nil_of_append_onLineWords hdigits hwords
      exact ⟨file', by rw [hfile, List.append_nil]⟩
  have hwords : inWords = " in".toList ++ [' '] := by decide
  have hspace : " in".toList ++ ' ' :: file = more ++ (inWords ++ tail) := by
    rw [← htail, hwords]
    simp
  rcases List.append_eq_append_iff.1 hspace with ⟨skipped, -, hfile⟩ | ⟨skipped, hin, hfile⟩
  · exact ⟨skipped, tail, by rw [hfile]; simp⟩
  · -- No other character of the words is a space, with which they begin.
    obtain ⟨c, more, rfl⟩ := List.exists_cons_of_ne_nil hmore
    cases skipped with
    | nil => exact ⟨[], tail, hfile⟩
    | cons d skipped =>
      have hd : ' ' = d := (List.cons.inj hfile).1
      have htail : "in".toList = more ++ d :: skipped := (List.cons.inj hin).2
      have hmem : ' ' ∈ "in".toList := by
        rw [htail, hd]
        exact List.mem_append_right more List.mem_cons_self
      exact absurd hmem (by decide)

/-- A file that ends earlier leaves the words in front of a number and a digit in the file. -/
theorem exists_of_shorter_file {more rest tail : Text} {c : Char} (hc : isDigit c = true)
    (hmore : more ≠ []) (h : onLineWords ++ c :: rest = more ++ (onLineWords ++ tail)) :
    ∃ inner, more = onLineWords ++ c :: inner := by
  have hnone : onLineWords.any isDigit = false := by decide +kernel
  rcases List.append_eq_append_iff.1 h with ⟨skipped, rfl, hbehind⟩ | ⟨skipped, hwords, hbehind⟩
  · cases skipped with
    | nil =>
      obtain rfl : c = ' ' := (List.cons.inj hbehind).1
      cases hc
    | cons d inner =>
      obtain rfl : c = d := (List.cons.inj hbehind).1
      exact ⟨inner, rfl⟩
  · -- The digit would stand in the words.
    have hlt : skipped.length < onLineWords.length := by
      have hpos := List.length_pos_iff.2 hmore
      rw [hwords, List.length_append]
      omega
    have hget : (onLineWords ++ tail)[skipped.length]? = some c := by
      rw [hbehind, List.getElem?_append_right (Nat.le_refl _), Nat.sub_self]
      rfl
    rw [List.getElem?_append_left hlt] at hget
    exact absurd hc (List.any_eq_false.1 hnone c (List.mem_of_getElem? hget))

/-! ## The parts are the first cut -/

/-- The parts are the first cut where the kind begins. -/
theorem isFirstCut (l : PhpLine) {left : Text} (hleft : left.getLast?.any isWordChar = false) :
    IsFirstCut Vocabulary.standard (.placeholder .kind :: tokens) left (l.word :: l.pieces) [] := by
  have hw := l.isWritable
  have hdigits : ∀ c ∈ decimal l.record.line, isDigit c = true := fun _ =>
    isDigit_of_mem_decimal (Int.le_of_lt hw.one_le_line)
  refine .kind (l.isSpelled.admits hleft isWordChar_colon) (.literal ?_)
  refine .longest id ⟨hw.message_ne_nil, hw.lineFeed_notMem_message⟩ ?_ (.literal ?_)
  · -- A longer message would have the words in front of the file behind it again.
    intro more others rest hmore heq hcut
    rcases hcut with _ | ⟨-, _ | ⟨⟨⟩, _ | ⟨-, _ | ⟨⟨⟩, -⟩⟩⟩⟩
    rename_i file pieces
    have hspace : ' ' ∉ decimal l.record.line := notMem_of_isDigit_eq_false hdigits rfl
    refine l.not_isInfix_file (@isInfix_of_longer_message more _ file _ (pieces.flatten ++ rest)
      hmore hspace ?_)
    simpa using heq
  refine .shortest id ⟨hw.file_ne_nil, hw.nul_notMem_file, hw.lineFeed_notMem_file⟩ ?_
    (.literal (.number (Or.inl rfl) decimal_ne_nil hdigits nofun .nil))
  -- A shorter file would have the words in front of the number behind it already.
  intro file more others rest hmore hfile heq hcut
  rcases hcut with _ | ⟨⟨hne, -⟩, _ | ⟨⟨⟩, _ | ⟨⟨hne', hdigits'⟩, ⟨⟩⟩⟩⟩
  obtain ⟨c, digits, rfl⟩ := List.exists_cons_of_ne_nil hne'
  have hc : isDigit c = true := hdigits' c List.mem_cons_self
  obtain ⟨inner, hinner⟩ := exists_of_shorter_file hc hmore (by simpa using heq)
  exact l.not_hasInnerNumber ⟨file, c, inner, hne, hc, hfile.trans (congrArg _ hinner)⟩

/-- The record of the parts is what the message tells. -/
theorem recordOf_pieces (l : PhpLine) (start : Nat) :
    Template.recordOf ⟨.placeholder .kind :: tokens⟩ Vocabulary.standard []
      ⟨start, l.word :: l.pieces⟩ = .ok l.record := by
  have hw := l.isWritable
  rw [Template.recordOf]
  dsimp only [tokens, pieces, List.zip_cons_cons]
  -- The parts are filled in one after the other, and the column is left as it was.
  rw [foldlM_cons_of_eq_ok (Template.fill_kind l.isSpelled), foldlM_cons_of_eq_ok rfl,
    foldlM_cons_of_eq_ok rfl, foldlM_cons_of_eq_ok rfl, foldlM_cons_of_eq_ok rfl,
    foldlM_cons_of_eq_ok rfl, foldlM_cons_of_eq_ok (Template.fill_line hw.one_le_line hw.line_lt)]
  show Except.ok (⟨l.record.file, l.record.line, 1, l.record.kind, l.record.message⟩ : Record) = _
  rw [← l.column_eq]

/-! ## One line after the other -/

/-- What is found in the line is what the message tells. -/
theorem findings_text (l : PhpLine) :
    (Extractor.ofPreset .php).findings l.text = [.ok l.record] := by
  have hlead : IsLeadIn [] l.lead := .of_not_hasKind l.not_hasKind_lead l.any_getLast?_lead
  have hfinding : ∀ start, (Extractor.ofPreset .php).findingOf ⟨start, l.word :: l.pieces⟩ =
      some (.ok l.record) := fun start =>
    Extractor.findingOf_eq_of_kind template_ofPreset l.isSpelled.ne_nil (l.recordOf_pieces start)
  have hbefore : ([] : Text).length = resumeOffset none := rfl
  obtain ⟨m, hstop, hfindings⟩ := hlead.exists_findingsFrom_eq template_ofPreset rfl hbefore
    (l.isFirstCut hlead.any_getLast?) hfinding
  rw [List.nil_append, List.append_nil, ← text_eq] at hfindings
  rw [List.nil_append, ← text_eq] at hstop
  -- The match ends with the line, so nothing else is found behind it.
  have hend : (Extractor.ofPreset .php).findingsFrom (.resume l.text (some m)) = [] := by
    rw [Extractor.findingsFrom_eq_of_kind template_ofPreset rfl,
      all_resume_eq_nil_of_kind (Nat.le_of_eq hstop.symm) fun _ _ _ hoffset => hstop ▸ hoffset]
    rfl
  rw [hend] at hfindings
  exact hfindings

/-- All tokens stay on their line. -/
theorem isInLine_tokens : ∀ token ∈ (Extractor.ofPreset .php).template.tokens,
    token.IsInLine (Extractor.ofPreset .php).vocabulary :=
  Template.isInLine_of_mem_ofText (by decide) (by decide +kernel) (by decide +kernel)

end PhpLine

/-- The messages of the PHP interpreter, one on each line, give their records in order, one line for
each message, even in a strict run: the message may have the words in front of a file or of a number
in it, and words for kinds. -/
theorem normalize_php_lines (lines : List PhpLine) (strict : Bool) :
    (normalize (List.intercalate ['\n'] (lines.map PhpLine.text)) Preset.php.template []
      Vocabulary.standard strict).lines = .ok (lines.map fun l => l.record.render) := by
  have hfindings : (Extractor.ofPreset .php).findings
      (List.intercalate ['\n'] (lines.map PhpLine.text)) = (lines.map PhpLine.record).map .ok := by
    cases lines with
    | nil => decide +kernel
    | cons l lines =>
      rw [List.map_cons, Extractor.findings_intercalate_of_isInLine PhpLine.isInLine_tokens,
        ← List.map_cons, List.flatMap_map, List.map_map]
      simp only [PhpLine.findings_text]
      exact List.map_eq_flatMap.symm
  rw [normalize_preset_lines hfindings, List.map_map]
  rfl

/-- The words between the parts do no harm in the message, nor those in front of a number in the
file, nor does a word for a kind in the message. -/
theorem normalize_php_lines_words :
    let output := "[1] Error: a in b on line 3 in c on line d on line 12\n".toList ++
      "PHP warning: error: e in f on line 4".toList
    (normalize output Preset.php.template [] Vocabulary.standard true).lines =
      .ok ["c on line d:12:1: error: a in b on line 3".toList,
        "f:4:1: warning: error: e".toList] := by
  intro output
  let first : PhpLine :=
    { record := ⟨"c on line d".toList, 12, 1, .error, "a in b on line 3".toList⟩
      isWritable := by decide +kernel
      column_eq := rfl
      not_isInfix_file := by decide +kernel
      not_hasInnerNumber := fun h => absurd h.any_isDigit (by decide +kernel)
      lead := "[1] ".toList
      lineFeed_notMem_lead := by decide
      any_getLast?_lead := by decide +kernel
      not_hasKind_lead := by decide +kernel
      word := "Error".toList
      isSpelled := by decide }
  let second : PhpLine :=
    { record := ⟨"f".toList, 4, 1, .warning, "error: e".toList⟩
      isWritable := by decide +kernel
      column_eq := rfl
      not_isInfix_file := by decide +kernel
      not_hasInnerNumber := fun h => absurd h.any_isDigit (by decide +kernel)
      lead := "PHP ".toList
      lineFeed_notMem_lead := by decide
      any_getLast?_lead := by decide +kernel
      not_hasKind_lead := by decide +kernel
      word := "warning".toList
      isSpelled := by decide }
  have htext : List.intercalate ['\n'] ([first, second].map PhpLine.text) = output := by
    decide +kernel +zetaReduce
  have hlines : [first, second].map (fun l => l.record.render) =
      ["c on line d:12:1: error: a in b on line 3".toList, "f:4:1: warning: error: e".toList] := by
    decide +kernel +zetaReduce
  rw [← htext, ← hlines]
  exact normalize_php_lines [first, second] true

end Diagnostics
