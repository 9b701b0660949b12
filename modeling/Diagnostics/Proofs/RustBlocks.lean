import Diagnostics.Proofs.PresetRuns

/-!
# Messages of the Rust compiler

The Rust compiler writes a message over several lines: the kind, a code and the message on the first
one, an arrow and the place on the second one, and behind it whatever else there is to say. A
`RustBlock` is such a text. The parts of a block are the first cut where the block begins
(`RustBlock.isFirstCut`): the code is the shortest text in front of a colon and a space, and the
file is the shortest one in front of a place. What else there is to say leads in the next block, so
the records of blocks that stand one after the other are found one after the other
(`RustBlock.findingsFrom_eq`), and a run gives their lines (`normalize_rust_blocks`).
-/

namespace Diagnostics

/-- What looks like the place behind a file stands in the file, with text of the file in front of
it: a colon and a number, and then a colon and a digit or the end of the file. -/
def HasInnerPlace (file : Text) : Prop :=
  ∃ shorter digits rest, shorter ≠ [] ∧ file = shorter ++ ':' :: (digits ++ rest) ∧
    digits ≠ [] ∧ (∀ c ∈ digits, isDigit c = true) ∧
    (rest = [] ∨ ∃ c others, isDigit c = true ∧ rest = ':' :: c :: others)

/-- A file with an inner place has a digit. -/
theorem HasInnerPlace.any_isDigit {file : Text} (h : HasInnerPlace file) :
    file.any isDigit = true := by
  obtain ⟨shorter, digits, rest, -, rfl, hne, hdigits, -⟩ := h
  obtain ⟨c, digits, rfl⟩ := List.exists_cons_of_ne_nil hne
  exact List.any_eq_true.2 ⟨c, by simp, hdigits c List.mem_cons_self⟩

/-- A message of the Rust compiler. -/
structure RustBlock where
  /-- What the message tells. -/
  record : Record
  /-- It can be told in a message. -/
  isWritable : record.IsWritable
  /-- The file does not look like one with a place. -/
  not_hasInnerPlace : ¬HasInnerPlace record.file
  /-- The word for the kind. -/
  word : Text
  /-- It is the name of the kind. -/
  isSpelled : record.kind.IsSpelled word
  /-- The code, with the brackets around it. -/
  code : Text
  /-- It stands on one line. -/
  lineFeed_notMem_code : '\n' ∉ code
  /-- It ends at the first colon and space. -/
  not_isInfix_code : ¬[':', ' '] <:+: code
  /-- It does not make the word longer. -/
  any_head?_code : code.head?.any isWordChar = false
  /-- The number of spaces in front of the arrow. -/
  indent : Nat
  /-- What else there is to say. -/
  body : Text
  /-- It takes up whole lines. -/
  body_eq : body = [] ∨ ∃ lines, body = lines ++ ['\n']
  /-- It does not begin another message. -/
  not_hasKind_body : ¬HasKind body

namespace RustBlock

/-- The tokens of a place behind a file. -/
def placeTokens : List Token :=
  [.literal [':'], .placeholder .line, .literal [':'], .placeholder .column]

/-- The tokens behind the kind. -/
def tokens : List Token :=
  .placeholder .wildcard :: .literal [':', ' '] :: .placeholder .message ::
    .placeholder .whitespace :: .literal "--> ".toList :: .placeholder .file :: placeTokens

/-- The template of the Rust preset. -/
theorem template_ofPreset :
    (Extractor.ofPreset .rust).template = ⟨.placeholder .kind :: tokens⟩ := by decide +kernel

/-- The parts of the message behind the kind. -/
def pieces (b : RustBlock) : List Text :=
  [b.code, [':', ' '], b.record.message, '\n' :: List.replicate b.indent ' ', "--> ".toList,
    b.record.file, [':'], decimal b.record.line, [':'], decimal b.record.column]

/-- The text of the message. -/
def text (b : RustBlock) : Text :=
  b.word ++ b.code ++ ": ".toList ++ b.record.message ++ "\n".toList ++
    List.replicate b.indent ' ' ++ "--> ".toList ++ b.record.file ++ ":".toList ++
    decimal b.record.line ++ ":".toList ++ decimal b.record.column ++ "\n".toList ++ b.body

/-- The text is made up of the parts, and what else there is to say on lines of its own. -/
theorem text_eq (b : RustBlock) :
    b.text = (b.word :: b.pieces).flatten ++ '\n' :: b.body := by
  simp [text, pieces]

/-! ## The parts are the first cut -/

/-- The pieces for a place are a line and a column with a colon in front of each. -/
theorem exists_of_isCut_place {left right : Text} {pieces : List Text}
    (h : IsCut Vocabulary.standard placeTokens left pieces right) :
    ∃ line column, pieces = [[':'], line, [':'], column] ∧
      (line ≠ [] ∧ ∀ c ∈ line, isDigit c = true) ∧
      column ≠ [] ∧ ∀ c ∈ column, isDigit c = true := by
  rcases h with _ | ⟨⟨⟩, _ | ⟨hline, h⟩⟩
  rcases h with _ | ⟨⟨⟩, _ | ⟨hcolumn, ⟨⟩⟩⟩
  exact ⟨_, _, rfl, hline, hcolumn⟩

/-- Where a colon follows a file, a place that begins inside of the file is an inner place. -/
theorem hasInnerPlace_of_isCut {left shorter more tail rest : Text} {others : List Text}
    (hcut : IsCut Vocabulary.standard placeTokens left others rest) (hshorter : shorter ≠ [])
    (hmore : more ≠ []) (heq : others.flatten ++ rest = more ++ ':' :: tail) :
    HasInnerPlace (shorter ++ more) := by
  obtain ⟨line, column, rfl, ⟨hline, hdigits⟩, hcolumn, hdigits'⟩ := exists_of_isCut_place hcut
  obtain ⟨x, more, rfl⟩ := List.exists_cons_of_ne_nil hmore
  obtain ⟨c, column, rfl⟩ := List.exists_cons_of_ne_nil hcolumn
  obtain ⟨rfl, hbehind⟩ :
      x = ':' ∧ more ++ ':' :: tail = line ++ ':' :: (c :: (column ++ rest)) := by
    simpa [eq_comm] using heq
  have hcolon : ':' ∉ line := notMem_of_isDigit_eq_false hdigits rfl
  -- The line ends with the file or in front of a colon in it.
  rcases append_cons_eq_append_cons hcolon hbehind with ⟨rfl, -⟩ | ⟨inner, rfl, hinner⟩
  · exact ⟨shorter, more, [], hshorter, by rw [List.append_nil], hline, hdigits, Or.inl rfl⟩
  · have hc : isDigit c = true := hdigits' c List.mem_cons_self
    cases inner with
    | nil =>
      obtain ⟨rfl, -⟩ := List.cons.inj hinner
      cases hc
    | cons d inner =>
      obtain ⟨rfl, -⟩ := List.cons.inj hinner
      exact ⟨shorter, line, _, hshorter, rfl, hline, hdigits, Or.inr ⟨d, inner, hc, rfl⟩⟩

/-- Where a colon and a space follow a text, a colon and a space that begin inside of the text are a
part of it. -/
theorem isInfix_of_append_eq {code more tail rest : Text} (hmore : more ≠ [])
    (heq : ':' :: ' ' :: rest = more ++ ':' :: ' ' :: tail) : [':', ' '] <:+: code ++ more := by
  rcases more with _ | ⟨x, _ | ⟨y, more⟩⟩
  · exact absurd rfl hmore
  · -- The space would be the colon behind the text.
    obtain ⟨-, hbehind⟩ := List.cons.inj heq
    cases hbehind
  · obtain ⟨rfl, hbehind⟩ := List.cons.inj heq
    obtain ⟨rfl, -⟩ := List.cons.inj hbehind
    exact ⟨code, more, by simp⟩

/-- The parts of the place are the first cut behind the file. -/
theorem isFirstCut_place (b : RustBlock) {left rest : Text} :
    IsFirstCut Vocabulary.standard placeTokens left
      [[':'], decimal b.record.line, [':'], decimal b.record.column] ('\n' :: rest) := by
  have hline : 0 ≤ b.record.line := Int.le_of_lt b.isWritable.one_le_line
  have hcolumn : 0 ≤ b.record.column := Int.le_of_lt b.isWritable.one_le_column
  refine .literal ?_
  refine .number (Or.inl rfl) decimal_ne_nil (fun _ => isDigit_of_mem_decimal hline) ?_
    (.literal ?_)
  · rintro c ⟨⟩
    rfl
  refine .number (Or.inr rfl) decimal_ne_nil (fun _ => isDigit_of_mem_decimal hcolumn) ?_ .nil
  rintro c ⟨⟩
  rfl

/-- The parts are the first cut where the message begins. -/
theorem isFirstCut (b : RustBlock) {left rest : Text}
    (hleft : left.getLast?.any isWordChar = false) :
    IsFirstCut Vocabulary.standard (.placeholder .kind :: tokens) left (b.word :: b.pieces)
      ('\n' :: rest) := by
  have hw := b.isWritable
  -- Behind the word there is the code, or else a colon.
  have hright : (b.pieces.flatten ++ '\n' :: rest).head?.any isWordChar = false := by
    have hcode := b.any_head?_code
    rw [pieces, List.flatten_cons]
    generalize b.code = code at hcode ⊢
    cases code with
    | nil => exact isWordChar_colon
    | cons c code => exact hcode
  refine .kind (b.isSpelled.admits hleft hright) ?_
  refine .shortest id b.lineFeed_notMem_code ?_ (.literal ?_)
  · -- A shorter code would have a colon and a space behind it already.
    intro code more others rest' hmore hcode heq hcut
    rcases hcut with _ | ⟨-, _ | ⟨⟨⟩, -⟩⟩
    apply b.not_isInfix_code
    rw [hcode]
    exact isInfix_of_append_eq hmore heq
  refine .message hw.message_ne_nil hw.lineFeed_notMem_message ?_ ?_
  · rintro c ⟨⟩
    rfl
  refine .whitespace (List.cons_ne_nil _ _) ?_ ?_ (.literal ?_)
  · intro c hc
    rcases List.mem_cons.1 hc with rfl | hc
    · rfl
    · obtain rfl := List.eq_of_mem_replicate hc
      rfl
  · rintro c ⟨⟩
    rfl
  refine .shortest id ⟨hw.file_ne_nil, hw.nul_notMem_file, hw.lineFeed_notMem_file⟩ ?_
    b.isFirstCut_place
  -- A shorter file would have a place behind it already.
  intro file more others rest' hmore hfile heq hcut
  rcases hcut with _ | ⟨⟨hne, -⟩, hplace⟩
  apply b.not_hasInnerPlace
  rw [hfile]
  exact hasInnerPlace_of_isCut hplace hne hmore heq

/-- The record of the parts is what the message tells. -/
theorem recordOf_pieces (b : RustBlock) (start : Nat) :
    Template.recordOf ⟨.placeholder .kind :: tokens⟩ Vocabulary.standard []
      ⟨start, b.word :: b.pieces⟩ = .ok b.record := by
  have hw := b.isWritable
  rw [Template.recordOf]
  dsimp only [tokens, placeTokens, pieces, List.zip_cons_cons]
  -- The parts are filled in one after the other. Of the code, the blanks and the punctuation nothing
  -- goes into the record.
  rw [foldlM_cons_of_eq_ok (Template.fill_kind b.isSpelled), foldlM_cons_of_eq_ok rfl,
    foldlM_cons_of_eq_ok rfl, foldlM_cons_of_eq_ok rfl, foldlM_cons_of_eq_ok rfl,
    foldlM_cons_of_eq_ok rfl, foldlM_cons_of_eq_ok rfl, foldlM_cons_of_eq_ok rfl,
    foldlM_cons_of_eq_ok (Template.fill_line hw.one_le_line hw.line_lt), foldlM_cons_of_eq_ok rfl,
    foldlM_cons_of_eq_ok (Template.fill_column hw.one_le_column hw.column_lt)]
  rfl

/-- What else there is to say leads in the next message. -/
theorem isLeadIn_body (b : RustBlock) {before : Text} : IsLeadIn before ('\n' :: b.body) := by
  refine .cons isWordChar_lineFeed (.of_not_hasKind b.not_hasKind_body ?_)
  rcases b.body_eq with hbody | ⟨lines, hbody⟩
  · rw [hbody]
    rfl
  · rw [hbody, List.getLast?_concat]
    exact isWordChar_lineFeed

/-! ## One block after the other -/

/-- Behind a lead-in, the records of the blocks are found one after the other. -/
theorem findingsFrom_eq (blocks : List RustBlock) {before lead : Text} {previous : Option Match}
    (hbefore : before.length = resumeOffset previous) (hlead : IsLeadIn before lead) :
    (Extractor.ofPreset .rust).findingsFrom
        (.resume (before ++ (lead ++ blocks.flatMap text)) previous) =
      blocks.map fun b => .ok b.record := by
  -- The text before grows by a block, and what else the block says becomes the next lead-in.
  induction blocks generalizing before lead previous with
  | nil =>
    rw [List.flatMap_nil, List.append_nil, Extractor.findingsFrom_eq_of_kind template_ofPreset rfl,
      hlead.all_resume_eq_nil hbefore]
    rfl
  | cons b blocks ih =>
    have htext : (b :: blocks).flatMap text =
        (b.word :: b.pieces).flatten ++ '\n' :: (b.body ++ blocks.flatMap text) := by
      rw [List.flatMap_cons, text_eq, List.append_assoc]
      rfl
    have hfinding : ∀ start, (Extractor.ofPreset .rust).findingOf ⟨start, b.word :: b.pieces⟩ =
        some (.ok b.record) := fun start =>
      Extractor.findingOf_eq_of_kind template_ofPreset b.isSpelled.ne_nil (b.recordOf_pieces start)
    obtain ⟨m, hstop, hfindings⟩ := hlead.exists_findingsFrom_eq template_ofPreset rfl hbefore
      (b.isFirstCut hlead.any_getLast?) hfinding
    have hrest := ih hstop b.isLeadIn_body
    rw [htext, hfindings, List.map_cons, ← hrest]
    simp

end RustBlock

/-- The messages of the Rust compiler, one after the other, give their records in order, one line
for each message, even in a strict run: the message may have colons, words for kinds and arrows in
it, and the file colons and spaces, as long as no place stands inside of the file. -/
theorem normalize_rust_blocks (blocks : List RustBlock) (strict : Bool) :
    (normalize (blocks.flatMap RustBlock.text) Preset.rust.template [] Vocabulary.standard
      strict).lines = .ok (blocks.map fun b => b.record.render) := by
  have hlead : IsLeadIn [] [] := .of_not_hasKind (by decide +kernel) rfl
  have hbefore : ([] : Text).length = resumeOffset none := rfl
  have hfindings : (Extractor.ofPreset .rust).findings (blocks.flatMap RustBlock.text) =
      (blocks.map RustBlock.record).map .ok := by
    rw [List.map_map]
    exact RustBlock.findingsFrom_eq blocks hbefore hlead
  rw [normalize_preset_lines hfindings, List.map_map]
  rfl

/-- Colons, a word for a kind and an arrow in a message, and a colon in a file, do no harm. -/
theorem normalize_rust_blocks_arrow :
    let output :=
      "error[E0308]: a: warning: b --> c:1:2\n --> d.rs:4:57\n  |\nWarning: e\n--> f:g:6:8\n".toList
    (normalize output Preset.rust.template [] Vocabulary.standard true).lines =
      .ok ["d.rs:4:57: error: a: warning: b --> c:1:2".toList, "f:g:6:8: warning: e".toList] := by
  intro output
  let first : RustBlock :=
    { record := ⟨"d.rs".toList, 4, 57, .error, "a: warning: b --> c:1:2".toList⟩
      isWritable := by decide +kernel
      not_hasInnerPlace := fun h => absurd h.any_isDigit (by decide)
      word := "error".toList
      isSpelled := by decide
      code := "[E0308]".toList
      lineFeed_notMem_code := by decide
      not_isInfix_code := by decide +kernel
      any_head?_code := by decide +kernel
      indent := 1
      body := "  |\n".toList
      body_eq := Or.inr ⟨"  |".toList, by decide⟩
      not_hasKind_body := by decide +kernel }
  let second : RustBlock :=
    { record := ⟨"f:g".toList, 6, 8, .warning, "e".toList⟩
      isWritable := by decide +kernel
      not_hasInnerPlace := fun h => absurd h.any_isDigit (by decide)
      word := "Warning".toList
      isSpelled := by decide
      code := []
      lineFeed_notMem_code := by decide
      not_isInfix_code := by decide +kernel
      any_head?_code := rfl
      indent := 0
      body := []
      body_eq := Or.inl rfl
      not_hasKind_body := by decide +kernel }
  have htext : [first, second].flatMap RustBlock.text = output := by decide +kernel +zetaReduce
  have hlines : [first, second].map (fun b => b.record.render) =
      ["d.rs:4:57: error: a: warning: b --> c:1:2".toList, "f:g:6:8: warning: e".toList] := by
    decide +kernel +zetaReduce
  rw [← htext, ← hlines]
  exact normalize_rust_blocks [first, second] true

end Diagnostics
