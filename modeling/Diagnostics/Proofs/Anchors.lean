import Mathlib.Tactic.SplitIfs
import Diagnostics.Normalize
import Diagnostics.Proofs.LineLocality
import Diagnostics.Proofs.Strictness
import Diagnostics.Proofs.Tokenization
import Diagnostics.Proofs.WordTables

/-!
# All matches are reported, or none

A match is a message if a token other than white space and wildcards has matched some text. No such
token of a template text matches the empty text (`Token.Admits.ne_nil`), since no raw token is empty
(`Template.literal_nil_notMem_ofText`) and no word of a vocabulary is. So one of these tokens in the
template makes messages of all matches (`Template.isMessage_of_mem_findAll`), and without one there
is no message. `parse_all_or_nothing` follows the matches up to what the user is told: each is a line
of output or one warning. What a warning looks like is up to the console that its words are handed
to. None of them has a line feed, whatever the match contains
(`ExtractionError.lineFeed_notMem_message`), so that a console which keeps such words on one line
(`Console.KeepsLines`) shows one line for each warning (`Console.count_flatMap`).
-/

namespace Diagnostics

/-! ## Messages -/

/-- The tokens that mark a message are those other than white space and wildcards. -/
theorem Token.isAnchor_iff {token : Token} : token.isAnchor = true ↔
    token ≠ .placeholder .whitespace ∧ token ≠ .placeholder .wildcard := by
  rcases token with (_ | _ | _ | _ | _ | _ | _) | _ <;> simp [isAnchor]

/-- A token that marks a message does not match the empty text, unless it is the empty literal. -/
theorem Token.Admits.ne_nil {vocabulary : Vocabulary} {token : Token} {left piece right : Text}
    (h : token.Admits vocabulary left piece right) (hanchor : token.isAnchor = true)
    (hliteral : token ≠ .literal []) : piece ≠ [] := by
  rcases token with (_ | _ | _ | _ | _ | _ | _) | text
  case placeholder.whitespace | placeholder.wildcard => exact Bool.noConfusion hanchor
  case placeholder.kind =>
    obtain ⟨⟨word, hword, hsame⟩, -⟩ := h
    have hne := (vocabulary.hasWordEdges word hword).ne_nil
    rwa [← List.length_pos_iff, hsame.length_eq, List.length_pos_iff] at hne
  case literal =>
    obtain rfl : piece = text := h
    rintro rfl
    exact hliteral rfl
  all_goals exact h.1

/-- No literal of a template text is empty. -/
theorem Template.literal_nil_notMem_ofText (text : Text) :
    Token.literal [] ∉ (ofText text).tokens := by
  intro hmem
  rcases mem_rawTokens_of_literal_mem hmem with h | h
  · simp at h
  · obtain ⟨_, _, heq⟩ := ((isTokenization_rawTokens text).isRawToken _ h).exists_eq_cons
    simp at heq

/-- Each token of a cut has a piece. -/
theorem IsCut.exists_mem_zip {vocabulary : Vocabulary} {tokens : List Token} {left right : Text}
    {pieces : List Text} (h : IsCut vocabulary tokens left pieces right) {token : Token}
    (htoken : token ∈ tokens) : ∃ piece, (token, piece) ∈ tokens.zip pieces := by
  obtain ⟨i, hi, rfl⟩ := List.getElem_of_mem htoken
  have hi' : i < (tokens.zip pieces).length := by
    rw [List.length_zip, h.length_eq, Nat.min_self]
    exact hi
  have hmem := List.getElem_mem hi'
  rw [List.getElem_zip] at hmem
  exact ⟨_, hmem⟩

section

variable {vocabulary : Vocabulary} {tokens : List Token} {text : Text} {m : Match}

/-- If a token marks a message, and no literal is empty, then every match is a message, and has some
text. -/
theorem Template.isMessage_of_mem_findAll
    (h : m ∈ (Template.pattern ⟨tokens⟩ vocabulary).findAll text)
    (hanchor : ∃ token ∈ tokens, token.isAnchor = true) (hliteral : Token.literal [] ∉ tokens) :
    isMessage ⟨tokens⟩ m = true ∧ m.text ≠ [] := by
  obtain ⟨earlier, later, hmatches⟩ := List.append_of_mem h
  obtain ⟨_, _, -, -, hcut⟩ := (isNextMatch_of_findAll hmatches).cutAt
  obtain ⟨token, htoken, hanchor⟩ := hanchor
  obtain ⟨piece, hmem⟩ := hcut.exists_mem_zip htoken
  obtain ⟨_, _, hadmits⟩ := hcut.exists_admits_of_mem_zip hmem
  have hpiece : piece ≠ [] := hadmits.ne_nil hanchor fun heq => hliteral (heq ▸ htoken)
  constructor
  · exact List.any_eq_true.2 ⟨_, hmem, by simp [hanchor, hpiece]⟩
  · intro hempty
    exact hpiece (List.flatten_eq_nil_iff.1 hempty piece (List.of_mem_zip hmem).2)

/-- If no token marks a message, then no match is a message. -/
theorem Template.isMessage_eq_false (hanchor : ∀ token ∈ tokens, token.isAnchor = false)
    (m : Match) : isMessage ⟨tokens⟩ m = false := by
  refine List.any_eq_false.2 fun part hpart => ?_
  rw [hanchor part.1 (List.of_mem_zip hpart).1]
  exact Bool.false_ne_true

end

/-! ## Warnings on one line -/

/-- No hexadecimal digit is a line feed. -/
theorem Text.lineFeed_notMem_hexDigits (width n : Nat) : '\n' ∉ hexDigits width n := by
  have hdigits : ∀ d < 16, '\n' ≠ Nat.digitChar d := by decide
  induction width generalizing n with
  | zero => exact List.not_mem_nil
  | succ width ih =>
    rw [hexDigits, List.mem_append, List.mem_singleton, not_or]
    exact ⟨ih _, hdigits _ (Nat.mod_lt n (by decide))⟩

/-- A character between quotes is not written as a line feed. -/
theorem Text.lineFeed_notMem_quotedChar {mark c : Char} (hmark : mark ≠ '\n') :
    '\n' ∉ quotedChar mark c := by
  unfold quotedChar
  split_ifs with hbackslash hfeed hreturn htab hprintable
  · rcases hbackslash with rfl | rfl
    · simpa using hmark.symm
    · decide
  · decide
  · decide
  · decide
  · simpa using Ne.symm hfeed
  · unfold escapedCodePoint
    dsimp only
    split_ifs <;> simpa using lineFeed_notMem_hexDigits _ _

/-- A quoted text is on one line. -/
theorem Text.lineFeed_notMem_quoted (t : Text) : '\n' ∉ t.quoted := by
  have hmark : t.quoteMark ≠ '\n' := by
    unfold quoteMark
    split <;> decide
  have hchars : '\n' ∉ t.flatMap (quotedChar t.quoteMark) := by
    intro hmem
    obtain ⟨c, -, hc⟩ := List.mem_flatMap.1 hmem
    exact lineFeed_notMem_quotedChar hmark hc
  simp [quoted, hmark.symm, hchars]

/-- An error is on one line if what is wrong with the match is. -/
theorem ExtractionError.lineFeed_notMem_message {e : ExtractionError} (h : '\n' ∉ e.description) :
    '\n' ∉ e.message := by
  have hin : '\n' ∉ " in ".toList := by decide
  simp only [message, List.mem_append, not_or]
  exact ⟨⟨h, hin⟩, Text.lineFeed_notMem_quoted _⟩

/-- The error of a word is on one line. -/
theorem ExtractionError.lineFeed_notMem_ofWord (word matched : Text) :
    '\n' ∉ (ofWord word matched).message := by
  have hdescription : (ofWord word matched).description =
      "Unexpected kind: ".toList ++ word.quoted := rfl
  have hunexpected : '\n' ∉ "Unexpected kind: ".toList := by decide
  refine lineFeed_notMem_message ?_
  rw [hdescription, List.mem_append, not_or]
  exact ⟨hunexpected, word.lineFeed_notMem_quoted⟩

/-- The error of a number is on one line if the name of its field is. -/
theorem ExtractionError.lineFeed_notMem_ofNumber {field : Text} (hfield : '\n' ∉ field)
    (value matched : Text) : '\n' ∉ (ofNumber field value matched).message := by
  have hdescription : (ofNumber field value matched).description =
      "Invalid ".toList ++ field ++ " number: ".toList ++ value.quoted := rfl
  have hinvalid : '\n' ∉ "Invalid ".toList := by decide
  have hnumber : '\n' ∉ " number: ".toList := by decide
  refine lineFeed_notMem_message ?_
  rw [hdescription]
  simp only [List.mem_append, not_or]
  exact ⟨⟨⟨hinvalid, hfield⟩, hnumber⟩, value.lineFeed_notMem_quoted⟩

/-- The error of a match that makes no record is on one line. -/
theorem Template.lineFeed_notMem_message {t : Template} {vocabulary : Vocabulary}
    {fileOverride : Text} {m : Match} {e : ExtractionError}
    (h : t.recordOf vocabulary fileOverride m = .error e) : '\n' ∉ e.message := by
  obtain ⟨part, -, r, hfill⟩ := exists_fill_of_recordOf_eq_error h
  rcases fill_eq_error hfill with ⟨-, -, hword⟩ | ⟨-, hline⟩ | ⟨-, hcolumn⟩
  · rw [hword]
    exact ExtractionError.lineFeed_notMem_ofWord _ _
  · rw [hline]
    exact ExtractionError.lineFeed_notMem_ofNumber (by decide) _ _
  · rw [hcolumn]
    exact ExtractionError.lineFeed_notMem_ofNumber (by decide) _ _

/-! ## Reports -/

/-- A report says what the extractor of the template reports. -/
theorem normalize_eq_of_ofTemplate {template fileOverride : Text} {vocabulary : Vocabulary}
    {x : Extractor} (hx : Extractor.ofTemplate template fileOverride vocabulary = .ok x)
    (output : Text) (strict : Bool) :
    (normalize output template fileOverride vocabulary strict).lines =
        (x.render strict output).mapError .extraction ∧
      (normalize output template fileOverride vocabulary strict).notices =
        x.notice :: x.renderNotices strict output := by
  rw [normalize, hx]
  exact ⟨rfl, rfl⟩

/-- Outside of verbose mode the user is shown one warning for each error, in order. -/
theorem Extractor.shown_notices_eq (x : Extractor) (t : Text) :
    Notice.shown false (x.notice :: x.renderNotices false t) = (x.parse t).errors.map .skipped := by
  rw [parse, Outcome.ofFindings_eq]
  exact x.filter_renderNotices_eq t

namespace Console

/-- The console shows words without line feeds on one line. -/
def KeepsLines (console : Console) : Prop :=
  ∀ words : List Text, (∀ word ∈ words, '\n' ∉ word) →
    ∃ line : Text, console words = line ++ ['\n'] ∧ '\n' ∉ line

/-- The plain console does so. -/
theorem keepsLines_plain : plain.KeepsLines := by
  refine fun words hwords => ⟨_, rfl, fun hmem => ?_⟩
  induction words with
  | nil => cases hmem
  | cons word words ih =>
    obtain ⟨hword, hrest⟩ := List.forall_mem_cons.1 hwords
    cases words with
    | nil => exact hword (by simpa using hmem)
    | cons next words =>
      have hmem' : '\n' ∈ word ++ ' ' :: List.intercalate [' '] (next :: words) := by
        simpa using hmem
      rcases List.mem_append.1 hmem' with hmem' | hmem'
      · exact hword hmem'
      · exact ih hrest ((List.mem_cons.1 hmem').resolve_left (by decide))

/-- Such a console shows as many lines as there are lists of words. -/
theorem count_flatMap {α : Type} {console : Console} (hconsole : console.KeepsLines)
    {words : α → List Text} {l : List α} (h : ∀ a ∈ l, ∀ word ∈ words a, '\n' ∉ word) :
    (l.flatMap fun a => console (words a)).count '\n' = l.length := by
  induction l with
  | nil => rfl
  | cons a l ih =>
    obtain ⟨ha, hl⟩ := List.forall_mem_cons.1 h
    obtain ⟨line, hline, hfeed⟩ := hconsole (words a) ha
    rw [List.flatMap_cons, List.count_append, ih hl, hline, List.count_append,
      List.count_eq_zero.2 hfeed, List.count_singleton_self, List.length_cons]
    omega

end Console

namespace Extractor

variable {x : Extractor} {template fileOverride : Text} {vocabulary : Vocabulary}

/-- If a token marks a message, then every match is found as a record or an error. -/
theorem findings_eq_map (hx : ofTemplate template fileOverride vocabulary = .ok x)
    (hanchor : ∃ token ∈ (Template.ofText template).tokens, token.isAnchor = true) (t : Text) :
    x.findings t = (x.pattern.findAll t).map (x.template.recordOf vocabulary fileOverride) := by
  obtain ⟨htemplate, rfl, rfl⟩ := eq_of_ofTemplate_eq_ok hx
  have hfinding : ∀ m ∈ x.pattern.findAll t, x.findingOf m =
      (some ∘ x.template.recordOf x.vocabulary x.fileOverride) m := by
    intro m hm
    rw [pattern_eq, htemplate] at hm
    have hmessage : x.template.isMessage m = true := by
      rw [htemplate]
      exact (Template.isMessage_of_mem_findAll hm hanchor
        (Template.literal_nil_notMem_ofText template)).1
    exact if_pos hmessage
  rw [findings, List.filterMap_congr hfinding, List.filterMap_eq_map]

/-- If no token marks a message, then nothing is found. -/
theorem findings_eq_nil (hx : ofTemplate template fileOverride vocabulary = .ok x)
    (hanchor : ∀ token ∈ (Template.ofText template).tokens, token.isAnchor = false) (t : Text) :
    x.findings t = [] := by
  obtain ⟨htemplate, -, -⟩ := eq_of_ofTemplate_eq_ok hx
  refine List.filterMap_eq_nil_iff.2 fun m _ => ?_
  rw [findingOf, htemplate, Template.isMessage_eq_false hanchor, if_neg Bool.false_ne_true]

end Extractor

/-- A template reports all of its matches or none. If it has a token other than white space and
wildcards, then every match has some text and gives one finding, so that the records and the errors
of a text are as many as the matches; a lenient report has one line for each record, and for each error
it hands one warning to the console, whatever this is, all in the order of the matches. A console that
keeps words without line feeds on one line shows one line for each error. If the template has no such
token, nothing is found in any text. -/
theorem parse_all_or_nothing (template fileOverride : Text) (vocabulary : Vocabulary)
    (x : Extractor) (hx : Extractor.ofTemplate template fileOverride vocabulary = .ok x) (t : Text) :
    ((∃ token ∈ (Template.ofText template).tokens,
        token ≠ .placeholder .whitespace ∧ token ≠ .placeholder .wildcard) →
      (∀ m ∈ x.pattern.findAll t, m.text ≠ []) ∧
      x.findings t = (x.pattern.findAll t).map (x.template.recordOf vocabulary fileOverride) ∧
      x.parse t =
        ⟨(x.findings t).filterMap Finding.record?, (x.findings t).filterMap Finding.error?⟩ ∧
      (x.parse t).records.length + (x.parse t).errors.length = (x.pattern.findAll t).length ∧
      (normalize t template fileOverride vocabulary false).lines =
        .ok ((x.parse t).records.map Record.render) ∧
      Notice.shown false (normalize t template fileOverride vocabulary false).notices =
        (x.parse t).errors.map .skipped ∧
      (∀ e ∈ (x.parse t).errors, '\n' ∉ e.message) ∧
      ∀ console : Console,
        console.transcript false (normalize t template fileOverride vocabulary false).notices =
          ((x.parse t).errors.flatMap fun e =>
            console ["Warning:".toList, "Skipped match:".toList, e.message]) ∧
        (console.KeepsLines →
          (console.transcript false
            (normalize t template fileOverride vocabulary false).notices).count '\n' =
              (x.parse t).errors.length)) ∧
    ((∀ token ∈ (Template.ofText template).tokens,
        token = .placeholder .whitespace ∨ token = .placeholder .wildcard) →
      x.parse t = ⟨[], []⟩) := by
  obtain ⟨hlines, hnotices⟩ := normalize_eq_of_ofTemplate hx t false
  constructor
  · intro hanchor
    simp only [← Token.isAnchor_iff] at hanchor
    have hfindings := Extractor.findings_eq_map hx hanchor t
    have hshown : Notice.shown false (normalize t template fileOverride vocabulary false).notices =
        (x.parse t).errors.map .skipped := by
      rw [hnotices, x.shown_notices_eq]
    have hmessages : ∀ e ∈ (x.parse t).errors, '\n' ∉ e.message := by
      intro e he
      have hmem := Outcome.mem_errors_ofFindings.1 he
      rw [hfindings] at hmem
      obtain ⟨m, -, herror⟩ := List.mem_map.1 hmem
      exact Template.lineFeed_notMem_message herror
    have hwords : ∀ e ∈ (x.parse t).errors, ∀ word ∈ (Notice.skipped e).words, '\n' ∉ word := by
      intro e he
      simpa [Notice.words] using hmessages e he
    refine ⟨fun m hm => ?_, hfindings, Outcome.ofFindings_eq _, ?_, ?_, hshown, hmessages,
      fun console => ⟨?_, fun hconsole => ?_⟩⟩
    · rw [x.pattern_eq, (Extractor.eq_of_ofTemplate_eq_ok hx).1] at hm
      exact (Template.isMessage_of_mem_findAll hm hanchor
        (Template.literal_nil_notMem_ofText template)).2
    · rw [Extractor.parse, Outcome.length_ofFindings, hfindings, List.length_map]
    · rw [hlines]
      rfl
    · rw [Console.transcript, hshown, List.flatMap_map]
      rfl
    · rw [Console.transcript, hshown, List.flatMap_map]
      exact Console.count_flatMap hconsole hwords
  · intro hnone
    have hanchor : ∀ token ∈ (Template.ofText template).tokens, token.isAnchor = false := by
      intro token htoken
      rcases hnone token htoken with rfl | rfl <;> rfl
    rw [Extractor.parse, Extractor.findings_eq_nil hx hanchor t]
    rfl

/-- The malformed match of the first line is named in a warning and that of the second one gives a
line, two in all, and the plain console shows one line; white space and wildcards report nothing of
the same text. -/
theorem parse_all_or_nothing_zero_line :
    let text := "a:0:1: error: b\nc:3:4: warning: d".toList
    (∃ token ∈ (Template.ofText Preset.passthrough.template).tokens,
        token ≠ .placeholder .whitespace ∧ token ≠ .placeholder .wildcard) ∧
      (Extractor.passthrough.pattern.findAll text).length = 2 ∧
      (normalize text Preset.passthrough.template [] Vocabulary.standard false).lines =
        .ok ["c:3:4: warning: d".toList] ∧
      Notice.shown false
          (normalize text Preset.passthrough.template [] Vocabulary.standard false).notices =
        [.skipped (.invalidNumber "line".toList "0".toList "a:0:1: error: b".toList)] ∧
      Console.plain.KeepsLines ∧
      Console.plain.transcript false
          (normalize text Preset.passthrough.template [] Vocabulary.standard false).notices =
        "Warning: Skipped match: Invalid line number: '0' in 'a:0:1: error: b'\n".toList ∧
      (Console.plain.transcript false
          (normalize text Preset.passthrough.template [] Vocabulary.standard
            false).notices).count '\n' = 1 ∧
      ∃ x, Extractor.ofTemplate "%.%*".toList [] Vocabulary.standard = .ok x ∧
        x.parse text = ⟨[], []⟩ := by
  intro text
  have hanchor : ∃ token ∈ (Template.ofText Preset.passthrough.template).tokens,
      token ≠ .placeholder .whitespace ∧ token ≠ .placeholder .wildcard :=
    ⟨.placeholder .file, by decide +kernel, by decide, by decide⟩
  have hparse : Extractor.passthrough.parse text =
      ⟨[⟨"c".toList, 3, 4, .warning, "d".toList⟩],
        [.invalidNumber "line".toList "0".toList "a:0:1: error: b".toList]⟩ := by decide +kernel
  obtain ⟨-, -, -, hcount, hlines, hshown, -, hconsole⟩ :=
    (parse_all_or_nothing _ _ _ _ Extractor.ofTemplate_passthrough text).1 hanchor
  obtain ⟨htranscript, hfeeds⟩ := hconsole .plain
  rw [hparse] at hcount hlines hshown htranscript hfeeds
  have hsize : ((Template.ofText "%.%*".toList).pattern Vocabulary.standard).size ≤
      Pattern.maxSize := by decide +kernel
  obtain ⟨x, hx⟩ := Extractor.exists_ofTemplate_eq_ok hsize []
  refine ⟨hanchor, hcount.symm, hlines.trans (by decide +kernel), hshown,
    Console.keepsLines_plain, htranscript.trans (by decide +kernel),
    hfeeds Console.keepsLines_plain, x, hx, ?_⟩
  refine (parse_all_or_nothing _ _ _ x hx text).2 ?_
  decide +kernel

end Diagnostics
