import Diagnostics.Proofs.LetterCase
import Diagnostics.Proofs.NextMatch
import Diagnostics.Proofs.RoundTrip

/-!
# Lines do not disturb each other

A token whose pieces have no line feed stays on its line (`Token.IsInLine`). If all tokens do, no cut
crosses a line feed, and a line feed next to a cut makes no other difference than the end of the
text. So the cuts of two texts with a line feed between them are the cuts of the one and the cuts of
the other (`cutAt_lineFeed_iff`). The matches are known by the cuts: they are those of the one and
then those of the other, further on (`findAll_append_lineFeed`). What an extractor finds in a match
does not depend on its place, so it finds in the lines of a text one by one what it finds in the
whole text (`findings_append_lineFeed`).
-/

namespace Diagnostics

/-- A line feed is no word character, like the end of a text. -/
theorem isWordChar_lineFeed : isWordChar '\n' = false := by decide +kernel

/-- The token describes only what stands on one line. White space does not, and words and literal
texts do if they have no line feed. -/
def Token.IsInLine (vocabulary : Vocabulary) : Token → Prop
  | placeholder .kind => ∀ word ∈ vocabulary.table.words, '\n' ∉ word
  | placeholder .whitespace => False
  | placeholder _ => True
  | literal text => '\n' ∉ text

/-- A piece that such a token admits has no line feed. -/
theorem Token.IsInLine.lineFeed_notMem {vocabulary : Vocabulary} {token : Token}
    {left piece right : Text} (h : token.IsInLine vocabulary)
    (hpiece : token.Admits vocabulary left piece right) : '\n' ∉ piece := by
  rcases token with (_ | _ | _ | _ | _ | _ | _) | text
  case placeholder.file => exact hpiece.2.2
  case placeholder.line | placeholder.column => exact notMem_of_isDigit_eq_false hpiece.2 rfl
  case placeholder.kind =>
    obtain ⟨⟨word, hword, hsame⟩, -⟩ := hpiece
    refine hsame.notMem fun hmem => ?_
    obtain ⟨c, hc, hkey⟩ := List.mem_map.1 hmem
    -- No other character is the same letter as a line feed.
    have hlineFeed : caselessKey '\n' = '\n' := by decide +kernel
    rw [eq_lineFeed_of_caselessKey_eq (hkey.trans hlineFeed)] at hc
    exact h word hword hc
  case placeholder.message => exact hpiece.2
  case placeholder.whitespace => exact h.elim
  case placeholder.wildcard => exact hpiece
  case literal =>
    obtain rfl : piece = text := hpiece
    exact h

section

variable {vocabulary : Vocabulary} {tokens : List Token} {left right before after : Text}
  {pieces : List Text}

/-! ## Cuts -/

/-- A cut for tokens that stay on their line has no line feed. -/
theorem IsCut.lineFeed_notMem (h : IsCut vocabulary tokens left pieces right)
    (hline : ∀ token ∈ tokens, token.IsInLine vocabulary) : '\n' ∉ pieces.flatten := by
  induction h with
  | nil => exact List.not_mem_nil
  | cons hpiece _ ih =>
    obtain ⟨htoken, htokens⟩ := List.forall_mem_cons.1 hline
    rw [List.flatten_cons, List.mem_append, not_or]
    exact ⟨htoken.lineFeed_notMem hpiece, ih htokens⟩

variable {x : Char}

/-- Behind a cut, a character that is no word character makes no difference, nor does the text behind
it. -/
theorem isCut_append_cons_iff (hx : isWordChar x = false) :
    IsCut vocabulary tokens left pieces (right ++ x :: after) ↔
      IsCut vocabulary tokens left pieces right := by
  have hright : (right ++ x :: after).head?.any isWordChar = right.head?.any isWordChar := by
    cases right with
    | nil => exact hx
    | cons c right => rfl
  exact ⟨fun h => h.congr rfl hright, fun h => h.congr rfl hright.symm⟩

/-- Whether a text ends in a word character does not depend on what stands in front of it, if a
character that is no word character stands between. -/
theorem any_getLast?_append_cons (hx : isWordChar x = false) :
    (before ++ x :: left).getLast?.any isWordChar = left.getLast?.any isWordChar := by
  rw [List.getLast?_append, List.getLast?_cons]
  cases left.getLast? with
  | none => exact hx
  | some c => rfl

/-- In front of a cut, a character that is no word character makes no difference, nor does the text
in front of it. -/
theorem isCut_cons_append_iff (hx : isWordChar x = false) :
    IsCut vocabulary tokens (before ++ x :: left) pieces right ↔
      IsCut vocabulary tokens left pieces right := by
  have hleft := @any_getLast?_append_cons left before x hx
  exact ⟨fun h => h.congr hleft rfl, fun h => h.congr hleft.symm rfl⟩

/-- A part of a text that does not have a character lies before a given place of that character or
behind it. -/
theorem append_cons_eq_append_append {piece : Text} (hpiece : x ∉ piece)
    (h : before ++ x :: after = left ++ (piece ++ right)) :
    (∃ rest, before = left ++ (piece ++ rest) ∧ right = rest ++ x :: after) ∨
      ∃ rest, left = before ++ x :: rest ∧ after = rest ++ (piece ++ right) := by
  rw [← List.append_assoc] at h
  rcases List.append_eq_append_iff.1 h with ⟨rest, hleft, hafter⟩ | ⟨rest, hbefore, hright⟩
  · cases rest with
    | nil =>
      refine Or.inl ⟨[], ?_, ?_⟩
      · simpa using hleft.symm
      · simpa using hafter.symm
    | cons c rest =>
      obtain ⟨rfl, rfl⟩ := List.cons.inj hafter
      -- The character belongs to the text before the piece, since the piece does not have it.
      rcases List.append_eq_append_iff.1 hleft with ⟨skipped, rfl, hpieces⟩ | ⟨skipped, hl, hc⟩
      · exact absurd (hpieces ▸ List.mem_append_right skipped List.mem_cons_self) hpiece
      · cases skipped with
        | nil =>
          have hmem : x ∈ piece := by
            rw [← show x :: rest = piece from hc]
            exact List.mem_cons_self
          exact absurd hmem hpiece
        | cons d skipped =>
          obtain ⟨rfl, rfl⟩ := List.cons.inj hc
          exact Or.inr ⟨skipped, hl, by simp⟩
  · exact Or.inl ⟨rest, by simpa using hbefore, hright⟩

/-- A character that is no word character and in no cut parts the cuts: those of two texts with it
between them are the cuts of the first text, and those of the second text at its place. -/
theorem cutAt_append_cons_iff (hx : isWordChar x = false)
    (hnotMem : ∀ left pieces right, IsCut vocabulary tokens left pieces right → x ∉ pieces.flatten)
    {offset : Nat} :
    CutAt vocabulary tokens (before ++ x :: after) offset pieces ↔
      CutAt vocabulary tokens before offset pieces ∨
        ∃ o, offset = before.length + 1 + o ∧ CutAt vocabulary tokens after o pieces := by
  constructor
  · rintro ⟨left, right, htext, rfl, hcut⟩
    rw [List.append_assoc] at htext
    rcases append_cons_eq_append_append (hnotMem _ _ _ hcut) htext with
      ⟨rest, rfl, rfl⟩ | ⟨rest, rfl, rfl⟩
    · exact Or.inl
        ⟨left, rest, (List.append_assoc ..).symm, rfl, (isCut_append_cons_iff hx).1 hcut⟩
    · refine Or.inr ⟨rest.length, ?_, rest, right, (List.append_assoc ..).symm, rfl,
        (isCut_cons_append_iff hx).1 hcut⟩
      rw [List.length_append, List.length_cons]
      omega
  · rintro (⟨left, right, rfl, rfl, hcut⟩ | ⟨_, rfl, left, right, rfl, rfl, hcut⟩)
    · exact ⟨left, right ++ x :: after, by simp, rfl, (isCut_append_cons_iff hx).2 hcut⟩
    · refine ⟨before ++ x :: left, right, by simp, ?_, (isCut_cons_append_iff hx).2 hcut⟩
      rw [List.length_append, List.length_cons]
      omega

/-- The cuts of two texts with a line feed between them are the cuts of the first text, and those of
the second text at its place. -/
theorem cutAt_lineFeed_iff (hline : ∀ token ∈ tokens, token.IsInLine vocabulary) {offset : Nat} :
    CutAt vocabulary tokens (before ++ '\n' :: after) offset pieces ↔
      CutAt vocabulary tokens before offset pieces ∨
        ∃ o, offset = before.length + 1 + o ∧ CutAt vocabulary tokens after o pieces :=
  cutAt_append_cons_iff isWordChar_lineFeed fun _ _ _ hcut => hcut.lineFeed_notMem hline

/-! ## Matches -/

variable {previous : Option Match}

/-- After a match of the first text there may follow a cut of the first text, and any cut of the
second one. -/
theorem follows_lineFeed_iff (hline : ∀ token ∈ tokens, token.IsInLine vocabulary)
    (hprevious : resumeOffset previous ≤ before.length) {offset : Nat} :
    Follows vocabulary tokens (before ++ '\n' :: after) previous offset pieces ↔
      Follows vocabulary tokens before previous offset pieces ∨
        ∃ o, offset = before.length + 1 + o ∧ Follows vocabulary tokens after none o pieces := by
  constructor
  · rintro ⟨hcut, hle, hmayFollow⟩
    rcases (cutAt_lineFeed_iff hline).1 hcut with hcut | ⟨o, rfl, hcut'⟩
    · exact Or.inl ⟨hcut, hle, hmayFollow⟩
    · exact Or.inr ⟨o, rfl, hcut', Nat.zero_le o, nofun⟩
  · rintro (⟨hcut, hle, hmayFollow⟩ | ⟨o, rfl, hcut, -, -⟩)
    · exact ⟨(cutAt_lineFeed_iff hline).2 (Or.inl hcut), hle, hmayFollow⟩
    · refine ⟨(cutAt_lineFeed_iff hline).2 (Or.inr ⟨o, rfl, hcut⟩), by omega, ?_⟩
      -- An empty match of the first text is not at the place of the cut.
      intro m hm hempty hstart
      obtain rfl : previous = some m := hm
      have hle : m.stop ≤ before.length := hprevious
      have hstop : m.start ≤ m.stop := Nat.le_add_right _ _
      omega

/-- The search goes through the matches that are left in the first text, and then through those of
the second text. -/
theorem all_resume_append_lineFeed (htokens : tokens ≠ [])
    (hline : ∀ token ∈ tokens, token.IsInLine vocabulary)
    (hprevious : resumeOffset previous ≤ before.length) :
    (Scan.resume (before ++ '\n' :: after) previous).all (Template.pattern ⟨tokens⟩ vocabulary) =
      (Scan.resume before previous).all (Template.pattern ⟨tokens⟩ vocabulary) ++
        ((Template.pattern ⟨tokens⟩ vocabulary).findAll after).map
          (Match.shift (before.length + 1)) := by
  have hwhole : resumeOffset previous ≤ (before ++ '\n' :: after).length := by
    rw [List.length_append]
    omega
  generalize hall : (Scan.resume before previous).all (Template.pattern ⟨tokens⟩ vocabulary) = ms
  induction ms generalizing previous with
  | nil =>
    -- No cut of the first text is left, so those that follow are the cuts of the second one.
    have hstart : resumeOffset none ≤ after.length := Nat.zero_le _
    rw [all_resume_eq_nil_iff hprevious htokens] at hall
    refine all_resume_eq_map_shift htokens ?_ ?_ hstart hwhole
    · intro offset pieces hoffset
      refine (cutAt_lineFeed_iff hline).trans (or_iff_right fun hcut => ?_)
      have hle := hcut.extract_eq.1
      omega
    · intro offset pieces
      exact (follows_lineFeed_iff hline hprevious).trans (or_iff_right (hall offset pieces))
  | cons m ms ih =>
    obtain ⟨hnext, hall⟩ := isNextMatch_of_all_resume_eq_cons hprevious hall
    have hnext' : IsNextMatch vocabulary tokens (before ++ '\n' :: after) previous m := by
      obtain ⟨hm, hleast⟩ := isNextMatch_iff.1 hnext
      have hm' : Follows vocabulary tokens (before ++ '\n' :: after) previous m.start m.groups :=
        (follows_lineFeed_iff hline hprevious).2 (Or.inl hm)
      refine isNextMatch_iff.2 ⟨hm', fun offset pieces hother => ?_⟩
      rcases (follows_lineFeed_iff hline hprevious).1 hother with hother | ⟨o, rfl, -⟩
      · exact hleast offset pieces hother
      · have hstop := hnext.stop_le
        have hle : m.start ≤ m.stop := Nat.le_add_right _ _
        exact ⟨by omega, fun heq => by omega⟩
    have hrest := @ih (some m) hnext.stop_le hnext'.stop_le hall
    rw [hnext'.all_resume_eq hwhole htokens, hrest, List.cons_append]

/-- The matches of two texts with a line feed between them are those of the first text, and then
those of the second one at its place. -/
theorem findAll_append_lineFeed (hline : ∀ token ∈ tokens, token.IsInLine vocabulary) :
    (Template.pattern ⟨tokens⟩ vocabulary).findAll (before ++ '\n' :: after) =
      (Template.pattern ⟨tokens⟩ vocabulary).findAll before ++
        ((Template.pattern ⟨tokens⟩ vocabulary).findAll after).map
          (Match.shift (before.length + 1)) := by
  rcases Decidable.em (tokens = []) with rfl | htokens
  · rw [findAll_nil, findAll_nil, findAll_nil]
    rfl
  · have hstart : resumeOffset none ≤ before.length := Nat.zero_le _
    exact all_resume_append_lineFeed htokens hline hstart

end

/-! ## Findings -/

/-- What an extractor finds in a match does not depend on the place of the match. -/
theorem Extractor.findingOf_shift (x : Extractor) (distance : Nat) (m : Match) :
    x.findingOf (m.shift distance) = x.findingOf m := rfl

/-- The literal texts of a template are parts of the text that describes it, but for the percent sign
that stands for two. -/
theorem Template.mem_rawTokens_of_literal_mem {text t : Text}
    (h : Token.literal t ∈ (ofText text).tokens) : t = ['%'] ∨ t ∈ rawTokens text := by
  obtain ⟨raw, hraw, htoken⟩ := List.mem_map.1 h
  unfold Token.ofRaw at htoken
  split at htoken
  · exact Or.inl (Token.literal.inj htoken).symm
  · split at htoken
    · simp at htoken
    · exact Or.inr (Token.literal.inj htoken ▸ hraw)

/-- The tokens of a template on one line, without white space, stay on their line. -/
theorem Template.isInLine_of_mem_ofText {text : Text} {vocabulary : Vocabulary}
    (htext : '\n' ∉ text) (hblank : Token.placeholder .whitespace ∉ (ofText text).tokens)
    (hwords : ∀ word ∈ vocabulary.table.words, '\n' ∉ word) :
    ∀ token ∈ (ofText text).tokens, token.IsInLine vocabulary := by
  intro token htoken
  rcases token with (_ | _ | _ | _ | _ | _ | _) | t
  case placeholder.kind => exact hwords
  case placeholder.whitespace => exact hblank htoken
  case literal =>
    rcases mem_rawTokens_of_literal_mem htoken with rfl | hraw
    · exact (by decide : '\n' ∉ ['%'])
    · intro hmem
      have hflatten := List.mem_flatten_of_mem hraw hmem
      rw [flatten_rawTokens] at hflatten
      exact htext hflatten
  all_goals trivial

section

variable {x : Extractor} (hline : ∀ token ∈ x.template.tokens, token.IsInLine x.vocabulary)
include hline

/-- If all tokens stay on their line, the findings in two texts with a line feed between them are
those in the first text and then those in the second one. -/
theorem Extractor.findings_append_of_isInLine (before after : Text) :
    x.findings (before ++ '\n' :: after) = x.findings before ++ x.findings after := by
  have hmatches : (x.template.pattern x.vocabulary).findAll (before ++ '\n' :: after) = _ :=
    findAll_append_lineFeed hline
  have hshift : x.findingOf ∘ Match.shift (before.length + 1) = x.findingOf :=
    funext (x.findingOf_shift _)
  simp only [findings, pattern_eq]
  rw [hmatches, List.filterMap_append, List.filterMap_map, hshift]

/-- If all tokens stay on their line, the findings in a text are those in its lines. -/
theorem Extractor.findings_intercalate_of_isInLine (line : Text) (lines : List Text) :
    x.findings (List.intercalate ['\n'] (line :: lines)) =
      (line :: lines).flatMap x.findings := by
  induction lines generalizing line with
  | nil => simp
  | cons next lines ih =>
    have hparts : List.intercalate ['\n'] (line :: next :: lines) =
        line ++ '\n' :: List.intercalate ['\n'] (next :: lines) := by
      rw [List.intercalate_cons_cons, List.append_assoc, List.singleton_append]
    rw [hparts, findings_append_of_isInLine hline, ih]
    exact List.flatMap_cons.symm

end

/-- Lines do not disturb each other. If the template stands on one line and has no white space
token, and no word of the vocabulary has a line feed, then what an extractor finds in two texts with
a line feed between them, records and errors, is what it finds in the first one followed by what it
finds in the second one. So it finds in a text what it finds in each of its lines alone. -/
theorem findings_append_lineFeed (template fileOverride : Text) (vocabulary : Vocabulary)
    (x : Extractor) (hx : Extractor.ofTemplate template fileOverride vocabulary = .ok x)
    (htemplate : '\n' ∉ template)
    (hblank : Token.placeholder .whitespace ∉ (Template.ofText template).tokens)
    (hwords : ∀ word ∈ vocabulary.table.words, '\n' ∉ word) :
    (∀ a b, x.findings (a ++ '\n' :: b) = x.findings a ++ x.findings b) ∧
      ∀ line lines, x.findings (List.intercalate ['\n'] (line :: lines)) =
        (line :: lines).flatMap x.findings := by
  obtain ⟨htokens, rfl, -⟩ := Extractor.eq_of_ofTemplate_eq_ok hx
  have hline : ∀ token ∈ x.template.tokens, token.IsInLine x.vocabulary := by
    rw [htokens]
    exact Template.isInLine_of_mem_ofText htemplate hblank hwords
  exact ⟨Extractor.findings_append_of_isInLine hline,
    Extractor.findings_intercalate_of_isInLine hline⟩

/-- The record of the first line and the error of the last one are found as in the lines alone, with
a line between them in which nothing is found. -/
theorem findings_append_lineFeed_passthrough :
    '\n' ∉ Preset.passthrough.template ∧
      Token.placeholder .whitespace ∉ (Template.ofText Preset.passthrough.template).tokens ∧
      (∀ word ∈ Vocabulary.standard.table.words, '\n' ∉ word) ∧
      Extractor.passthrough.findings "a:1:2: error: b\nc\nd:0:1: warning: e".toList =
        [.ok ⟨"a".toList, 1, 2, .error, "b".toList⟩] ++ [] ++
          [.error (.invalidNumber "line".toList "0".toList "d:0:1: warning: e".toList)] := by
  have htemplate : '\n' ∉ Preset.passthrough.template := by decide
  have hblank : Token.placeholder .whitespace ∉
      (Template.ofText Preset.passthrough.template).tokens := by decide +kernel
  have hwords : ∀ word ∈ Vocabulary.standard.table.words, '\n' ∉ word := by decide +kernel
  have hfindings := findings_append_lineFeed _ _ _ _ Extractor.ofTemplate_passthrough htemplate
    hblank hwords
  have hlines := hfindings.2 "a:1:2: error: b".toList ["c".toList, "d:0:1: warning: e".toList]
  have hfirst : Extractor.passthrough.findings "a:1:2: error: b".toList =
      [.ok ⟨"a".toList, 1, 2, .error, "b".toList⟩] := by decide +kernel
  have hsecond : Extractor.passthrough.findings "c".toList = [] := by decide +kernel
  have hthird : Extractor.passthrough.findings "d:0:1: warning: e".toList =
      [.error (.invalidNumber "line".toList "0".toList "d:0:1: warning: e".toList)] := by
    decide +kernel
  refine ⟨htemplate, hblank, hwords, hlines.trans ?_⟩
  rw [List.flatMap_cons, List.flatMap_cons, List.flatMap_cons, hfirst, hsecond, hthird]
  rfl

end Diagnostics
