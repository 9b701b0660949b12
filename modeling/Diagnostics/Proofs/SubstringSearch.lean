import Diagnostics.Proofs.Anchors
import Diagnostics.Proofs.NextMatch
import Diagnostics.Proofs.Rendering

/-!
# Literal templates

With each percent sign doubled, any text is a template of literals that make up this text: no step of
the scan makes another placeholder (`IsLiteralRaw.pushChar`, `IsLiteralRaw.pushChar_percent`). The
only cut for literals is their texts, so the matches of such a template are where its whole text
stands, each the first occurrence behind the match before it (`all_resume_literals`). A match of
literals fills in nothing, so each gives the record of the defaults. Together the template searches
the text for a substring (`literal_template_occurrences`).
-/

namespace Diagnostics

/-! ## Doubled percent signs -/

/-- The text with each percent sign doubled. -/
def Text.escapePercents (s : Text) : Text :=
  replaceAll ['%'] (by decide) ['%', '%'] s

/-- A text is escaped character by character. -/
theorem Text.escapePercents_eq_flatMap (s : Text) :
    escapePercents s = s.flatMap fun c => if c = '%' then ['%', '%'] else [c] :=
  replaceAll_singleton '%' s

/-- The raw token is that of a literal: a doubled percent sign, or text without a percent sign. -/
def IsLiteralRaw (raw : Text) : Prop :=
  raw = ['%', '%'] ∨ '%' ∉ raw

/-- The token of such a raw token is a literal. -/
theorem IsLiteralRaw.ofRaw_eq {raw : Text} (h : IsLiteralRaw raw) :
    Token.ofRaw raw = .literal (Token.ofRaw raw).render := by
  unfold Token.ofRaw
  split
  · rfl
  · rename_i hne
    split
    · rename_i p hp
      have hpercent : '%' ∈ raw := Placeholder.render_of_ofRaw?_eq_some hp ▸ List.mem_cons_self
      exact absurd hpercent (h.resolve_left hne)
    · rfl

/-- A character other than a percent sign leaves literals. -/
theorem IsLiteralRaw.pushChar {raws : List Text} (h : ∀ raw ∈ raws, IsLiteralRaw raw) {c : Char}
    (hc : c ≠ '%') : ∀ raw ∈ pushChar raws c, IsLiteralRaw raw := by
  have hsingle : IsLiteralRaw [c] := Or.inr (by simpa using hc.symm)
  rcases List.eq_nil_or_concat' raws with rfl | ⟨before, last, rfl⟩
  · exact List.forall_mem_singleton.2 hsingle
  · obtain ⟨hbefore, hlast⟩ := List.forall_mem_append.1 h
    rw [pushChar_concat]
    split
    · exact List.forall_mem_append.2 ⟨h, List.forall_mem_singleton.2 hsingle⟩
    · rename_i hbegins
      refine List.forall_mem_append.2 ⟨hbefore, List.forall_mem_singleton.2 (Or.inr ?_)⟩
      -- The last raw token goes on, so it is no doubled percent sign.
      rcases List.forall_mem_singleton.1 hlast with rfl | hlast
      · rw [beginsRawToken, if_neg hc] at hbegins
        exact absurd (by decide) hbegins
      · simpa [hlast] using hc.symm

/-- Two percent signs leave literals. -/
theorem IsLiteralRaw.pushChar_percent {raws : List Text} (h : ∀ raw ∈ raws, IsLiteralRaw raw) :
    ∀ raw ∈ Diagnostics.pushChar (Diagnostics.pushChar raws '%') '%', IsLiteralRaw raw := by
  have hpair : Diagnostics.pushChar (Diagnostics.pushChar raws '%') '%' = raws ++ [['%', '%']] := by
    have hlone : ∀ raws : List Text,
        Diagnostics.pushChar (raws ++ [['%']]) '%' = raws ++ [['%', '%']] := fun raws => by
      rw [pushChar_concat]
      rfl
    rcases List.eq_nil_or_concat' raws with rfl | ⟨before, last, rfl⟩
    · exact hlone []
    · have hlast : last ≠ ['%'] := by
        rintro rfl
        rcases h ['%'] (by simp) with heq | hnot
        · cases heq
        · exact hnot List.mem_cons_self
      have hbegins : beginsRawToken (some last) '%' = true := by simpa [beginsRawToken] using hlast
      rw [pushChar_concat, if_pos hbegins, hlone]
  rw [hpair]
  exact List.forall_mem_append.2 ⟨h, List.forall_mem_singleton.2 (Or.inl rfl)⟩

/-- The scan of a text whose percent signs are doubled leaves literals. -/
theorem IsLiteralRaw.foldl_pushChar (s : Text) {raws : List Text}
    (h : ∀ raw ∈ raws, IsLiteralRaw raw) :
    ∀ raw ∈ (Text.escapePercents s).foldl Diagnostics.pushChar raws,
      IsLiteralRaw raw := by
  rw [Text.escapePercents_eq_flatMap]
  induction s generalizing raws with
  | nil => exact h
  | cons c s ih =>
    rw [List.flatMap_cons, List.foldl_append]
    refine ih ?_
    split
    · exact pushChar_percent h
    · rename_i hc
      exact pushChar h hc

/-- Percent signs that are doubled and then taken for one again are as before. -/
theorem Text.unescapePercents_escapePercents (s : Text) :
    unescapePercents (escapePercents s) = s := by
  rw [escapePercents_eq_flatMap]
  induction s with
  | nil => exact replaceAll_nil
  | cons c s ih =>
    rw [List.flatMap_cons]
    split
    · rename_i hc
      rw [hc]
      exact (replaceAll_append _).trans (congrArg (List.cons '%') ih)
    · rename_i hc
      rw [unescapePercents_append (by simpa using Ne.symm hc), ih, List.singleton_append]

/-- A text whose percent signs are doubled is a template of literals that make up the text. -/
theorem Template.exists_literals_ofText (s : Text) : ∃ parts : List Text,
    ofText (Text.escapePercents s) = ⟨parts.map .literal⟩ ∧
      parts.flatten = s := by
  refine ⟨renderRaws (rawTokens (Text.escapePercents s)), ?_, ?_⟩
  · rw [← foldl_pushChar_eq, ofText, ← foldl_pushChar_eq, renderRaws, List.map_map]
    refine congrArg mk (List.map_congr_left fun raw hraw => ?_)
    exact (IsLiteralRaw.foldl_pushChar s (List.forall_mem_nil _) raw hraw).ofRaw_eq
  · rw [← render_ofText_eq_flatten, render_ofText, Text.unescapePercents_escapePercents]

/-! ## Matches of literals -/

section

variable {vocabulary : Vocabulary} {parts : List Text} {left t right before after : Text}
  {previous : Option Match}

/-- The only cut for literals is the list of their texts. -/
theorem isCut_literals_iff {pieces : List Text} :
    IsCut vocabulary (parts.map .literal) left pieces right ↔ pieces = parts := by
  induction parts generalizing left pieces with
  | nil =>
    constructor
    · rintro ⟨⟩
      rfl
    · rintro rfl
      exact .nil
  | cons part parts ih =>
    constructor
    · rintro (_ | ⟨rfl, hpieces⟩)
      rw [ih.1 hpieces]
    · rintro rfl
      exact .cons rfl (ih.2 rfl)

/-- Behind the previous match, literals are cut where their whole text stands. -/
theorem cutAt_literals_iff {offset : Nat} {pieces : List Text} (h : left.length ≤ offset) :
    CutAt vocabulary (parts.map .literal) (left ++ t) offset pieces ↔ pieces = parts ∧
      ∃ before after, t = before ++ (parts.flatten ++ after) ∧
        (left ++ before).length = offset := by
  rw [cutAt_append_iff h]
  simp only [isCut_literals_iff]
  constructor
  · rintro ⟨before, after, ht, hlength, rfl⟩
    exact ⟨rfl, before, after, ht, hlength⟩
  · rintro ⟨rfl, before, after, ht, hlength⟩
    exact ⟨before, after, ht, hlength, rfl⟩

/-- The next match of literals is the first occurrence of their whole text. -/
theorem isNextMatch_literals (hparts : parts.flatten ≠ [])
    (hleft : left.length = resumeOffset previous)
    (h : t.dropInfix? parts.flatten = some (before, after)) :
    IsNextMatch vocabulary (parts.map .literal) (left ++ t) previous
      ⟨(left ++ before).length, parts⟩ := by
  obtain ⟨ht, hfirst⟩ := Text.dropInfix?_eq_some_iff.1 h
  have hle : left.length ≤ (left ++ before).length := by simp
  exact
    { cutAt := (cutAt_literals_iff hle).2 ⟨rfl, before, after, ht, rfl⟩
      resumeOffset_le := hleft ▸ hle
      mayFollow := fun _ _ _ _ => hparts
      first := fun others hothers _ => Or.inl ((cutAt_literals_iff hle).1 hothers).1
      leftmost := by
        intro offset others hothers hoffset _
        obtain ⟨-, before', after', ht', rfl⟩ :=
          (cutAt_literals_iff (hleft ▸ hoffset)).1 hothers
        rw [List.length_append, List.length_append]
        exact Nat.add_le_add_left (hfirst before' after' ht') _ }

/-- The matches of literals that are left are the occurrences of their whole text. -/
theorem all_resume_literals (hparts : parts.flatten ≠ [])
    (hleft : left.length = resumeOffset previous) :
    (Scan.resume (left ++ t) previous).all (Template.pattern ⟨parts.map .literal⟩ vocabulary) =
      (Text.occurrencesFrom parts.flatten hparts left.length t).map fun i => ⟨i, parts⟩ := by
  have hle : resumeOffset previous ≤ (left ++ t).length := by
    rw [← hleft, List.length_append]
    exact Nat.le_add_right _ _
  have htokens : parts.map Token.literal ≠ [] := by
    rintro hnil
    rw [List.map_eq_nil_iff.1 hnil] at hparts
    exact hparts rfl
  generalize hoffset : left.length = offset
  fun_induction Text.occurrencesFrom parts.flatten hparts offset t generalizing left previous with
  | case1 offset t hnone =>
    refine (all_resume_eq_nil_iff hle htokens).2 fun offset pieces hfollows => ?_
    obtain ⟨-, before, after, ht, -⟩ :=
      (cutAt_literals_iff (hleft ▸ hfollows.resumeOffset_le)).1 hfollows.cutAt
    refine Text.dropInfix?_eq_none_iff.1 hnone ⟨before, after, ?_⟩
    rw [ht, List.append_assoc]
  | case2 offset t before after hsome _ ih =>
    subst hoffset
    have hnext := @isNextMatch_literals vocabulary parts left t before after previous hparts hleft
      hsome
    have htext : left ++ t = left ++ before ++ parts.flatten ++ after := by
      rw [(Text.dropInfix?_eq_some_iff.1 hsome).1]
      simp
    have hstop : (left ++ before ++ parts.flatten).length =
        resumeOffset (some ⟨(left ++ before).length, parts⟩) := List.length_append
    rw [hnext.all_resume_eq hle htokens, List.map_cons, htext, ih hstop (htext ▸ hnext.stop_le)]
    · rw [List.length_append]
    · rw [List.length_append, List.length_append]

end

/-- The matches of literals are the occurrences of their whole text. -/
theorem findAll_literals (vocabulary : Vocabulary) {parts : List Text} (hparts : parts.flatten ≠ [])
    (text : Text) : (Template.pattern ⟨parts.map .literal⟩ vocabulary).findAll text =
      (Text.occurrences parts.flatten hparts text).map fun i => ⟨i, parts⟩ := by
  have hstart : ([] : Text).length = resumeOffset none := rfl
  exact all_resume_literals hparts hstart

/-! ## Records of literals -/

/-- A match of literals makes the record of the defaults. -/
theorem Template.recordOf_literals (parts : List Text) (vocabulary : Vocabulary) (m : Match) :
    recordOf ⟨parts.map .literal⟩ vocabulary [] m = .ok {} := by
  have hfill : ∀ pairs : List (Token × Text), (∀ pair ∈ pairs, ∃ text, pair.1 = .literal text) →
      pairs.foldlM (fun r part => fill vocabulary m.text r part.1 part.2) {} =
        (.ok {} : Except ExtractionError Record) := by
    intro pairs hpairs
    induction pairs with
    | nil => rfl
    | cons pair pairs ih =>
      obtain ⟨⟨text, hpair⟩, hpairs⟩ := List.forall_mem_cons.1 hpairs
      refine (foldlM_cons_of_eq_ok ?_).trans (ih hpairs)
      rw [hpair]
      rfl
  rw [recordOf, hfill]
  · rfl
  · intro pair hpair
    obtain ⟨text, -, htext⟩ := List.mem_map.1 (List.of_mem_zip hpair).1
    exact ⟨text, htext.symm⟩

/-- Each match of literals is found as the record of the defaults. -/
theorem Extractor.findings_literals {x : Extractor} {template : Text} {vocabulary : Vocabulary}
    {parts : List Text} (hx : ofTemplate template [] vocabulary = .ok x)
    (htokens : Template.ofText template = ⟨parts.map .literal⟩) (hparts : parts ≠ []) (t : Text) :
    x.findings t = (List.replicate (x.pattern.findAll t).length {}).map .ok := by
  obtain ⟨part, hpart⟩ := List.exists_mem_of_ne_nil parts hparts
  have hanchor : ∃ token ∈ (Template.ofText template).tokens, token.isAnchor = true :=
    ⟨.literal part, htokens ▸ List.mem_map_of_mem hpart, rfl⟩
  rw [findings_eq_map hx hanchor, (eq_of_ofTemplate_eq_ok hx).1, htokens, List.map_replicate,
    List.eq_replicate_iff]
  refine ⟨List.length_map _, fun finding hfinding => ?_⟩
  obtain ⟨m, -, rfl⟩ := List.mem_map.1 hfinding
  exact Template.recordOf_literals parts vocabulary m

/-! ## Substring search -/

/-- With each percent sign doubled, a text is a template of literals that is rendered as the text. The
matches of this template are the leftmost occurrences of the text that do not overlap; each makes the
record of the defaults, and nothing is malformed, so that there are as many lines of output as
occurrences. -/
theorem literal_template_occurrences (s : Text) (hs : s ≠ []) (vocabulary : Vocabulary) :
    (∀ token ∈ (Template.ofText s.escapePercents).tokens, ∃ text, token = .literal text) ∧
      (Template.ofText s.escapePercents).render = s ∧
      (((Template.ofText s.escapePercents).pattern vocabulary).size ≤ Pattern.maxSize →
        ∃ x, Extractor.ofTemplate s.escapePercents [] vocabulary = .ok x ∧ ∀ text,
          (x.pattern.findAll text).map (fun m => (m.start, m.stop)) =
              (s.occurrences hs text).map (fun i => (i, i + s.length)) ∧
            x.parse text = ⟨List.replicate (s.occurrences hs text).length {}, []⟩ ∧
            ∀ strict, (normalize text s.escapePercents [] vocabulary strict).lines =
              .ok (List.replicate (s.occurrences hs text).length (Record.render {}))) := by
  obtain ⟨parts, htokens, hflatten⟩ := Template.exists_literals_ofText s
  refine ⟨?_, ?_, fun hsize => ?_⟩
  · rw [htokens]
    simp
  · rw [Template.render_ofText, Text.unescapePercents_escapePercents]
  obtain ⟨x, hx⟩ := Extractor.exists_ofTemplate_eq_ok hsize []
  obtain ⟨htemplate, rfl, -⟩ := Extractor.eq_of_ofTemplate_eq_ok hx
  refine ⟨x, hx, fun text => ?_⟩
  subst hflatten
  have hparts : parts ≠ [] := by
    rintro rfl
    exact hs rfl
  have hmatches := findAll_literals x.vocabulary hs text
  rw [← htokens, ← htemplate, ← x.pattern_eq] at hmatches
  have hfindings := Extractor.findings_literals hx htokens hparts text
  rw [hmatches, List.length_map] at hfindings
  refine ⟨?_, Outcome.ofFindings_eq_iff.2 hfindings, fun strict => ?_⟩
  · rw [hmatches, List.map_map]
    rfl
  · rw [(normalize_eq_of_ofTemplate hx text strict).1, x.render_of_findings_eq hfindings,
      List.map_replicate]
    rfl

/-- In `a%a%a a%a` the text `a%a` occurs twice without overlapping: what begins at the second `a` of
the first word is no match. -/
theorem literal_template_occurrences_overlapping :
    "a%a".toList ≠ [] ∧
      ((Template.ofText (Text.escapePercents "a%a".toList)).pattern Vocabulary.standard).size ≤
        Pattern.maxSize ∧
      ∃ x, Extractor.ofTemplate "a%%a".toList [] Vocabulary.standard = .ok x ∧
        (x.pattern.findAll "a%a%a a%a".toList).map (fun m => (m.start, m.stop)) =
          [(0, 3), (6, 9)] ∧
        x.parse "a%a%a a%a".toList = ⟨[{}, {}], []⟩ := by
  have hne : "a%a".toList ≠ [] := by decide
  have hsize : ((Template.ofText (Text.escapePercents "a%a".toList)).pattern
      Vocabulary.standard).size ≤ Pattern.maxSize := by decide +kernel
  have hoccurrences : Text.occurrences "a%a".toList (by decide) "a%a%a a%a".toList = [0, 6] := by
    decide +kernel
  have htemplate : Text.escapePercents "a%a".toList = "a%%a".toList := by decide +kernel
  obtain ⟨x, hx, hfound⟩ := (literal_template_occurrences _ hne Vocabulary.standard).2.2 hsize
  obtain ⟨hspans, hparse, -⟩ := hfound "a%a%a a%a".toList
  rw [hoccurrences] at hspans hparse
  exact ⟨hne, hsize, x, htemplate ▸ hx, hspans, hparse⟩

end Diagnostics
