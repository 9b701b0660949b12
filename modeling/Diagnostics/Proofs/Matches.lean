import Diagnostics.Proofs.Leftmost

/-!
# All matches of a text

The matches of a text arise one after the other, each the next one after the match before it
(`isNextMatch_of_findAll`), until no cut may follow (`not_mayFollow_of_findAll`). So every match is
the first cut at its place (`first_of_findAll_eq_append`), matches come in order and pass over no
cut (`findAll_complete`), and the groups of a match are texts of its tokens
(`admits_of_mem_findAll`).
-/

namespace Diagnostics

/-- The first match does not reach into the second one, and the places where it begins and ends come
before those of the second one in lexicographic order. -/
def Match.Before (m m' : Match) : Prop :=
  m.stop ≤ m'.start ∧ (m.start < m'.start ∨ m.start = m'.start ∧ m.stop < m'.stop)

/-- A match that comes before another one comes before all that come after that one. -/
theorem Match.Before.trans {m₁ m₂ m₃ : Match} (h₁₂ : m₁.Before m₂) (h₂₃ : m₂.Before m₃) :
    m₁.Before m₃ := by
  have hle : m₂.start ≤ m₂.stop := Nat.le_add_right _ _
  unfold Match.Before at *
  omega

section

variable {vocabulary : Vocabulary} {tokens : List Token} {text : Text} {previous : Option Match}
  {m : Match} {earlier later : List Match}

/-- A match ends inside the text. -/
theorem IsNextMatch.stop_le (h : IsNextMatch vocabulary tokens text previous m) :
    m.stop ≤ text.length :=
  h.cutAt.extract_eq.1

/-- The next match comes after the previous one. -/
theorem IsNextMatch.before {m₀ : Match} (h : IsNextMatch vocabulary tokens text (some m₀) m) :
    m₀.Before m := by
  have hle : m₀.stop ≤ m.start := h.resumeOffset_le
  have hstop : m.stop = m.start + m.groups.flatten.length := rfl
  refine ⟨hle, ?_⟩
  cases htext : m₀.text with
  | nil =>
    have hstop₀ : m₀.stop = m₀.start := by rw [Match.stop, htext]; rfl
    rcases Nat.lt_or_eq_of_le (hstop₀ ▸ hle) with hlt | heq
    · exact Or.inl hlt
    · have hpos := List.length_pos_iff.2 (h.mayFollow m₀ rfl htext heq)
      exact Or.inr ⟨heq, by omega⟩
  | cons c rest =>
    have hstop₀ : m₀.stop = m₀.start + (rest.length + 1) := by rw [Match.stop, htext]; rfl
    exact Or.inl (by omega)

/-- The matches that are left begin with the next match, and the search goes on after it. -/
theorem isNextMatch_of_all_resume_eq_cons (hprevious : resumeOffset previous ≤ text.length)
    (h : (Scan.resume text previous).all (Template.pattern ⟨tokens⟩ vocabulary) = m :: later) :
    IsNextMatch vocabulary tokens text previous m ∧
      (Scan.resume text (some m)).all (Template.pattern ⟨tokens⟩ vocabulary) = later := by
  rw [Scan.all] at h
  split at h
  · simp at h
  · rename_i m' s hnext
    obtain ⟨rfl, rfl⟩ := List.cons.inj h
    obtain ⟨hnextMatch, rfl⟩ := isNextMatch_of_next?_eq_some hprevious hnext
    exact ⟨hnextMatch, rfl⟩

/-- When no matches are left, there is no next one. -/
theorem next?_of_all_eq_nil {pattern : Pattern} {s : Scan} (h : s.all pattern = []) :
    s.next? pattern = none := by
  rw [Scan.all] at h
  split at h
  · assumption
  · simp at h

/-- Where a cut may follow, there is a next match, and the search goes on after it. -/
theorem exists_all_resume_eq_cons (hprevious : resumeOffset previous ≤ text.length)
    (htokens : tokens ≠ []) {offset : Nat} {pieces : List Text}
    (hcut : CutAt vocabulary tokens text offset pieces) (hoffset : resumeOffset previous ≤ offset)
    (hmayFollow : MayFollow previous offset pieces) :
    ∃ m, IsNextMatch vocabulary tokens text previous m ∧
      (Scan.resume text previous).all (Template.pattern ⟨tokens⟩ vocabulary) =
        m :: (Scan.resume text (some m)).all (Template.pattern ⟨tokens⟩ vocabulary) := by
  cases hall : (Scan.resume text previous).all (Template.pattern ⟨tokens⟩ vocabulary) with
  | nil =>
    have hnone := next?_of_all_eq_nil hall
    exact absurd hmayFollow (not_mayFollow_of_next?_eq_none hprevious hnone htokens hcut hoffset)
  | cons m later =>
    obtain ⟨hnext, hlater⟩ := isNextMatch_of_all_resume_eq_cons hprevious hall
    exact ⟨m, hnext, by rw [hlater]⟩

/-- After some of the matches that are left, the others are those of the search that goes on after
the last of them. -/
theorem all_resume_of_eq_append (hprevious : resumeOffset previous ≤ text.length)
    (h : (Scan.resume text previous).all (Template.pattern ⟨tokens⟩ vocabulary) =
      earlier ++ later) :
    resumeOffset (earlier.getLast?.or previous) ≤ text.length ∧
      (Scan.resume text (earlier.getLast?.or previous)).all
        (Template.pattern ⟨tokens⟩ vocabulary) = later := by
  induction earlier generalizing previous with
  | nil => exact ⟨hprevious, h⟩
  | cons m earlier ih =>
    obtain ⟨hnext, hall⟩ := isNextMatch_of_all_resume_eq_cons hprevious h
    have hlast : (m :: earlier).getLast?.or previous = earlier.getLast?.or (some m) := by
      rw [List.getLast?_cons]
      cases earlier.getLast? <;> rfl
    rw [hlast]
    exact ih hnext.stop_le hall

/-- The matches that are left come in order, all of them after the previous one. -/
theorem pairwise_all_resume (hprevious : resumeOffset previous ≤ text.length) :
    ((Scan.resume text previous).all (Template.pattern ⟨tokens⟩ vocabulary)).Pairwise Match.Before ∧
      ∀ m ∈ (Scan.resume text previous).all (Template.pattern ⟨tokens⟩ vocabulary),
        ∀ m₀ ∈ previous, m₀.Before m := by
  generalize hall : (Scan.resume text previous).all (Template.pattern ⟨tokens⟩ vocabulary) = ms
  induction ms generalizing previous with
  | nil => simp
  | cons m ms ih =>
    obtain ⟨hnext, hall⟩ := isNextMatch_of_all_resume_eq_cons hprevious hall
    obtain ⟨hpairwise, hafter⟩ := @ih (some m) hnext.stop_le hall
    have hbefore : ∀ m₀ ∈ previous, m₀.Before m := fun m₀ hm₀ =>
      IsNextMatch.before (hm₀ ▸ hnext)
    refine ⟨List.pairwise_cons.2 ⟨fun m' hm' => hafter m' hm' m rfl, hpairwise⟩, ?_⟩
    intro m' hm' m₀ hm₀
    rcases List.mem_cons.1 hm' with rfl | hm'
    · exact hbefore m₀ hm₀
    · exact (hbefore m₀ hm₀).trans (hafter m' hm' m rfl)

/-- Some of the matches of a text are found by the search that goes on after the earlier ones. -/
theorem all_resume_of_findAll_eq_append
    (h : (Template.pattern ⟨tokens⟩ vocabulary).findAll text = earlier ++ later) :
    resumeOffset earlier.getLast? ≤ text.length ∧
      (Scan.resume text earlier.getLast?).all (Template.pattern ⟨tokens⟩ vocabulary) = later := by
  have hstart : resumeOffset none ≤ text.length := Nat.zero_le _
  have hall := all_resume_of_eq_append hstart h
  rwa [Option.or_none] at hall

/-- Each match of a text is the next one after the match before it. -/
theorem isNextMatch_of_findAll
    (h : (Template.pattern ⟨tokens⟩ vocabulary).findAll text = earlier ++ m :: later) :
    IsNextMatch vocabulary tokens text earlier.getLast? m := by
  obtain ⟨hle, hall⟩ := all_resume_of_findAll_eq_append h
  exact (isNextMatch_of_all_resume_eq_cons hle hall).1

/-- Between two matches, and after the last one, no cut may follow the match before it. -/
theorem not_mayFollow_of_findAll (htokens : tokens ≠ [])
    (h : (Template.pattern ⟨tokens⟩ vocabulary).findAll text = earlier ++ later) {offset : Nat}
    {pieces : List Text} (hcut : CutAt vocabulary tokens text offset pieces)
    (hoffset : resumeOffset earlier.getLast? ≤ offset)
    (hlater : ∀ m ∈ later.head?, offset < m.start) :
    ¬MayFollow earlier.getLast? offset pieces := by
  obtain ⟨hle, hall⟩ := all_resume_of_findAll_eq_append h
  cases later with
  | nil =>
    exact not_mayFollow_of_next?_eq_none hle (next?_of_all_eq_nil hall) htokens hcut hoffset
  | cons m later =>
    intro hmayFollow
    have hnext := (isNextMatch_of_all_resume_eq_cons hle hall).1
    have hstart := hnext.leftmost offset pieces hcut hoffset hmayFollow
    have hlt := hlater m rfl
    omega

end

/-- The pattern of the template without tokens has no match in any text. -/
theorem findAll_nil (vocabulary : Vocabulary) (text : Text) :
    (Template.pattern ⟨[]⟩ vocabulary).findAll text = [] := by
  rw [Pattern.findAll, Scan.all]
  rfl

/-- The groups of a match are the first of all cuts at its place: they are a cut of the text there,
with text in it if the previous match is the empty one at that place, and at the first token to
which another such cut gives a different piece, the match has the piece that the token takes: the
shorter one for a file or a wildcard, the longer one for any other placeholder. -/
theorem first_of_findAll_eq_append (tokens : List Token) (vocabulary : Vocabulary) (text : Text)
    (earlier later : List Match) (m : Match)
    (h : (Template.pattern ⟨tokens⟩ vocabulary).findAll text = earlier ++ m :: later) :
    (CutAt vocabulary tokens text m.start m.groups ∧ MayFollow earlier.getLast? m.start m.groups) ∧
      ∀ pieces, CutAt vocabulary tokens text m.start pieces →
        MayFollow earlier.getLast? m.start pieces → pieces ≠ m.groups →
        Precedes tokens m.groups pieces := by
  have hnext := isNextMatch_of_findAll h
  refine ⟨⟨hnext.cutAt, hnext.mayFollow⟩, fun pieces hcut hmayFollow hne => ?_⟩
  exact (hnext.first pieces hcut hmayFollow).resolve_left hne

/-- In `a:12:3` the file is `a`, and not `a:12`, which is a file in another cut. -/
theorem first_of_findAll_shorter_file :
    (Template.pattern ⟨[.placeholder .file, .literal [':'], .placeholder .line]⟩
        Vocabulary.standard).findAll "a:12:3".toList =
        [] ++ ⟨0, ["a".toList, [':'], "12".toList]⟩ :: [] ∧
      Precedes [.placeholder .file, .literal [':'], .placeholder .line]
        ["a".toList, [':'], "12".toList] ["a:12".toList, [':'], "3".toList] := by
  have hmatches : (Template.pattern ⟨[.placeholder .file, .literal [':'], .placeholder .line]⟩
      Vocabulary.standard).findAll "a:12:3".toList =
      [] ++ ⟨0, ["a".toList, [':'], "12".toList]⟩ :: [] := by decide +kernel
  have hcut : CutAt Vocabulary.standard [.placeholder .file, .literal [':'], .placeholder .line]
      "a:12:3".toList 0 ["a:12".toList, [':'], "3".toList] :=
    ⟨[], [], by decide, rfl, by decide +kernel⟩
  have hmayFollow : MayFollow none 0 ["a:12".toList, [':'], "3".toList] := by simp [MayFollow]
  exact ⟨hmatches, (first_of_findAll_eq_append _ _ _ [] [] _ hmatches).2 _ hcut hmayFollow
    (by decide)⟩

/-- No match is missed and none overlaps. The matches come in order; a cut that begins at or after
the end of a match and before the next match, or after the last match, is an empty one at the place
of an empty match. The template without tokens has no match. -/
theorem findAll_complete (tokens : List Token) (vocabulary : Vocabulary) (text : Text) :
    (tokens = [] → (Template.pattern ⟨tokens⟩ vocabulary).findAll text = []) ∧
      ((Template.pattern ⟨tokens⟩ vocabulary).findAll text).Pairwise Match.Before ∧
      ∀ earlier later, (Template.pattern ⟨tokens⟩ vocabulary).findAll text = earlier ++ later →
        tokens ≠ [] → ∀ offset pieces, CutAt vocabulary tokens text offset pieces →
        resumeOffset earlier.getLast? ≤ offset → (∀ m ∈ later.head?, offset < m.start) →
        ∃ m ∈ earlier.getLast?, m.text = [] ∧ m.start = offset ∧ pieces.flatten = [] := by
  refine ⟨?_, ?_, ?_⟩
  · rintro rfl
    exact findAll_nil vocabulary text
  · have hstart : resumeOffset none ≤ text.length := Nat.zero_le _
    exact (pairwise_all_resume hstart).1
  · intro earlier later h htokens offset pieces hcut hoffset hlater
    have hnot := not_mayFollow_of_findAll htokens h hcut hoffset hlater
    simpa only [MayFollow, not_forall, not_not, exists_prop] using hnot

/-- A wildcard matches the empty piece in front of a line feed and then goes on behind it: the cut
that is passed over is that empty piece again. -/
theorem findAll_complete_line_feed :
    (Template.pattern ⟨[.placeholder .wildcard]⟩ Vocabulary.standard).findAll "\na".toList =
        [⟨0, [[]]⟩] ++ [⟨1, [[]]⟩, ⟨1, ["a".toList]⟩, ⟨2, [[]]⟩] ∧
      ∃ m ∈ [(⟨0, [[]]⟩ : Match)].getLast?,
        m.text = [] ∧ m.start = 0 ∧ [[]].flatten = ([] : Text) := by
  have hmatches : (Template.pattern ⟨[.placeholder .wildcard]⟩ Vocabulary.standard).findAll
      "\na".toList = [⟨0, [[]]⟩] ++ [⟨1, [[]]⟩, ⟨1, ["a".toList]⟩, ⟨2, [[]]⟩] := by decide +kernel
  have hcut : CutAt Vocabulary.standard [.placeholder .wildcard] "\na".toList 0 [[]] :=
    ⟨[], "\na".toList, rfl, rfl, by decide +kernel⟩
  exact ⟨hmatches, (findAll_complete _ _ _).2.2 _ _ hmatches (by decide) 0 [[]] hcut (by decide)
    (by decide)⟩

/-- Every match is a correct cut of the text: it has one group for each token, the groups one after
the other are the text from its start to its end, and each group is a text of its token at the place
where it stands. -/
theorem admits_of_mem_findAll (tokens : List Token) (vocabulary : Vocabulary) (text : Text)
    (m : Match) (h : m ∈ (Template.pattern ⟨tokens⟩ vocabulary).findAll text) :
    m.groups.length = tokens.length ∧ m.stop ≤ text.length ∧
      (text.drop m.start).take (m.stop - m.start) = m.groups.flatten ∧
      ∀ (i : Nat) (token : Token) (group : Text), tokens[i]? = some token →
        m.groups[i]? = some group →
        token.Admits vocabulary (text.take (m.start + (m.groups.take i).flatten.length)) group
          (text.drop (m.start + (m.groups.take (i + 1)).flatten.length)) := by
  obtain ⟨earlier, later, hmatches⟩ := List.append_of_mem h
  have hcutAt := (isNextMatch_of_findAll hmatches).cutAt
  have hlength : m.stop - m.start = m.groups.flatten.length := Nat.add_sub_cancel_left _ _
  refine ⟨hcutAt.length_eq, hcutAt.extract_eq.1, ?_, ?_⟩
  · rw [hlength]
    exact hcutAt.extract_eq.2
  · intro i token group htoken hgroup
    exact hcutAt.admits htoken hgroup

/-- A kind is a word of the vocabulary in any case, and not the end of a longer word. -/
theorem admits_of_mem_findAll_kind :
    (⟨7, ["Error".toList, [':']]⟩ : Match) ∈
        (Template.pattern ⟨[.placeholder .kind, .literal [':']]⟩ Vocabulary.standard).findAll
          "terror:Error:".toList ∧
      (Token.placeholder .kind).Admits Vocabulary.standard "terror:".toList "Error".toList [':'] := by
  have hmem : (⟨7, ["Error".toList, [':']]⟩ : Match) ∈
      (Template.pattern ⟨[.placeholder .kind, .literal [':']]⟩ Vocabulary.standard).findAll
        "terror:Error:".toList := by decide +kernel
  exact ⟨hmem, (admits_of_mem_findAll _ _ _ _ hmem).2.2.2 0 _ _ rfl rfl⟩

end Diagnostics
