import Diagnostics.Proofs.Matches

/-!
# The next match is known by the cuts

Which match comes next depends on the cuts of the text alone. `Follows` says that a cut may come
after a match; the next match is the least cut that does (`isNextMatch_iff`), so there is at most one
(`IsNextMatch.unique`), and a search finds it (`IsNextMatch.all_resume_eq`). Therefore two searches,
in two texts, whose following cuts are the same but for a distance between the texts find the same
matches at that distance (`all_resume_eq_map_shift`).
-/

namespace Diagnostics

/-- The pieces are a cut of the text at the offset, and this cut may come after the previous
match. -/
structure Follows (vocabulary : Vocabulary) (tokens : List Token) (text : Text)
    (previous : Option Match) (offset : Nat) (pieces : List Text) : Prop where
  /-- The pieces are a cut of the text. -/
  cutAt : CutAt vocabulary tokens text offset pieces
  /-- The cut does not begin before the previous match ends. -/
  resumeOffset_le : resumeOffset previous ≤ offset
  /-- The pieces have text if the previous match is the empty one at this offset. -/
  mayFollow : MayFollow previous offset pieces

/-- The match with the same groups that begins further on in the text. -/
def Match.shift (distance : Nat) (m : Match) : Match where
  start := distance + m.start
  groups := m.groups

section

variable {vocabulary : Vocabulary} {tokens : List Token} {text : Text} {previous : Option Match}
  {m : Match}

/-- The next match is the first of all cuts that follow: none begins before it, and it precedes the
others that begin where it does. -/
theorem isNextMatch_iff : IsNextMatch vocabulary tokens text previous m ↔
    Follows vocabulary tokens text previous m.start m.groups ∧
      ∀ offset pieces, Follows vocabulary tokens text previous offset pieces → m.start ≤ offset ∧
        (offset = m.start → pieces = m.groups ∨ Precedes tokens m.groups pieces) := by
  constructor
  · intro h
    refine ⟨⟨h.cutAt, h.resumeOffset_le, h.mayFollow⟩, fun offset pieces hfollows => ⟨?_, ?_⟩⟩
    · exact h.leftmost offset pieces hfollows.cutAt hfollows.resumeOffset_le hfollows.mayFollow
    · rintro rfl
      exact h.first pieces hfollows.cutAt hfollows.mayFollow
  · rintro ⟨⟨hcut, hle, hmayFollow⟩, hleast⟩
    exact
      { cutAt := hcut
        resumeOffset_le := hle
        mayFollow := hmayFollow
        first := fun pieces hcut' hmayFollow' =>
          (hleast _ pieces ⟨hcut', hle, hmayFollow'⟩).2 rfl
        leftmost := fun offset pieces hcut' hle' hmayFollow' =>
          (hleast offset pieces ⟨hcut', hle', hmayFollow'⟩).1 }

/-- There is at most one next match. -/
theorem IsNextMatch.unique {m' : Match} (h : IsNextMatch vocabulary tokens text previous m)
    (h' : IsNextMatch vocabulary tokens text previous m') : m = m' := by
  obtain ⟨hfollows, hleast⟩ := isNextMatch_iff.1 h
  obtain ⟨hfollows', hleast'⟩ := isNextMatch_iff.1 h'
  obtain ⟨hle, hfirst⟩ := hleast _ _ hfollows'
  obtain ⟨hle', hfirst'⟩ := hleast' _ _ hfollows
  have hstart : m.start = m'.start := Nat.le_antisymm hle hle'
  have hgroups : m.groups = m'.groups := by
    rcases hfirst hstart.symm with hsame | hprecedes
    · exact hsame.symm
    · exact (hfirst' hstart).resolve_right hprecedes.asymm
  obtain ⟨start, groups⟩ := m
  obtain ⟨start', groups'⟩ := m'
  obtain rfl : start = start' := hstart
  obtain rfl : groups = groups' := hgroups
  rfl

/-- The matches that are left begin with the next match. -/
theorem IsNextMatch.all_resume_eq (h : IsNextMatch vocabulary tokens text previous m)
    (hprevious : resumeOffset previous ≤ text.length) (htokens : tokens ≠ []) :
    (Scan.resume text previous).all (Template.pattern ⟨tokens⟩ vocabulary) =
      m :: (Scan.resume text (some m)).all (Template.pattern ⟨tokens⟩ vocabulary) := by
  obtain ⟨m', hnext, hall⟩ := exists_all_resume_eq_cons hprevious htokens h.cutAt
    h.resumeOffset_le h.mayFollow
  rw [hall, h.unique hnext]

/-- No matches are left exactly when no cut follows. -/
theorem all_resume_eq_nil_iff (hprevious : resumeOffset previous ≤ text.length)
    (htokens : tokens ≠ []) :
    (Scan.resume text previous).all (Template.pattern ⟨tokens⟩ vocabulary) = [] ↔
      ∀ offset pieces, ¬Follows vocabulary tokens text previous offset pieces := by
  constructor
  · rintro hall offset pieces ⟨hcut, hle, hmayFollow⟩
    exact not_mayFollow_of_next?_eq_none hprevious (next?_of_all_eq_nil hall) htokens hcut hle
      hmayFollow
  · intro hnone
    cases hall : (Scan.resume text previous).all (Template.pattern ⟨tokens⟩ vocabulary) with
    | nil => rfl
    | cons m later =>
      have hnext := (isNextMatch_of_all_resume_eq_cons hprevious hall).1
      exact absurd (isNextMatch_iff.1 hnext).1 (hnone _ _)

end

/-! ## The same matches in two texts -/

section

variable {vocabulary : Vocabulary} {tokens : List Token} {text whole : Text} {distance : Nat}
  {previous : Option Match} {m : Match}

/-- The end of a match moves with the match. -/
@[simp] theorem Match.stop_shift : (m.shift distance).stop = distance + m.stop :=
  Nat.add_assoc _ _ _

/-- A cut may follow a match that is moved when the cut, moved as far, may follow the match. -/
theorem mayFollow_shift_iff {offset : Nat} {pieces : List Text} :
    MayFollow (some (m.shift distance)) (distance + offset) pieces ↔
      MayFollow (some m) offset pieces := by
  have hstart : (m.shift distance).start = distance + offset ↔ m.start = offset :=
    Nat.add_left_cancel_iff
  have htext : (m.shift distance).text = m.text := rfl
  simp only [MayFollow, Option.mem_some_iff, forall_eq', htext, hstart]

/-- The cuts that follow a match are, in a larger text, the cuts that follow the match that is moved
there, if no others begin after the place where the text stands. -/
theorem follows_shift_iff
    (hcuts : ∀ offset pieces, distance ≤ offset → (CutAt vocabulary tokens whole offset pieces ↔
      ∃ o, offset = distance + o ∧ CutAt vocabulary tokens text o pieces))
    {offset : Nat} {pieces : List Text} :
    Follows vocabulary tokens whole (some (m.shift distance)) offset pieces ↔
      ∃ o, offset = distance + o ∧ Follows vocabulary tokens text (some m) o pieces := by
  have hresume : resumeOffset (some (m.shift distance)) = distance + resumeOffset (some m) :=
    Match.stop_shift
  constructor
  · rintro ⟨hcut, hle, hmayFollow⟩
    rw [hresume] at hle
    obtain ⟨o, rfl, hcut'⟩ := (hcuts offset pieces (by omega)).1 hcut
    exact ⟨o, rfl, hcut', by omega, mayFollow_shift_iff.1 hmayFollow⟩
  · rintro ⟨o, rfl, hcut, hle, hmayFollow⟩
    exact ⟨(hcuts _ pieces (Nat.le_add_right _ _)).2 ⟨o, rfl, hcut⟩, by omega,
      mayFollow_shift_iff.2 hmayFollow⟩

/-- Where the following cuts are the same but for a distance, so is the next match. -/
theorem IsNextMatch.shift {previous' : Option Match}
    (hfollows : ∀ offset pieces, Follows vocabulary tokens whole previous' offset pieces ↔
      ∃ o, offset = distance + o ∧ Follows vocabulary tokens text previous o pieces)
    (h : IsNextMatch vocabulary tokens text previous m) :
    IsNextMatch vocabulary tokens whole previous' (m.shift distance) := by
  obtain ⟨hm, hleast⟩ := isNextMatch_iff.1 h
  refine isNextMatch_iff.2 ⟨(hfollows _ _).2 ⟨m.start, rfl, hm⟩, fun offset pieces hother => ?_⟩
  obtain ⟨o, rfl, hother'⟩ := (hfollows _ _).1 hother
  obtain ⟨hle, hfirst⟩ := hleast o pieces hother'
  exact ⟨Nat.add_le_add_left hle distance, fun heq => hfirst (Nat.add_left_cancel heq)⟩

/-- Two searches whose following cuts are the same but for a distance find the same matches at that
distance. -/
theorem all_resume_eq_map_shift {previous' : Option Match} (htokens : tokens ≠ [])
    (hcuts : ∀ offset pieces, distance ≤ offset → (CutAt vocabulary tokens whole offset pieces ↔
      ∃ o, offset = distance + o ∧ CutAt vocabulary tokens text o pieces))
    (hfollows : ∀ offset pieces, Follows vocabulary tokens whole previous' offset pieces ↔
      ∃ o, offset = distance + o ∧ Follows vocabulary tokens text previous o pieces)
    (hprevious : resumeOffset previous ≤ text.length)
    (hprevious' : resumeOffset previous' ≤ whole.length) :
    (Scan.resume whole previous').all (Template.pattern ⟨tokens⟩ vocabulary) =
      ((Scan.resume text previous).all (Template.pattern ⟨tokens⟩ vocabulary)).map
        (Match.shift distance) := by
  generalize hall : (Scan.resume text previous).all (Template.pattern ⟨tokens⟩ vocabulary) = ms
  induction ms generalizing previous previous' with
  | nil =>
    rw [all_resume_eq_nil_iff hprevious htokens] at hall
    refine (all_resume_eq_nil_iff hprevious' htokens).2 fun offset pieces hother => ?_
    obtain ⟨o, -, hother'⟩ := (hfollows _ _).1 hother
    exact hall o pieces hother'
  | cons m ms ih =>
    obtain ⟨hnext, hall⟩ := isNextMatch_of_all_resume_eq_cons hprevious hall
    have hnext' := hnext.shift hfollows
    have hrest := ih (fun _ _ => follows_shift_iff hcuts) hnext.stop_le hnext'.stop_le hall
    rw [hnext'.all_resume_eq hprevious' htokens, hrest, List.map_cons]

end

end Diagnostics
