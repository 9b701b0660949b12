import Diagnostics.Proofs.Matches

/-!
# Free text at the ends of a template

A file and a message are free text, and may hold nearly any character. A file at the front of a
template takes the shortest piece, and yet nothing is cut off in front of it: a match that could
begin one character earlier would have been found there (`IsNextMatch.start_of_file`). A message at
the end takes the longest piece, whatever the tokens before it come to: one more character would
still make a cut, and the better one (`IsNextMatch.stop_of_message`). So matches end on lines of
their own (`findAll_file_start_message_stop`).
-/

namespace Diagnostics

/-- The line in which an offset lies, that is, how many line feeds stand before it. -/
def lineOf (text : Text) (offset : Nat) : Nat :=
  (text.take offset).count '\n'

/-- A line feed between two offsets puts them on different lines. -/
theorem lineOf_lt_of_lineFeed {text : Text} {i j : Nat} (h : text[i]? = some '\n') (hlt : i < j) :
    lineOf text i < lineOf text j := by
  have hnext : (text.take (i + 1)).count '\n' = (text.take i).count '\n' + 1 := by
    rw [List.take_add_one, h, Option.toList_some, List.count_append, List.count_singleton_self]
  have hprefix : text.take (i + 1) <+: text.take j := List.take_prefix_take_left hlt
  have hle := hprefix.sublist.count_le '\n'
  unfold lineOf
  omega

section

variable {vocabulary : Vocabulary} {tokens : List Token} {left right text piece : Text} {c : Char}
  {pieces : List Text} {previous : Option Match} {m : Match}

/-! ## Cuts with one more character -/

/-- A file at the front can take in the character before it, if that is no line feed and no NUL. -/
theorem IsCut.cons_file
    (h : IsCut vocabulary (.placeholder .file :: tokens) (left ++ [c]) (piece :: pieces) right)
    (hlineFeed : c ≠ '\n') (hnul : c ≠ '\x00') :
    IsCut vocabulary (.placeholder .file :: tokens) left ((c :: piece) :: pieces) right := by
  obtain ⟨⟨-, hpiece, hpiece'⟩, hpieces⟩ := IsCut.cons_iff.1 h
  refine .cons ⟨List.cons_ne_nil c piece, ?_, ?_⟩ (by simpa using hpieces)
  · exact List.not_mem_cons_of_ne_of_not_mem hnul.symm hpiece
  · exact List.not_mem_cons_of_ne_of_not_mem hlineFeed.symm hpiece'

/-- A message at the end can take in the character behind it, if that is no line feed. -/
theorem IsCut.concat_message
    (h : IsCut vocabulary (tokens ++ [.placeholder .message]) left (pieces ++ [piece]) (c :: right))
    (hlength : pieces.length = tokens.length) (hlineFeed : c ≠ '\n') :
    IsCut vocabulary (tokens ++ [.placeholder .message]) left (pieces ++ [piece ++ [c]]) right := by
  obtain ⟨first, last, hpieces, hfirst, hlast⟩ := IsCut.append_iff.1 h
  obtain ⟨rfl, rfl⟩ := List.append_inj hpieces (hlength.trans hfirst.length_eq.symm)
  obtain ⟨⟨-, hpiece⟩, -⟩ := IsCut.cons_iff.1 hlast
  refine IsCut.append_iff.2 ⟨pieces, [piece ++ [c]], rfl, by simpa using hfirst, .cons ⟨?_, ?_⟩ .nil⟩
  · exact List.concat_ne_nil c piece
  · simpa [hpiece] using hlineFeed.symm

/-! ## Where a match begins and ends -/

/-- A match of a template that begins with a file begins at the start of the text, behind a line feed
or a NUL, or where the match before it ends. -/
theorem IsNextMatch.start_of_file
    (h : IsNextMatch vocabulary (.placeholder .file :: tokens) text previous m) :
    m.start = 0 ∨ text[m.start - 1]? = some '\n' ∨ text[m.start - 1]? = some '\x00' ∨
      ∃ p ∈ previous, m.start = p.stop := by
  obtain ⟨left, right, htext, hlength, hcut⟩ := h.cutAt
  rcases List.eq_nil_or_concat' left with rfl | ⟨left, c, rfl⟩
  · exact Or.inl hlength.symm
  have hstart : m.start = left.length + 1 := by simpa using hlength.symm
  have hc : text[m.start - 1]? = some c := by
    rw [htext, hstart]
    simp
  rw [hc, Option.some.injEq, Option.some.injEq]
  by_cases hlineFeed : c = '\n'
  · exact Or.inr (Or.inl hlineFeed)
  by_cases hnul : c = '\x00'
  · exact Or.inr (Or.inr (Or.inl hnul))
  -- The file could take in the character, so the search must have begun behind it.
  obtain ⟨file, pieces, hgroups⟩ := List.exists_cons_of_length_eq_add_one hcut.length_eq
  rw [hgroups] at htext hcut
  have hcut' : CutAt vocabulary (.placeholder .file :: tokens) text left.length
      ((c :: file) :: pieces) :=
    ⟨left, right, by simpa using htext, rfl, hcut.cons_file hlineFeed hnul⟩
  have hresume : ¬resumeOffset previous ≤ left.length := by
    intro hle
    have hleft := h.leftmost _ _ hcut' hle fun _ _ _ _ => List.cons_ne_nil _ _
    omega
  have hresume' := h.resumeOffset_le
  cases previous with
  | none => exact absurd (Nat.zero_le _) hresume
  | some p =>
    have hstop : resumeOffset (some p) = p.stop := rfl
    exact Or.inr (Or.inr (Or.inr ⟨p, rfl, by omega⟩))

/-- A match of a template that ends with a message has text, and ends at the end of the text or in
front of a line feed. -/
theorem IsNextMatch.stop_of_message
    (h : IsNextMatch vocabulary (tokens ++ [.placeholder .message]) text previous m) :
    m.start < m.stop ∧ (m.stop = text.length ∨ text[m.stop]? = some '\n') := by
  obtain ⟨left, right, htext, hlength, hcut⟩ := h.cutAt
  obtain ⟨pieces, last, hgroups, hpieces, hlast⟩ := IsCut.append_iff.1 hcut
  obtain ⟨message, rfl⟩ := List.length_eq_one_iff.1 hlast.length_eq
  obtain ⟨⟨hne, -⟩, -⟩ := IsCut.cons_iff.1 hlast
  have hstop : m.stop = (left ++ m.groups.flatten).length := by
    rw [List.length_append, hlength]
    rfl
  constructor
  · have hpos := List.length_pos_iff.2 hne
    rw [hstop, hgroups, ← hlength, List.flatten_append, List.flatten_singleton]
    simp only [List.length_append]
    omega
  rcases right with _ | ⟨c, right⟩
  · refine Or.inl ?_
    rw [hstop, htext, List.append_nil]
  refine Or.inr ?_
  have hc : text[m.stop]? = some c := by
    rw [hstop, htext]
    simp
  rw [hc, Option.some.injEq]
  by_contra hlineFeed
  -- The message could take in the character, and it prefers to do so.
  rw [hgroups] at htext hcut
  have hcut' : CutAt vocabulary (tokens ++ [.placeholder .message]) text m.start
      (pieces ++ [message ++ [c]]) :=
    ⟨left, right, by simpa using htext, hlength, hcut.concat_message hpieces.length_eq hlineFeed⟩
  rcases h.first _ hcut' fun _ _ _ _ => by simp with heq | hprecedes
  · rw [hgroups] at heq
    simpa using congrArg (fun groups => groups.flatten.length) heq
  · rw [hgroups, precedes_append_iff hpieces.length_eq, precedes_cons_iff] at hprecedes
    rcases hprecedes with hprefers | ⟨-, hnil⟩
    · simp only [Token.Prefers, Token.PrefersLength, List.length_append] at hprefers
      omega
    · cases hnil

end

/-- Free text at the ends of a template is not cut off. If the template begins with a file, every
match begins at the start of the text, behind a line feed or a NUL, or where the match before it
ends. If it ends with a message, every match ends at the end of the text or in front of a line feed,
and no two matches end on one line. -/
theorem findAll_file_start_message_stop (tokens : List Token) (vocabulary : Vocabulary)
    (text : Text) :
    (tokens.head? = some (.placeholder .file) → ∀ earlier m later,
        (Template.pattern ⟨tokens⟩ vocabulary).findAll text = earlier ++ m :: later →
        m.start = 0 ∨ text[m.start - 1]? = some '\n' ∨ text[m.start - 1]? = some '\x00' ∨
          ∃ p ∈ earlier.getLast?, m.start = p.stop) ∧
      (tokens.getLast? = some (.placeholder .message) →
        (∀ m ∈ (Template.pattern ⟨tokens⟩ vocabulary).findAll text,
          m.stop = text.length ∨ text[m.stop]? = some '\n') ∧
        ((Template.pattern ⟨tokens⟩ vocabulary).findAll text).Pairwise
          fun m m' => lineOf text m.stop < lineOf text m'.stop) := by
  constructor
  · intro hhead earlier m later hmatches
    obtain ⟨tokens, rfl⟩ := List.head?_eq_some_iff.1 hhead
    exact (isNextMatch_of_findAll hmatches).start_of_file
  · intro hlast
    obtain ⟨tokens, rfl⟩ := List.getLast?_eq_some_iff.1 hlast
    have hends : ∀ m ∈ (Template.pattern ⟨tokens ++ [.placeholder .message]⟩ vocabulary).findAll
        text, m.start < m.stop ∧ m.stop ≤ text.length ∧
          (m.stop = text.length ∨ text[m.stop]? = some '\n') := by
      intro m hm
      obtain ⟨earlier, later, hmatches⟩ := List.append_of_mem hm
      have hnext := isNextMatch_of_findAll hmatches
      exact ⟨hnext.stop_of_message.1, hnext.stop_le, hnext.stop_of_message.2⟩
    refine ⟨fun m hm => (hends m hm).2.2, ?_⟩
    have hstart : resumeOffset none ≤ text.length := Nat.zero_le _
    refine (pairwise_all_resume hstart).1.imp_of_mem fun {m m'} hm hm' hbefore => ?_
    obtain ⟨-, -, hstop⟩ := hends m hm
    obtain ⟨hlt, hle, -⟩ := hends m' hm'
    -- There is text behind the end of the earlier match, so it ends in front of a line feed.
    have hbehind : m.stop < m'.stop := Nat.lt_of_le_of_lt hbefore.1 hlt
    rcases hstop with hend | hlineFeed
    · omega
    · exact lineOf_lt_of_lineFeed hlineFeed hbehind

/-- In two lines the second file begins behind the line feed, and the messages, each with a colon in
it, end on lines of their own. -/
theorem findAll_file_start_message_stop_two_lines :
    [.placeholder .file, .literal [':'], .placeholder .message].head? =
        some (Token.placeholder .file) ∧
      [.placeholder .file, .literal [':'], .placeholder .message].getLast? =
        some (Token.placeholder .message) ∧
      (Template.pattern ⟨[.placeholder .file, .literal [':'], .placeholder .message]⟩
          Vocabulary.standard).findAll "a:b:c\nd:e:f".toList =
        [⟨0, [['a'], [':'], "b:c".toList]⟩] ++ ⟨6, [['d'], [':'], "e:f".toList]⟩ :: [] ∧
      (6 = 0 ∨ "a:b:c\nd:e:f".toList[6 - 1]? = some '\n' ∨
        "a:b:c\nd:e:f".toList[6 - 1]? = some '\x00' ∨
        ∃ p ∈ [(⟨0, [['a'], [':'], "b:c".toList]⟩ : Match)].getLast?, 6 = p.stop) ∧
      lineOf "a:b:c\nd:e:f".toList 5 < lineOf "a:b:c\nd:e:f".toList 11 := by
  have hmatches : (Template.pattern ⟨[.placeholder .file, .literal [':'], .placeholder .message]⟩
      Vocabulary.standard).findAll "a:b:c\nd:e:f".toList =
      [⟨0, [['a'], [':'], "b:c".toList]⟩] ++ ⟨6, [['d'], [':'], "e:f".toList]⟩ :: [] := by
    decide +kernel
  obtain ⟨hfile, hmessage⟩ := findAll_file_start_message_stop
    [.placeholder .file, .literal [':'], .placeholder .message] Vocabulary.standard
    "a:b:c\nd:e:f".toList
  obtain ⟨-, hlines⟩ := hmessage rfl
  rw [hmatches] at hlines
  exact ⟨rfl, rfl, hmatches, hfile rfl _ _ _ hmatches,
    List.rel_of_pairwise_cons hlines List.mem_cons_self⟩

end Diagnostics
