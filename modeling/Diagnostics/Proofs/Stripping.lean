import Diagnostics.EscapeCode

/-!
# Complete escape codes are stripped

`IsCode` says what a complete escape code is, character by character. Whatever stands behind such a
code, `afterCode?` reads the code to its last character and no further (`IsCode.afterCode?_append`):
the payload of a command string ends at the first BEL or ESC, and the parameters, the intermediates
and the final character of a control sequence come from ranges that are apart. So the stripping of a
text goes from code to code (`strip_append_of_isCode`), leaves the text between them as it is
(`strip_append_of_notMem`), and gives back what a tool has coloured (`strip_coloured`).
-/

namespace Diagnostics.EscapeCode

/-! ## One code -/

/-- The text is a complete escape code. -/
inductive IsCode : Text → Prop where
  /-- A command string: `ESC ]`, a payload without BEL and ESC, and then BEL or `ESC \`. -/
  | commandString {payload terminator : Text} :
    bel ∉ payload → esc ∉ payload → terminator = [bel] ∨ terminator = [esc, '\\'] →
    IsCode (esc :: ']' :: (payload ++ terminator))
  /-- A control sequence: `ESC [`, parameters, intermediates and a final character. -/
  | controlSequence {parameters intermediates : Text} {final : Char} :
    (∀ c ∈ parameters, '0' ≤ c ∧ c ≤ '?') → (∀ c ∈ intermediates, ' ' ≤ c ∧ c ≤ '/') →
    '@' ≤ final → final ≤ '~' →
    IsCode (esc :: '[' :: (parameters ++ (intermediates ++ [final])))
  /-- The choice of a character set: ESC, a bracket and the name of the set. -/
  | characterSet {bracket set : Char} :
    bracket = '(' ∨ bracket = ')' → set ∈ ['B', '0', 'U', 'K'] → IsCode [esc, bracket, set]
  /-- A code of two characters. -/
  | pair {c : Char} :
    ('@' ≤ c ∧ c ≤ 'Z') ∨ c ∈ ['\\', '^', '_'] → IsCode [esc, c]

/-- A character lies in a range when it lies between its two ends. -/
theorem isBetween_iff {first last c : Char} :
    isBetween first last c = true ↔ first ≤ c ∧ c ≤ last := by
  simp [isBetween]

/-- Two ranges one behind the other have no character in common. -/
theorem isBetween_eq_false {first last first' last' c : Char} (h : first' ≤ c ∧ c ≤ last')
    (hlast : last < first' ∨ last' < first) : isBetween first last c = false := by
  refine Bool.eq_false_iff.2 fun hbetween => ?_
  obtain ⟨hfirst, hle⟩ := isBetween_iff.1 hbetween
  rcases hlast with hlast | hlast
  · exact absurd (Char.le_trans h.1 hle) (Char.not_le.2 hlast)
  · exact absurd (Char.le_trans hfirst h.2) (Char.not_le.2 hlast)

/-- Characters that are dropped are dropped up to the first one that is kept. -/
theorem dropWhile_append_of_head? {p : Char → Bool} {dropped kept : Text}
    (hdropped : ∀ c ∈ dropped, p c = true) (hkept : ∀ c ∈ kept.head?, p c = false) :
    (dropped ++ kept).dropWhile p = kept := by
  rw [List.dropWhile_append_of_pos hdropped]
  cases kept with
  | nil => rfl
  | cons c kept =>
    apply List.dropWhile_cons_of_neg
    rw [hkept c rfl]
    decide

/-- A command string is read up to its terminator. -/
theorem afterCommandString?_append {payload terminator : Text} (hbel : bel ∉ payload)
    (hesc : esc ∉ payload) (hterminator : terminator = [bel] ∨ terminator = [esc, '\\'])
    (rest : Text) : afterCommandString? (payload ++ (terminator ++ rest)) = some rest := by
  have hpayload : ∀ c ∈ payload, (c != bel && c != esc) = true := by
    intro c hc
    have hne : c ≠ bel ∧ c ≠ esc := ⟨fun h => hbel (h ▸ hc), fun h => hesc (h ▸ hc)⟩
    simp [hne]
  unfold afterCommandString?
  -- The payload is over where its terminator begins.
  rcases hterminator with rfl | rfl
  · rw [dropWhile_append_of_head? hpayload (by simp)]
    rfl
  · rw [dropWhile_append_of_head? hpayload (by simp)]
    rfl

/-- A control sequence is read up to its final character. -/
theorem afterControlSequence?_append {parameters intermediates : Text} {final : Char}
    (hparameters : ∀ c ∈ parameters, '0' ≤ c ∧ c ≤ '?')
    (hintermediates : ∀ c ∈ intermediates, ' ' ≤ c ∧ c ≤ '/')
    (hfinal : '@' ≤ final ∧ final ≤ '~') (rest : Text) :
    afterControlSequence? (parameters ++ (intermediates ++ final :: rest)) = some rest := by
  have hkept : ∀ c ∈ (intermediates ++ final :: rest).head?, isBetween '0' '?' c = false := by
    cases intermediates with
    | nil =>
      rintro _ ⟨⟩
      exact isBetween_eq_false hfinal (Or.inl (by decide))
    | cons c intermediates =>
      rintro _ ⟨⟩
      exact isBetween_eq_false (hintermediates c List.mem_cons_self) (Or.inr (by decide))
  have hkept' : ∀ c ∈ (final :: rest).head?, isBetween ' ' '/' c = false := by
    rintro _ ⟨⟩
    exact isBetween_eq_false hfinal (Or.inl (by decide))
  unfold afterControlSequence?
  -- First the parameters are read, then the intermediates, and then one more character.
  rw [dropWhile_append_of_head? (fun c hc => isBetween_iff.2 (hparameters c hc)) hkept,
    dropWhile_append_of_head? (fun c hc => isBetween_iff.2 (hintermediates c hc)) hkept']
  exact if_pos (isBetween_iff.2 hfinal)

/-- The second character of a code of two characters begins no longer code. -/
theorem afterCode?_cons_of_pair {c : Char} (h : ('@' ≤ c ∧ c ≤ 'Z') ∨ c ∈ ['\\', '^', '_'])
    (rest : Text) : afterCode? (c :: rest) = some rest := by
  have hsequence : c ≠ '[' := by
    rintro rfl
    revert h
    decide
  have hstring : c ≠ ']' := by
    rintro rfl
    revert h
    decide
  have hset : ¬(c = '(' ∨ c = ')') := by
    rintro (rfl | rfl)
    · revert h
      decide
    · revert h
      decide
  have hbetween : isBetween '@' '_' c = true := by
    rcases h with ⟨hfirst, hlast⟩ | hmem
    · exact isBetween_iff.2 ⟨hfirst, Char.le_trans hlast (by decide)⟩
    · simp only [List.mem_cons, List.not_mem_nil, or_false] at hmem
      rcases hmem with rfl | rfl | rfl <;> decide
  unfold afterCode?
  split
  · rename_i heq
    cases heq
  · rename_i heq
    exact absurd (List.cons.inj heq).1 hsequence
  · rename_i heq
    exact absurd (List.cons.inj heq).1 hstring
  · rename_i heq
    obtain ⟨rfl, rfl⟩ := List.cons.inj heq
    rw [if_neg hset, if_pos hbetween]

/-- A complete code is read to its end, whatever stands behind it. -/
theorem IsCode.afterCode?_append {code : Text} (h : IsCode code) :
    ∃ body, code = esc :: body ∧ ∀ rest, afterCode? (body ++ rest) = some rest := by
  cases h with
  | commandString hbel hesc hterminator =>
    refine ⟨_, rfl, fun rest => ?_⟩
    have hafter := afterCommandString?_append hbel hesc hterminator rest
    rw [List.cons_append, List.append_assoc, afterCode?, hafter]
    rfl
  | controlSequence hparameters hintermediates hfirst hlast =>
    refine ⟨_, rfl, fun rest => ?_⟩
    have hafter := afterControlSequence?_append hparameters hintermediates ⟨hfirst, hlast⟩ rest
    rw [List.cons_append, List.append_assoc, List.append_assoc, afterCode?]
    exact hafter
  | characterSet hbracket hset =>
    refine ⟨_, rfl, fun rest => ?_⟩
    rcases hbracket with rfl | rfl
    · exact if_pos hset
    · exact if_pos hset
  | pair hc => exact ⟨_, rfl, afterCode?_cons_of_pair hc⟩

/-! ## Texts with codes -/

/-- A character other than ESC is kept. -/
theorem strip_cons_of_ne {c : Char} (h : c ≠ esc) (t : Text) : strip (c :: t) = c :: strip t := by
  rw [strip, if_neg h]

/-- A text without ESC is kept, and what follows is stripped. -/
theorem strip_append_of_notMem {plain : Text} (h : esc ∉ plain) (t : Text) :
    strip (plain ++ t) = plain ++ strip t := by
  induction plain with
  | nil => rfl
  | cons c plain ih =>
    obtain ⟨hc, hplain⟩ := not_or.1 (mt List.mem_cons.2 h)
    rw [List.cons_append, strip_cons_of_ne (Ne.symm hc), ih hplain, List.cons_append]

/-- A complete code is removed, and what follows is stripped. -/
theorem strip_append_of_isCode {code : Text} (h : IsCode code) (t : Text) :
    strip (code ++ t) = strip t := by
  obtain ⟨body, rfl, hafter⟩ := h.afterCode?_append
  rw [List.cons_append, strip, if_pos rfl]
  split
  · rename_i rest hrest
    rw [hafter t] at hrest
    obtain rfl := Option.some.inj hrest
    rfl
  · rename_i hrest
    rw [hafter t] at hrest
    cases hrest

/-- Colours are transparent. Take a text without ESC and behind it any number of complete escape
codes, each with a text without ESC behind it, which may look like more of the code: stripped of its
escape codes, the whole is these texts one after the other. -/
theorem strip_coloured (first : Text) (parts : List (Text × Text)) (hfirst : esc ∉ first)
    (hparts : ∀ part ∈ parts, IsCode part.1 ∧ esc ∉ part.2) :
    strip (first ++ parts.flatMap fun part => part.1 ++ part.2) =
      first ++ parts.flatMap Prod.snd := by
  rw [strip_append_of_notMem hfirst]
  congr 1
  induction parts with
  | nil => simp [strip]
  | cons part parts ih =>
    obtain ⟨⟨hcode, hplain⟩, hparts⟩ := List.forall_mem_cons.1 hparts
    rw [List.flatMap_cons, List.flatMap_cons, List.append_assoc, strip_append_of_isCode hcode,
      strip_append_of_notMem hplain, ih hparts]

/-- A colour with more digits behind it, a title closed by BEL with another BEL behind it, a link
closed by `ESC \` with another backslash behind it, a character set and a code of two characters are
removed, and nothing else. -/
theorem strip_coloured_lookalikes :
    esc ∉ "a".toList ∧
      (∀ part ∈ [("\x1b[1;31m".toList, "0m".toList), ("\x1b]2;t\x07".toList, "\x07b".toList),
          ("\x1b]8;;u\x1b\\".toList, "\\c".toList), ("\x1b(B".toList, "B".toList),
          ("\x1bM".toList, "[1m".toList)], IsCode part.1 ∧ esc ∉ part.2) ∧
      strip "a\x1b[1;31m0m\x1b]2;t\x07\x07b\x1b]8;;u\x1b\\\\c\x1b(BB\x1bM[1m".toList =
        "a0m\x07b\\cB[1m".toList := by
  have hcolour : IsCode "\x1b[1;31m".toList :=
    @IsCode.controlSequence "1;31".toList [] 'm'
      (fun c hc => isBetween_iff.1 (List.all_eq_true.1 (by decide) c hc)) nofun (by decide)
      (by decide)
  have htitle : IsCode "\x1b]2;t\x07".toList :=
    @IsCode.commandString "2;t".toList [bel] (by decide) (by decide) (Or.inl rfl)
  have hlink : IsCode "\x1b]8;;u\x1b\\".toList :=
    @IsCode.commandString "8;;u".toList [esc, '\\'] (by decide) (by decide) (Or.inr rfl)
  have hset : IsCode "\x1b(B".toList := .characterSet (Or.inl rfl) (by decide)
  have hpair : IsCode "\x1bM".toList := .pair (Or.inl (by decide))
  have hfirst : esc ∉ "a".toList := by decide
  have hparts : ∀ part ∈ [("\x1b[1;31m".toList, "0m".toList),
      ("\x1b]2;t\x07".toList, "\x07b".toList), ("\x1b]8;;u\x1b\\".toList, "\\c".toList),
      ("\x1b(B".toList, "B".toList), ("\x1bM".toList, "[1m".toList)],
      IsCode part.1 ∧ esc ∉ part.2 := by
    simp only [List.forall_mem_cons]
    exact ⟨⟨hcolour, by decide⟩, ⟨htitle, by decide⟩, ⟨hlink, by decide⟩, ⟨hset, by decide⟩,
      ⟨hpair, by decide⟩, nofun⟩
  exact ⟨hfirst, hparts, strip_coloured _ _ hfirst hparts⟩

end Diagnostics.EscapeCode
