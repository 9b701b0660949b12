import Mathlib.Data.List.TakeWhile
import Diagnostics.Proofs.Stripping

/-!
# Escape codes that are cut off

What `afterCode?` reads is a complete escape code, or `ESC ]` in front of a command string that is
not closed (`afterCode?_eq_some_iff`). Where it reads none, the text behind the ESC begins with a
code that is cut off, and the next character, if there is one, goes on with no code
(`exists_isCutOff`); a control character never does (`IsCutOff.afterCode?_append`). So whether a
code is read hangs on no more than its own characters and the one behind it.
-/

namespace Diagnostics.EscapeCode

/-- Every text is made of characters that are dropped and of others, the first of which is kept. -/
theorem exists_dropped (p : Char → Bool) (t : Text) : ∃ dropped kept, t = dropped ++ kept ∧
    (∀ c ∈ dropped, p c = true) ∧ ∀ c ∈ kept.head?, p c = false := by
  refine ⟨t.takeWhile p, t.dropWhile p, List.takeWhile_append_dropWhile.symm,
    fun c hc => List.mem_takeWhile_imp hc, fun c hc => ?_⟩
  have hhead := List.head?_dropWhile_not p t
  rw [Option.mem_def.1 hc] at hhead
  simpa using hhead

/-! ## What is read -/

/-- A command string that is read has a payload and a terminator. -/
theorem exists_of_afterCommandString?_eq_some {t rest : Text}
    (h : afterCommandString? t = some rest) : ∃ payload terminator,
      t = payload ++ (terminator ++ rest) ∧ bel ∉ payload ∧ esc ∉ payload ∧
        (terminator = [bel] ∨ terminator = [esc, '\\']) := by
  obtain ⟨payload, kept, rfl, hpayload, hkept⟩ := exists_dropped (fun c => c != bel && c != esc) t
  have hbel : bel ∉ payload := fun hc => by simpa using hpayload bel hc
  have hesc : esc ∉ payload := fun hc => by simpa using hpayload esc hc
  rw [afterCommandString?, dropWhile_append_of_head? hpayload hkept] at h
  cases kept with
  | nil => cases h
  | cons c tail =>
    dsimp only at h
    split at h
    · rename_i hc
      obtain rfl := Option.some.inj h
      exact ⟨payload, [bel], by rw [hc]; rfl, hbel, hesc, Or.inl rfl⟩
    · rename_i hc
      obtain rfl : c = esc := by simpa [hc] using hkept c rfl
      split at h
      · obtain rfl := Option.some.inj h
        exact ⟨payload, [esc, '\\'], rfl, hbel, hesc, Or.inr rfl⟩
      · cases h

/-- A text begins with parameters and intermediates, and the next character alone decides whether
they are those of a control sequence. -/
theorem exists_afterControlSequence?_eq (t : Text) : ∃ parameters intermediates tail,
    t = parameters ++ (intermediates ++ tail) ∧ (∀ c ∈ parameters, '0' ≤ c ∧ c ≤ '?') ∧
      (∀ c ∈ intermediates, ' ' ≤ c ∧ c ≤ '/') ∧
      ∀ tail', tail'.head? = tail.head? →
        afterControlSequence? (parameters ++ (intermediates ++ tail')) =
          if tail'.head?.any (isBetween '@' '~') then some tail'.tail else none := by
  obtain ⟨parameters, kept, rfl, hparameters, hkept⟩ := exists_dropped (isBetween '0' '?') t
  obtain ⟨intermediates, tail, rfl, hintermediates, htail⟩ :=
    exists_dropped (isBetween ' ' '/') kept
  refine ⟨parameters, intermediates, tail, rfl, fun c hc => isBetween_iff.1 (hparameters c hc),
    fun c hc => isBetween_iff.1 (hintermediates c hc), fun tail' hhead => ?_⟩
  have hkept' : ∀ c ∈ (intermediates ++ tail').head?, isBetween '0' '?' c = false := by
    rw [List.head?_append, hhead, ← List.head?_append]
    exact hkept
  rw [afterControlSequence?, dropWhile_append_of_head? hparameters hkept',
    dropWhile_append_of_head? hintermediates (hhead ▸ htail)]
  cases tail' <;> rfl

/-- The characters from `@` to `_` without the brackets are those of the codes of two characters. -/
theorem isPair_of_isBetween {c : Char} (h : isBetween '@' '_' c = true) (hopen : c ≠ '[')
    (hclose : c ≠ ']') : ('@' ≤ c ∧ c ≤ 'Z') ∨ c ∈ ['\\', '^', '_'] := by
  have hlast : ∀ n < 0x60, Char.ofNat n ≠ '[' → Char.ofNat n ≠ ']' → Char.ofNat n ≤ 'Z' ∨
      Char.ofNat n ∈ ['\\', '^', '_'] := by decide
  obtain ⟨hfirst, hle⟩ := isBetween_iff.1 h
  have hlt : c.toNat < 0x60 := Nat.lt_succ_of_le (UInt32.le_iff_toNat_le.1 hle)
  have hc := hlast c.toNat hlt
  rw [Char.ofNat_toNat] at hc
  exact (hc hopen hclose).imp_left (And.intro hfirst)

/-- What is read behind an ESC makes a complete escape code of it, or is the beginning of a command
string that is not closed. -/
theorem afterCode?_eq_some_iff {t rest : Text} : afterCode? t = some rest ↔
    (∃ body, t = body ++ rest ∧ IsCode (esc :: body)) ∨
      t = ']' :: rest ∧ afterCommandString? rest = none := by
  constructor
  · intro h
    unfold afterCode? at h
    split at h
    · cases h
    · rename_i t
      obtain ⟨parameters, intermediates, tail, rfl, hparameters, hintermediates, hread⟩ :=
        exists_afterControlSequence?_eq t
      rw [hread tail rfl, Option.ite_none_right_eq_some] at h
      obtain ⟨hfinal, hrest⟩ := h
      cases tail with
      | nil => cases hfinal
      | cons final tail =>
        obtain rfl := Option.some.inj hrest
        obtain ⟨hfirst, hlast⟩ := isBetween_iff.1 hfinal
        exact Or.inl ⟨'[' :: (parameters ++ (intermediates ++ [final])), by simp,
          .controlSequence hparameters hintermediates hfirst hlast⟩
    · rename_i t
      cases hstring : afterCommandString? t with
      | none =>
        rw [hstring] at h
        obtain rfl := Option.some.inj h
        exact Or.inr ⟨rfl, hstring⟩
      | some after =>
        rw [hstring] at h
        obtain rfl := Option.some.inj h
        obtain ⟨payload, terminator, rfl, hbel, hesc, hterminator⟩ :=
          exists_of_afterCommandString?_eq_some hstring
        exact Or.inl ⟨']' :: (payload ++ terminator), by simp,
          .commandString hbel hesc hterminator⟩
    · rename_i c t hopen hclose
      split at h
      · rename_i hbracket
        split at h
        · cases h
        · rename_i set rest'
          obtain ⟨hset, hrest⟩ := Option.ite_none_right_eq_some.1 h
          obtain rfl := Option.some.inj hrest
          exact Or.inl ⟨[c, set], rfl, .characterSet hbracket hset⟩
      · obtain ⟨hbetween, hrest⟩ := Option.ite_none_right_eq_some.1 h
        obtain rfl := Option.some.inj hrest
        exact Or.inl ⟨[c], rfl, .pair (isPair_of_isBetween hbetween hopen hclose)⟩
  · rintro (⟨body, rfl, hcode⟩ | ⟨rfl, hstring⟩)
    · obtain ⟨body', hbody, hafter⟩ := hcode.afterCode?_append
      obtain rfl := (List.cons.inj hbody).2
      exact hafter rest
    · rw [afterCode?, hstring]
      rfl

/-- The text is an escape code: a complete one, or the two characters that begin a command string,
which are a code of their own where the command string is not closed. -/
def IsEscapeCode (t : Text) : Prop :=
  IsCode t ∨ t = [esc, ']']

/-- What is read behind an ESC is an escape code with this ESC. -/
theorem exists_isEscapeCode {t rest : Text} (h : afterCode? t = some rest) :
    ∃ code, IsEscapeCode code ∧ esc :: t = code ++ rest := by
  rcases afterCode?_eq_some_iff.1 h with ⟨body, rfl, hcode⟩ | ⟨rfl, -⟩
  · exact ⟨esc :: body, Or.inl hcode, rfl⟩
  · exact ⟨[esc, ']'], Or.inr rfl, rfl⟩

/-- A code that is read is read too when more text follows. -/
theorem exists_afterCode?_append {t rest : Text} (h : afterCode? t = some rest) (more : Text) :
    ∃ rest', afterCode? (t ++ more) = some rest' := by
  rcases afterCode?_eq_some_iff.1 h with ⟨body, rfl, hcode⟩ | ⟨rfl, -⟩
  · exact ⟨rest ++ more, afterCode?_eq_some_iff.2 (Or.inl ⟨body, List.append_assoc .., hcode⟩)⟩
  · exact ⟨_, rfl⟩

/-! ## What is cut off -/

/-- The text is the beginning of an escape code that is cut off in front of the character that would
end it. -/
inductive IsCutOff : Text → Prop where
  /-- An ESC alone. -/
  | escape : IsCutOff [esc]
  /-- A control sequence without its final character. -/
  | controlSequence {parameters intermediates : Text} :
    (∀ c ∈ parameters, '0' ≤ c ∧ c ≤ '?') → (∀ c ∈ intermediates, ' ' ≤ c ∧ c ≤ '/') →
    IsCutOff (esc :: '[' :: (parameters ++ intermediates))
  /-- The choice of a character set without the name of the set. -/
  | characterSet {bracket : Char} : bracket = '(' ∨ bracket = ')' → IsCutOff [esc, bracket]

/-- The only ESC of a code that is cut off is its first character. -/
theorem IsCutOff.exists_eq_cons {t : Text} (h : IsCutOff t) :
    ∃ opening, t = esc :: opening ∧ esc ∉ opening := by
  cases h with
  | escape => exact ⟨[], rfl, List.not_mem_nil⟩
  | controlSequence hparameters hintermediates =>
    refine ⟨_, rfl, fun hmem => ?_⟩
    rcases List.mem_cons.1 hmem with heq | hmem
    · revert heq
      decide
    · rcases List.mem_append.1 hmem with hmem | hmem
      · exact absurd (hparameters esc hmem).1 (by decide)
      · exact absurd (hintermediates esc hmem).1 (by decide)
  | characterSet hbracket =>
    refine ⟨_, rfl, fun hmem => ?_⟩
    obtain rfl := List.mem_singleton.1 hmem
    revert hbracket
    decide

/-- Behind a bracket the next character alone decides whether a character set is chosen. -/
theorem afterCode?_cons_of_bracket {c : Char} (h : c = '(' ∨ c = ')') (t : Text) :
    afterCode? (c :: t) =
      if t.head?.any (· ∈ ['B', '0', 'U', 'K']) then some t.tail else none := by
  rcases h with rfl | rfl <;> cases t <;> simp [afterCode?]

/-- A character that begins no longer code is one of a code of two characters or of none. -/
theorem afterCode?_cons_of_ne {c : Char} (hopen : c ≠ '[') (hclose : c ≠ ']')
    (hbracket : ¬(c = '(' ∨ c = ')')) (t : Text) :
    afterCode? (c :: t) = if isBetween '@' '_' c then some t else none := by
  unfold afterCode?
  split
  · rename_i heq
    cases heq
  · rename_i heq
    exact absurd (List.cons.inj heq).1 hopen
  · rename_i heq
    exact absurd (List.cons.inj heq).1 hclose
  · rename_i heq
    obtain ⟨rfl, rfl⟩ := List.cons.inj heq
    rw [if_neg hbracket]

/-- Where no code is read, the text begins with one that is cut off, and with the same character
behind that none is read either. -/
theorem exists_isCutOff {t : Text} (h : afterCode? t = none) : ∃ opening tail,
    t = opening ++ tail ∧ IsCutOff (esc :: opening) ∧
      ∀ tail', tail'.head? = tail.head? → afterCode? (opening ++ tail') = none := by
  cases t with
  | nil =>
    refine ⟨[], [], rfl, .escape, fun tail' hhead => ?_⟩
    rw [List.head?_eq_none_iff.1 hhead]
    rfl
  | cons c t =>
    by_cases hopen : c = '['
    · subst hopen
      obtain ⟨parameters, intermediates, tail, rfl, hparameters, hintermediates, hread⟩ :=
        exists_afterControlSequence?_eq t
      refine ⟨'[' :: (parameters ++ intermediates), tail, by simp,
        .controlSequence hparameters hintermediates, fun tail' hhead => ?_⟩
      rw [afterCode?, hread tail rfl, ite_eq_right_iff] at h
      rw [List.cons_append, List.append_assoc, afterCode?, hread tail' hhead, hhead]
      exact if_neg fun hfinal => Option.some_ne_none _ (h hfinal)
    by_cases hclose : c = ']'
    · subst hclose
      cases h
    by_cases hbracket : c = '(' ∨ c = ')'
    · refine ⟨[c], t, rfl, .characterSet hbracket, fun tail' hhead => ?_⟩
      rw [afterCode?_cons_of_bracket hbracket, ite_eq_right_iff] at h
      rw [List.singleton_append, afterCode?_cons_of_bracket hbracket, hhead]
      exact if_neg fun hset => Option.some_ne_none _ (h hset)
    · refine ⟨[], c :: t, rfl, .escape, fun tail' hhead => ?_⟩
      obtain ⟨rest, rfl⟩ := List.head?_eq_some_iff.1 hhead
      rw [afterCode?_cons_of_ne hopen hclose hbracket, ite_eq_right_iff] at h
      rw [List.nil_append, afterCode?_cons_of_ne hopen hclose hbracket]
      exact if_neg fun hbetween => Option.some_ne_none _ (h hbetween)

/-- A control character goes on with no code that is cut off, and neither does the end of the
text. -/
theorem IsCutOff.afterCode?_append {opening : Text} (h : IsCutOff (esc :: opening)) {tail : Text}
    (htail : ∀ c ∈ tail.head?, c < ' ') : afterCode? (opening ++ tail) = none := by
  have hbelow : ∀ c ∈ tail.head?, ∀ first last, ' ' ≤ first → isBetween first last c = false := by
    intro c hc first last hfirst
    refine Bool.eq_false_iff.2 fun hbetween => ?_
    exact Char.not_le.2 (htail c hc) (Char.le_trans hfirst (isBetween_iff.1 hbetween).1)
  cases h with
  | escape =>
    cases tail with
    | nil => rfl
    | cons c tail =>
      have hc := htail c rfl
      have hne : ∀ d, ' ' ≤ d → c ≠ d := fun d hd heq => Char.not_le.2 hc (heq ▸ hd)
      rw [List.nil_append, afterCode?_cons_of_ne (hne '[' (by decide)) (hne ']' (by decide))
        (not_or.2 ⟨hne '(' (by decide), hne ')' (by decide)⟩), hbelow c rfl '@' '_' (by decide)]
      rfl
  | @controlSequence parameters intermediates hparameters hintermediates =>
    have hkept : ∀ c ∈ (intermediates ++ tail).head?, isBetween '0' '?' c = false := by
      cases intermediates with
      | nil => exact fun c hc => hbelow c hc '0' '?' (by decide)
      | cons c intermediates =>
        rintro _ ⟨⟩
        exact isBetween_eq_false (hintermediates c List.mem_cons_self) (Or.inr (by decide))
    rw [List.cons_append, List.append_assoc, afterCode?, afterControlSequence?,
      dropWhile_append_of_head? (fun c hc => isBetween_iff.2 (hparameters c hc)) hkept,
      dropWhile_append_of_head? (fun c hc => isBetween_iff.2 (hintermediates c hc))
        fun c hc => hbelow c hc ' ' '/' (by decide)]
    cases tail with
    | nil => rfl
    | cons c tail =>
      dsimp only
      rw [hbelow c rfl '@' '~' (by decide)]
      rfl
  | @characterSet bracket hbracket =>
    rw [List.singleton_append, afterCode?_cons_of_bracket hbracket]
    cases tail with
    | nil => rfl
    | cons c tail =>
      refine if_neg fun hset => ?_
      have hc := htail c rfl
      have hset : c = 'B' ∨ c = '0' ∨ c = 'U' ∨ c = 'K' := by simpa using hset
      rcases hset with rfl | rfl | rfl | rfl <;> exact absurd hc (by decide)

/-- Where no code is read, none is read either when a control character follows the text. -/
theorem afterCode?_append_of_eq_none {t more : Text} (h : afterCode? t = none)
    (hmore : ∀ c ∈ more.head?, c < ' ') : afterCode? (t ++ more) = none := by
  obtain ⟨opening, tail, rfl, hcutOff, hnone⟩ := exists_isCutOff h
  rw [List.append_assoc]
  cases tail with
  | nil => exact hcutOff.afterCode?_append hmore
  | cons c tail => exact hnone _ rfl

/-! ## Stripping step by step -/

/-- A code that is read is removed. -/
theorem strip_cons_of_eq_some {t rest : Text} (h : afterCode? t = some rest) :
    strip (esc :: t) = strip rest := by
  rw [strip, if_pos rfl]
  split
  · rename_i rest' hrest'
    rw [Option.some.inj (h.symm.trans hrest')]
  · rename_i hnone
    cases h.symm.trans hnone

/-- An ESC is kept where no code is read. -/
theorem strip_cons_of_eq_none {t : Text} (h : afterCode? t = none) :
    strip (esc :: t) = esc :: strip t := by
  rw [strip, if_pos rfl]
  split
  · rename_i rest' hrest'
    cases h.symm.trans hrest'
  · rfl

end Diagnostics.EscapeCode
