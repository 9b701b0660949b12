import Diagnostics.Proofs.CutOffCodes

/-!
# Stripping line by line

Of all escape codes only a command string may go over the end of a line, and it ends with the first
BEL or ESC behind `ESC ]`, whether this ESC is followed by a backslash or not. So where every
`ESC ]` of a text has one of the two behind it, a line feed behind the text is read into no code:
the text and what follows the line feed are stripped on their own (`strip_append_lineFeed`).
-/

namespace Diagnostics.EscapeCode

/-- A command string that is not closed, though a BEL or an ESC is behind it, is not closed by a
line feed and what follows either. -/
theorem afterCommandString?_append_lineFeed {t : Text} (h : afterCommandString? t = none)
    (hend : bel ∈ t ∨ esc ∈ t) (more : Text) : afterCommandString? (t ++ '\n' :: more) = none := by
  obtain ⟨payload, kept, rfl, hpayload, hkept⟩ := exists_dropped (fun c => c != bel && c != esc) t
  have hbel : bel ∉ payload := fun hc => by simpa using hpayload bel hc
  have hesc : esc ∉ payload := fun hc => by simpa using hpayload esc hc
  rw [afterCommandString?, dropWhile_append_of_head? hpayload hkept] at h
  cases kept with
  | nil => simp [hbel, hesc] at hend
  | cons c tail =>
    rw [List.append_assoc, afterCommandString?, dropWhile_append_of_head? hpayload (by exact hkept)]
    dsimp only [List.cons_append] at h ⊢
    split at h
    · cases h
    · rename_i hc
      rw [if_neg hc]
      -- The character behind the ESC is no backslash, be it of the text or the line feed.
      cases tail with
      | nil => rfl
      | cons d tail =>
        have hd : d ≠ '\\' := by
          rintro rfl
          cases h
        rw [List.cons_append]
        split
        · rename_i heq
          exact absurd (List.cons.inj heq).1 hd
        · rfl

/-- A code that is read in front of a line feed is the one that is read without it, if every command
string that is begun there has a BEL or an ESC behind it. -/
theorem afterCode?_append_lineFeed {t rest : Text} (h : afterCode? t = some rest)
    (hend : ∀ right, t = ']' :: right → bel ∈ right ∨ esc ∈ right) (more : Text) :
    afterCode? (t ++ '\n' :: more) = some (rest ++ '\n' :: more) := by
  rw [afterCode?_eq_some_iff]
  rcases afterCode?_eq_some_iff.1 h with ⟨body, rfl, hcode⟩ | ⟨rfl, hstring⟩
  · exact Or.inl ⟨body, List.append_assoc .., hcode⟩
  · exact Or.inr ⟨rfl, afterCommandString?_append_lineFeed hstring (hend rest rfl) more⟩

/-- Texts are stripped line by line, unless a command string is left open. If every `ESC ]` of a
text has a BEL or an ESC somewhere behind it, then the text, a line feed and what follows are
stripped to the text stripped, the line feed, and what follows stripped. -/
theorem strip_append_lineFeed (a b : Text)
    (h : ∀ left right, a = left ++ esc :: ']' :: right → bel ∈ right ∨ esc ∈ right) :
    strip (a ++ '\n' :: b) = strip a ++ '\n' :: strip b := by
  -- The codes of the text are read as they are without the line feed, one after the other.
  fun_induction strip a with
  | case1 => exact strip_cons_of_ne (by decide) b
  | case2 t rest hrest hlength ih =>
    obtain ⟨code, -, hcode⟩ := exists_isEscapeCode hrest
    have hread := afterCode?_append_lineFeed hrest
      (fun right heq => h [] right (by rw [heq]; rfl)) b
    rw [List.cons_append, strip_cons_of_eq_some hread]
    exact ih fun left right heq => h (code ++ left) right (by rw [hcode, heq, List.append_assoc])
  | case3 t hnone ih =>
    have hnone' : afterCode? (t ++ '\n' :: b) = none :=
      afterCode?_append_of_eq_none hnone (by simp)
    rw [List.cons_append, strip_cons_of_eq_none hnone']
    rw [ih fun left right heq => h (esc :: left) right (by rw [heq]; rfl), List.cons_append]
  | case4 c t hc ih =>
    rw [List.cons_append, strip_cons_of_ne hc, List.cons_append]
    rw [ih fun left right heq => h (c :: left) right (by rw [heq]; rfl)]

/-- A command string that is not closed, a control sequence that is cut off and an ESC at the end of
a line do not reach for what the next line begins with. -/
theorem strip_append_lineFeed_cutOff :
    (∀ left right, "\x1b]0;t\x1b[9\x1b".toList = left ++ esc :: ']' :: right →
        bel ∈ right ∨ esc ∈ right) ∧
      strip "\x1b]0;t\x1b[9\x1b\n\\m\x1b[0mb".toList = "0;t\x1b[9\x1b\n\\mb".toList := by
  have hend : ∀ left right, "\x1b]0;t\x1b[9\x1b".toList = left ++ esc :: ']' :: right →
      bel ∈ right ∨ esc ∈ right := by
    have hplaces : ∀ n < 9, ("\x1b]0;t\x1b[9\x1b".toList.drop n).take 2 = [esc, ']'] →
        bel ∈ ("\x1b]0;t\x1b[9\x1b".toList.drop n).drop 2 ∨
          esc ∈ ("\x1b]0;t\x1b[9\x1b".toList.drop n).drop 2 := by decide +kernel
    intro left right heq
    have hdrop : "\x1b]0;t\x1b[9\x1b".toList.drop left.length = esc :: ']' :: right := by
      rw [heq, List.drop_left]
    have hlength : 9 = left.length + (right.length + 2) := by simpa using congrArg List.length heq
    have hplace := hplaces left.length (by omega)
    rw [hdrop] at hplace
    exact hplace rfl
  have h := strip_append_lineFeed "\x1b]0;t\x1b[9\x1b".toList "\\m\x1b[0mb".toList hend
  have ha : strip "\x1b]0;t\x1b[9\x1b".toList = "0;t\x1b[9\x1b".toList := by decide +kernel
  have hb : strip "\\m\x1b[0mb".toList = "\\mb".toList := by decide +kernel
  rw [ha, hb] at h
  exact ⟨hend, h⟩

end Diagnostics.EscapeCode
