import Mathlib.Data.List.DropRight
import Diagnostics.Proofs.LeadingKind
import Diagnostics.Proofs.Stripping
import Diagnostics.Vocabulary.Synonym

/-!
# The grammar of word definitions

`IsDefinition` says what a definition `WORD=KIND` is: a word and a name of a kind with an `=` between
them, and any white space around the two. The word ends at the first `=`, so it has none itself, and
it neither begins nor ends with white space. The name is spelled in capital and small ASCII letters.

`readSynonym` accepts exactly these texts (`readSynonym_eq_ok_iff`). The parts on both sides of the
`=` are the only ones that the first `=` leaves. To strip a part of its white space finds the one
text without white space at its ends (`Text.strip_eq_iff`). And no text but a spelling of a kind has
the name of the kind for its lower-case form (`Kind.lower_eq_name_iff`), although letters outside of
ASCII have lower-case forms within it.
-/

namespace Diagnostics

/-! ## White space at the ends -/

namespace Text

/-- The text is a run of white space, or empty. -/
def IsWhite (t : Text) : Prop :=
  ∀ c ∈ t, isBlank c = true

/-- The text neither begins nor ends with white space. -/
structure IsStripped (t : Text) : Prop where
  /-- The first character, if there is one, is no white space. -/
  head : ∀ c ∈ t.head?, isBlank c = false
  /-- The last character, if there is one, is no white space. -/
  getLast : ∀ c ∈ t.getLast?, isBlank c = false

variable {t core before after : Text}

/-- A stripped text is what is dropped from neither end. -/
theorem strip_eq_rdropWhile (t : Text) : t.strip = (t.dropWhile isBlank).rdropWhile isBlank := rfl

/-- White space around a text without white space at its ends is stripped off. -/
theorem IsStripped.strip_append (h : core.IsStripped) (hbefore : before.IsWhite)
    (hafter : after.IsWhite) : strip (before ++ core ++ after) = core := by
  have hfirst : (before ++ core ++ after).dropWhile isBlank =
      (core ++ after).dropWhile isBlank := by
    rw [List.append_assoc, List.dropWhile_append_of_pos hbefore]
  rw [strip_eq_rdropWhile, hfirst]
  cases core with
  | nil =>
    rw [List.nil_append, List.dropWhile_eq_nil_iff.2 hafter, List.rdropWhile_nil]
  | cons c core =>
    have hc : ¬isBlank c = true := by
      rw [h.head c rfl]
      exact Bool.false_ne_true
    rw [List.cons_append, List.dropWhile_cons_of_neg hc, ← List.cons_append, List.rdropWhile,
      List.reverse_append, EscapeCode.dropWhile_append_of_head?, List.reverse_reverse]
    · exact fun d hd => hafter d (List.mem_reverse.1 hd)
    · intro d hd
      rw [List.head?_reverse] at hd
      exact h.getLast d hd

/-- What is stripped off a text is white space. -/
theorem exists_eq_append_strip (t : Text) :
    ∃ before after : Text, before.IsWhite ∧ after.IsWhite ∧ t = before ++ t.strip ++ after := by
  refine ⟨t.takeWhile isBlank, (t.dropWhile isBlank).rtakeWhile isBlank,
    fun c hc => List.mem_takeWhile_imp hc, fun c hc => List.mem_rtakeWhile_imp hc, ?_⟩
  rw [strip_eq_rdropWhile, List.append_assoc, List.rdropWhile_append_rtakeWhile,
    List.takeWhile_append_dropWhile]

/-- A stripped text has no white space at its ends. -/
theorem isStripped_strip (t : Text) : t.strip.IsStripped := by
  rw [strip_eq_rdropWhile]
  constructor
  · intro c hc
    -- It begins as the text does from its first character on that is no white space.
    obtain ⟨rest, hrest⟩ := List.rdropWhile_prefix isBlank (t.dropWhile isBlank)
    have hhead : (t.dropWhile isBlank).head? = some c := by
      rw [← hrest, List.head?_append, Option.mem_def.1 hc, Option.some_or]
    have hnot := List.head?_dropWhile_not isBlank t
    rwa [hhead] at hnot
  · intro c hc
    rw [List.rdropWhile, List.getLast?_reverse] at hc
    have hnot := List.head?_dropWhile_not isBlank (t.dropWhile isBlank).reverse
    rwa [Option.mem_def.1 hc] at hnot

/-- To strip a text is to find the part without white space at its ends that has nothing but white
space around it. -/
theorem strip_eq_iff : t.strip = core ↔ core.IsStripped ∧
    ∃ before after : Text, before.IsWhite ∧ after.IsWhite ∧ t = before ++ core ++ after := by
  constructor
  · rintro rfl
    exact ⟨t.isStripped_strip, t.exists_eq_append_strip⟩
  · rintro ⟨hcore, before, after, hbefore, hafter, rfl⟩
    exact hcore.strip_append hbefore hafter

/-- A character that is no white space is in no run of white space. -/
theorem IsWhite.notMem (h : t.IsWhite) {c : Char} (hc : isBlank c = false) : c ∉ t := by
  intro hmem
  rw [h c hmem] at hc
  cases hc

end Text

/-! ## Spellings of kinds -/

namespace Kind

variable {kind : Kind} {t : Text}

/-- A character whose lower-case letter is a letter of a kind is an ASCII letter, unless it is the
capital I with a dot. -/
theorem toLower_eq_simpleLower {c : Char} (h : simpleLower c ∈ kind.name) (hdot : c ≠ '\u0130') :
    c.toLower = simpleLower c := by
  have hletters : ∀ kind : Kind, kind.name.all fun d => d.toLower = d := by
    rintro (_ | _) <;> decide
  have hruns : ∀ kind : Kind, ∀ run ∈ letterRuns, kind.name.all fun d =>
      run.lower ≤ d.toNat → d.toNat ≤ run.lower + (run.last - run.first) →
      Char.ofNat (run.first + (d.toNat - run.lower)) = '\u0130' ∨
        (Char.ofNat (run.first + (d.toNat - run.lower))).toLower = d := by
    rintro (_ | _) <;> decide +kernel
  have hletter : c = '\u0130' ∨ c.toLower = simpleLower c := by
    refine of_simpleLower_eq (P := fun e => e = '\u0130' ∨ e.toLower = simpleLower c) rfl ?_ ?_
    · exact Or.inr (List.all_iff_forall_prop.1 (hletters kind) _ h)
    · exact fun run hrun => List.all_iff_forall_prop.1 (hruns kind run hrun) _ h
  exact hletter.resolve_left hdot

/-- A text has the name of a kind for its lower-case form exactly when it is a spelling of the kind.
-/
theorem lower_eq_name_iff : t.lower = kind.name ↔ kind.IsSpelled t := by
  constructor
  · intro hlower
    obtain ⟨hmap, hdot⟩ := (Text.lower_eq_iff fun c => toNat_lt_of_mem_name).1 hlower
    have hletters : t.map Char.toLower = t.map simpleLower := by
      refine List.map_congr_left fun c hc => ?_
      have hletter : simpleLower c ∈ t.map simpleLower := List.mem_map_of_mem hc
      exact toLower_eq_simpleLower (hmap ▸ hletter) fun heq => hdot (heq ▸ hc)
    exact hletters.trans hmap
  · exact IsSpelled.lower_eq

/-- White space is no letter of a kind, in any case. -/
theorem isBlank_eq_false_of_toLower_mem {c : Char} (h : c.toLower ∈ kind.name) :
    isBlank c = false := by
  have hletters : ∀ kind : Kind, kind.name.all fun d => isBlank d = false := by
    rintro (_ | _) <;> decide
  have hranges : ∀ range ∈ blankRanges, range.2 < 0x41 ∨ 0x5A < range.1 := by decide
  by_contra hnot
  have hblank : isBlank c = true := by simpa using hnot
  obtain ⟨range, hrange, hfirst, hlast⟩ := CodeRanges.exists_mem_of_contains hblank
  -- No range of white space has a capital letter.
  have hrow := hranges range hrange
  rw [toLower_eq_self (by omega)] at h
  exact hnot (List.all_iff_forall_prop.1 (hletters kind) c h)

/-- A spelling of a kind has no white space at its ends. -/
theorem IsSpelled.isStripped (h : kind.IsSpelled t) : t.IsStripped := by
  have hblank : ∀ c ∈ t, isBlank c = false := by
    intro c hc
    have hname : t.map Char.toLower = kind.name := h
    have hletter : c.toLower ∈ t.map Char.toLower := List.mem_map_of_mem hc
    exact isBlank_eq_false_of_toLower_mem (hname ▸ hletter)
  exact ⟨fun c hc => hblank c (List.mem_of_head? hc),
    fun c hc => hblank c (List.mem_of_getLast? hc)⟩

end Kind

/-! ## Definitions -/

/-- The text is a definition of the word as the kind: the word, which is not empty, has no `=` and
neither begins nor ends with white space, then an `=`, and then the name of the kind in capital and
small letters; around the word and around the name there may be white space. -/
inductive IsDefinition : Text → Text → Kind → Prop where
  /-- The parts of a definition, with white space in `u`, `v`, `x` and `y`. -/
  | intro {u word v x name y : Text} {kind : Kind} :
    u.IsWhite → v.IsWhite → x.IsWhite → y.IsWhite →
    word ≠ [] → '=' ∉ word → word.IsStripped → kind.IsSpelled name →
    IsDefinition (u ++ word ++ v ++ '=' :: (x ++ name ++ y)) word kind

section

variable {definition word : Text} {kind : Kind}

/-- A word and a kind are read from the parts in front of the first `=` and behind it. -/
theorem readSynonym_eq_ok_iff_splitFirst : readSynonym definition = .ok (word, kind) ↔
    ∃ left right, definition.splitFirst '=' = some (left, right) ∧ word ≠ [] ∧
      left.strip = word ∧ right.strip.lower = kind.name := by
  unfold readSynonym
  constructor
  · intro h
    split at h
    · cases h
    · rename_i left right hsplit
      dsimp only at h
      split at h
      · cases h
      · rename_i hword
        split at h
        · rename_i kind' hkind
          obtain ⟨rfl, rfl⟩ := Prod.mk.inj (Except.ok.inj h)
          exact ⟨left, right, hsplit, hword, rfl, Kind.ofName?_eq_some_iff.1 hkind⟩
        · cases h
  · rintro ⟨left, right, hsplit, hword, rfl, hkind⟩
    rw [hsplit]
    dsimp only
    rw [if_neg hword, Kind.ofName?_eq_some_iff.2 hkind]

/-- A word and a kind are read exactly from a definition of the word as the kind. -/
theorem readSynonym_eq_ok_iff :
    readSynonym definition = .ok (word, kind) ↔ IsDefinition definition word kind := by
  rw [readSynonym_eq_ok_iff_splitFirst]
  constructor
  · rintro ⟨left, right, hsplit, hword, hleft, hright⟩
    obtain ⟨rfl, hfirst⟩ := Text.splitFirst_eq_some_iff.1 hsplit
    obtain ⟨hstripped, u, v, hu, hv, rfl⟩ := Text.strip_eq_iff.1 hleft
    obtain ⟨x, y, hx, hy, hxy⟩ := right.exists_eq_append_strip
    rw [hxy]
    refine .intro hu hv hx hy hword (fun hmem => hfirst ?_) hstripped
      (Kind.lower_eq_name_iff.1 hright)
    exact List.mem_append_left v (List.mem_append_right u hmem)
  · rintro ⟨hu, hv, hx, hy, hword, hsign, hstripped, hname⟩
    rename_i u v x name y
    have hblank : isBlank '=' = false := by decide
    have hfirst : '=' ∉ u ++ word ++ v := by
      simp [hu.notMem hblank, hv.notMem hblank, hsign]
    refine ⟨u ++ word ++ v, x ++ name ++ y, Text.splitFirst_eq_some_iff.2 ⟨rfl, hfirst⟩, hword,
      hstripped.strip_append hu hv, ?_⟩
    rw [hname.isStripped.strip_append hx hy]
    exact Kind.lower_eq_name_iff.2 hname

end

/-- A text is read exactly when it is a definition of a word as a kind, and what is read are this
word and this kind; every other text is refused. A text is a definition of one word, as one kind. -/
theorem readSynonym_accepts_definitions (definition : Text) :
    (∀ word kind, readSynonym definition = .ok (word, kind) ↔ IsDefinition definition word kind) ∧
    ((∃ e, readSynonym definition = .error e) ↔
      ¬∃ word kind, IsDefinition definition word kind) ∧
    ∀ word kind word' kind', IsDefinition definition word kind →
      IsDefinition definition word' kind' → word = word' ∧ kind = kind' := by
  refine ⟨fun word kind => readSynonym_eq_ok_iff, ?_, fun word kind word' kind' h h' => ?_⟩
  · simp only [← readSynonym_eq_ok_iff]
    cases readSynonym definition with
    | error e => simp
    | ok pair =>
      obtain ⟨word, kind⟩ := pair
      simp
  · have hok := readSynonym_eq_ok_iff.2 h
    rw [readSynonym_eq_ok_iff.2 h'] at hok
    obtain ⟨hword, hkind⟩ := Prod.mk.inj (Except.ok.inj hok)
    exact ⟨hword.symm, hkind.symm⟩

/-- White space of any kind around the two parts is left out, and inside a word it is kept. Behind the
first `=` there is no place for another one. -/
theorem readSynonym_accepts_definitions_white_space :
    IsDefinition "\u3000see also\u00A0= eRRoR\n".toList "see also".toList .error ∧
      readSynonym "\u3000see also\u00A0= eRRoR\n".toList = .ok ("see also".toList, .error) ∧
      (¬∃ word kind, IsDefinition "\u3000see also\u00A0= eRRoR\n".toList word kind ∧
        (word, kind) ≠ ("see also".toList, .error)) ∧
      (¬∃ word kind, IsDefinition "note==error".toList word kind) ∧
      ∃ e, readSynonym "note==error".toList = .error e := by
  have hread : readSynonym "\u3000see also\u00A0= eRRoR\n".toList =
      .ok ("see also".toList, .error) := by decide +kernel
  have hrefused : ∃ e, readSynonym "note==error".toList = .error e :=
    ⟨.unknownKind "=error".toList "note==error".toList, by decide +kernel⟩
  obtain ⟨hok, -, hunique⟩ :=
    readSynonym_accepts_definitions "\u3000see also\u00A0= eRRoR\n".toList
  have hdefinition := (hok _ _).1 hread
  refine ⟨hdefinition, hread, ?_, ?_, hrefused⟩
  · rintro ⟨word, kind, hother, hne⟩
    obtain ⟨rfl, rfl⟩ := hunique _ _ _ _ hother hdefinition
    exact hne rfl
  · exact (readSynonym_accepts_definitions "note==error".toList).2.1.1 hrefused

end Diagnostics
