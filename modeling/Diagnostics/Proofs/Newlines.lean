import Mathlib.Data.List.Basic
import Diagnostics.Text.Basic

/-!
# Line endings

The lines of a text that comes in may end in three ways, and those of a text that is written end in
one. `Text.UnifiesTo` takes a text line by line and says what it comes to with line feeds only;
`Text.unifyNewlines` goes through the characters and comes to the same (`Text.unifiesTo_iff`). What
is written are the lines with a line feed between any two and one more behind the last, if there is a
line at all (`Text.terminateLines_eq`); so the line feeds are as many as the lines, if these have none
of their own (`Text.count_terminateLines`).
-/

namespace Diagnostics.Text

/-! ## Line endings that come in -/

/-- The ways to end a line. -/
def lineEndings : List Text :=
  [['\r', '\n'], ['\r'], ['\n']]

/-- The second text has the lines of the first one, and ends them with line feeds. -/
inductive UnifiesTo : Text → Text → Prop where
  /-- The last line has no ending. -/
  | last {line : Text} : '\r' ∉ line → '\n' ∉ line → UnifiesTo line line
  /-- Any other line has one. A line feed behind a carriage return belongs to it. -/
  | line {line ending rest rest' : Text} : '\r' ∉ line → '\n' ∉ line → ending ∈ lineEndings →
    (ending = ['\r'] → rest.head? ≠ some '\n') → UnifiesTo rest rest' →
    UnifiesTo (line ++ (ending ++ rest)) (line ++ '\n' :: rest')

variable {t u line : Text}

/-- A character that is no carriage return stays. -/
theorem unifyNewlines_cons {c : Char} (h : c ≠ '\r') (t : Text) :
    unifyNewlines (c :: t) = c :: unifyNewlines t := by
  rw [unifyNewlines] <;> simp [h]

/-- A line without its ending stays. -/
theorem unifyNewlines_append (h : '\r' ∉ line) (t : Text) :
    unifyNewlines (line ++ t) = line ++ unifyNewlines t := by
  induction line with
  | nil => rfl
  | cons c line ih =>
    obtain ⟨hc, hline⟩ := not_or.1 (mt List.mem_cons.2 h)
    rw [List.cons_append, unifyNewlines_cons (Ne.symm hc), ih hline, List.cons_append]

/-- A line ending becomes a line feed. -/
theorem unifyNewlines_lineEnding {ending : Text} (h : ending ∈ lineEndings)
    (hreturn : ending = ['\r'] → t.head? ≠ some '\n') :
    unifyNewlines (ending ++ t) = '\n' :: unifyNewlines t := by
  simp only [lineEndings, List.mem_cons, List.not_mem_nil, or_false] at h
  rcases h with rfl | rfl | rfl
  · rfl
  · cases t with
    | nil => rfl
    | cons c t =>
      have hc : c ≠ '\n' := by simpa using hreturn rfl
      rw [List.singleton_append, unifyNewlines]
      simpa using hc
  · exact unifyNewlines_cons (by decide) t

/-- A character in front of a text that ends no line is in front of its first line. -/
theorem UnifiesTo.cons {c : Char} (hreturn : c ≠ '\r') (hfeed : c ≠ '\n') (h : t.UnifiesTo u) :
    UnifiesTo (c :: t) (c :: u) := by
  have hcons : ∀ {d : Char} {line : Text}, c ≠ d → d ∉ line → d ∉ c :: line :=
    fun hd hline => not_or.2 ⟨hd.symm, hline⟩ ∘ List.mem_cons.1
  cases h with
  | last hline hline' => exact .last (hcons hreturn hline) (hcons hfeed hline')
  | line hline hline' hending hrest h =>
    exact .line (hcons hreturn hline) (hcons hfeed hline') hending hrest h

/-- Line by line and character by character the line endings are unified in one way. -/
theorem unifiesTo_iff : t.UnifiesTo u ↔ t.unifyNewlines = u := by
  constructor
  · intro h
    induction h with
    | last hline _ => simpa [unifyNewlines] using unifyNewlines_append hline []
    | line hline _ hending hreturn _ ih =>
      rw [unifyNewlines_append hline, unifyNewlines_lineEnding hending hreturn, ih]
  · rintro rfl
    have hnil : ∀ c : Char, c ∉ ([] : Text) := fun _ => List.not_mem_nil
    fun_induction unifyNewlines t with
    | case1 => exact .last (hnil _) (hnil _)
    | case2 rest ih =>
      exact @UnifiesTo.line [] ['\r', '\n'] _ _ (hnil _) (hnil _) (by decide) nofun ih
    | case3 rest hrest ih =>
      refine @UnifiesTo.line [] ['\r'] _ _ (hnil _) (hnil _) (by decide) (fun _ hhead => ?_) ih
      obtain ⟨rest', heq⟩ := List.head?_eq_some_iff.1 hhead
      exact hrest rest' heq
    | case4 c rest _ hc ih =>
      by_cases hfeed : c = '\n'
      · subst hfeed
        exact @UnifiesTo.line [] ['\n'] _ _ (hnil _) (hnil _) (by decide) nofun ih
      · exact ih.cons hc hfeed

/-! ## Lines that are written -/

/-- The lines are written with a line feed between any two, and one behind the last. -/
theorem terminateLines_eq (lines : List Text) : terminateLines lines =
    if lines = [] then [] else List.intercalate ['\n'] lines ++ ['\n'] := by
  induction lines with
  | nil => rfl
  | cons line lines ih =>
    have hcons : terminateLines (line :: lines) = line ++ ['\n'] ++ terminateLines lines := rfl
    rw [hcons, ih, if_neg (List.cons_ne_nil _ _)]
    cases lines with
    | nil => simp
    | cons next lines => simp

/-- Lines without line feeds end with one line feed each. -/
theorem count_terminateLines {lines : List Text} (h : ∀ line ∈ lines, '\n' ∉ line) :
    (terminateLines lines).count '\n' = lines.length := by
  induction lines with
  | nil => rfl
  | cons line lines ih =>
    obtain ⟨hline, hlines⟩ := List.forall_mem_cons.1 h
    have hcons : terminateLines (line :: lines) = (line ++ ['\n']) ++ terminateLines lines := rfl
    rw [hcons, List.count_append, List.count_append, List.count_eq_zero.2 hline, ih hlines,
      List.count_singleton_self, List.length_cons]
    omega

end Diagnostics.Text
