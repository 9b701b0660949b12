import Diagnostics.Proofs.Occurrences
import Diagnostics.Proofs.Tokenization
import Diagnostics.Template.Basic

/-!
# Templates that are rendered and read again

A rendered template is the text that was read with each doubled percent sign as a single one
(`Template.render_ofText`), since a raw token is written as it was read, the doubled percent sign
apart. When the rendering is read again, a percent sign that was doubled takes in what follows it. So
the tokens are the same only if nothing follows it (`Template.ofText_render_ofText_eq_iff`). In one
direction the raw tokens, rendered one by one, are again a tokenization. In the other direction equal
tokens leave nothing doubled in the rendering, whose raw tokens are then these rendered ones; and of
raw tokens side by side only the last may be a percent sign alone.
-/

namespace Diagnostics

/-! ## One raw token -/

/-- A placeholder is written as the raw token that it was read from. -/
theorem Placeholder.render_of_ofRaw?_eq_some {raw : Text} {p : Placeholder}
    (h : ofRaw? raw = some p) : p.render = raw := by
  have hrender := List.find?_some h
  exact of_decide_eq_true hrender

namespace Token

/-- A raw token is written as it was read, but for the doubled percent sign. -/
theorem render_ofRaw (raw : Text) :
    (ofRaw raw).render = if raw = ['%', '%'] then ['%'] else raw := by
  unfold ofRaw
  split
  · rename_i hdouble
    exact (if_pos hdouble).symm
  · rename_i hdouble
    rw [if_neg (show ¬raw = ['%', '%'] from hdouble)]
    split
    · rename_i p hp
      exact Placeholder.render_of_ofRaw?_eq_some hp
    · rfl

/-- A raw token other than the doubled percent sign is written as it was read. -/
theorem render_ofRaw_of_ne {raw : Text} (h : raw ≠ ['%', '%']) : (ofRaw raw).render = raw := by
  rw [render_ofRaw, if_neg h]

/-- The rendering of a raw token is a raw token of the same token. -/
theorem ofRaw_render_ofRaw (raw : Text) : ofRaw (ofRaw raw).render = ofRaw raw := by
  by_cases h : raw = ['%', '%']
  · subst h
    decide
  · rw [render_ofRaw_of_ne h]

/-- The rendering of a raw token begins as the raw token does. -/
theorem head?_render_ofRaw (raw : Text) : (ofRaw raw).render.head? = raw.head? := by
  by_cases h : raw = ['%', '%']
  · subst h
    rfl
  · rw [render_ofRaw_of_ne h]

end Token

/-- The rendering of a raw token is a raw token. -/
theorem IsRawToken.render_ofRaw {raw : Text} (h : IsRawToken raw) :
    IsRawToken (Token.ofRaw raw).render := by
  by_cases hdouble : raw = ['%', '%']
  · subst hdouble
    exact .lone
  · rwa [Token.render_ofRaw_of_ne hdouble]

/-! ## Rendering -/

/-- The raw tokens, rendered one by one. -/
def renderRaws (raws : List Text) : List Text :=
  raws.map fun raw => (Token.ofRaw raw).render

/-- A rendered template is made of its rendered raw tokens. -/
theorem Template.render_ofText_eq_flatten (t : Text) :
    (ofText t).render = (renderRaws (rawTokens t)).flatten := by
  rw [render, ofText, List.flatMap_map, renderRaws, List.flatMap_def]

/-- The text with each doubled percent sign, from left to right, as a single one. -/
def Text.unescapePercents (t : Text) : Text :=
  replaceAll ['%', '%'] (by decide) ['%'] t

/-- A stretch without percent signs stays as it is. -/
theorem Text.unescapePercents_append {stretch : Text} (h : '%' ∉ stretch) (rest : Text) :
    unescapePercents (stretch ++ rest) = stretch ++ unescapePercents rest :=
  replaceAll_append_of_notMem h rest

/-- A percent sign that is not doubled stays as it is. -/
theorem Text.unescapePercents_percent_append {c : Char} {stretch : Text} (h : '%' ∉ c :: stretch)
    (rest : Text) : unescapePercents ('%' :: c :: stretch ++ rest) =
      '%' :: c :: stretch ++ unescapePercents rest := by
  have hsingle : ¬['%', '%'] <+: '%' :: c :: (stretch ++ rest) := by
    intro hstart
    have hc := (List.cons_prefix_cons.1 (List.cons_prefix_cons.1 hstart).2).1
    exact h (hc ▸ List.mem_cons_self)
  exact (replaceAll_cons hsingle).trans (congrArg (List.cons '%') (unescapePercents_append h rest))

/-- A raw token with a doubled percent sign as a single one is the rendered raw token, if a percent
sign alone is the last raw token. -/
theorem IsRawToken.unescapePercents_append {raw rest : Text} (h : IsRawToken raw)
    (hlone : raw = ['%'] → rest = []) :
    Text.unescapePercents (raw ++ rest) =
      (Token.ofRaw raw).render ++ Text.unescapePercents rest := by
  by_cases hdouble : raw = ['%', '%']
  · subst hdouble
    exact Text.replaceAll_append rest
  rw [Token.render_ofRaw_of_ne hdouble]
  cases h with
  | @placeholder selector hselector =>
    have hne : '%' ≠ selector := fun heq => hdouble (by rw [← heq])
    exact Text.unescapePercents_percent_append (by simpa using hne) rest
  | @unknown c stretch hc hstretch =>
    have hne : '%' ≠ c := fun heq => hc (heq ▸ by decide)
    exact Text.unescapePercents_percent_append (by simpa using ⟨hne, hstretch⟩) rest
  | lone =>
    rw [hlone rfl]
    decide +kernel
  | plain hplain => exact Text.unescapePercents_append hplain rest

/-- A rendered template is the text that was read with every doubled percent sign as a single one. -/
theorem Template.render_ofText (t : Text) :
    (ofText t).render = Text.unescapePercents t := by
  obtain ⟨hflatten, hraws, hchain⟩ := isTokenization_rawTokens t
  rw [render_ofText_eq_flatten]
  conv_rhs => rw [← hflatten]
  clear hflatten
  generalize rawTokens t = raws at hraws hchain
  induction raws with
  | nil => exact Text.replaceAll_nil.symm
  | cons raw raws ih =>
    obtain ⟨hraw, hothers⟩ := List.forall_mem_cons.1 hraws
    obtain ⟨hnext, hrest⟩ := List.isChain_cons.1 hchain
    have hlone : raw = ['%'] → raws.flatten = [] := by
      rintro rfl
      cases raws with
      | nil => rfl
      | cons next raws => exact absurd rfl (hnext next rfl).1
    rw [List.flatten_cons, hraw.unescapePercents_append hlone, ← ih hothers hrest]
    rfl

/-! ## Reading again -/

/-- Of raw tokens side by side only the last may be a percent sign alone. -/
theorem lone_notMem_dropLast {raws : List Text} (h : raws.IsChain MayPrecede) :
    ['%'] ∉ raws.dropLast := by
  induction raws with
  | nil => exact List.not_mem_nil
  | cons raw raws ih =>
    cases raws with
    | nil => exact List.not_mem_nil
    | cons next raws =>
      obtain ⟨hnext, hrest⟩ := List.isChain_cons_cons.1 h
      rw [List.dropLast_cons_cons, List.mem_cons, not_or]
      exact ⟨hnext.1.symm, ih hrest⟩

/-- Raw tokens side by side may stay so when they are rendered, if no doubled percent sign stands
before another one. -/
theorem isChain_renderRaws {raws : List Text} (h : raws.IsChain MayPrecede)
    (hdouble : ['%', '%'] ∉ raws.dropLast) : (renderRaws raws).IsChain MayPrecede := by
  induction raws with
  | nil => exact List.isChain_nil
  | cons raw raws ih =>
    cases raws with
    | nil => exact List.isChain_singleton _
    | cons next raws =>
      obtain ⟨hnext, hrest⟩ := List.isChain_cons_cons.1 h
      rw [List.dropLast_cons_cons, List.mem_cons, not_or] at hdouble
      refine List.isChain_cons_cons.2 ⟨?_, ih hrest hdouble.2⟩
      show MayPrecede (Token.ofRaw raw).render (Token.ofRaw next).render
      rw [MayPrecede, Token.render_ofRaw_of_ne (Ne.symm hdouble.1), Token.head?_render_ofRaw]
      exact hnext

/-- If no doubled percent sign stands before another raw token, the rendered raw tokens are those of
the rendering. -/
theorem rawTokens_render_ofText {t : Text} (h : ['%', '%'] ∉ (rawTokens t).dropLast) :
    rawTokens (Template.ofText t).render = renderRaws (rawTokens t) := by
  obtain ⟨-, hraws, hchain⟩ := isTokenization_rawTokens t
  refine (IsTokenization.eq_rawTokens ⟨(Template.render_ofText_eq_flatten t).symm, ?_, ?_⟩).symm
  · intro raw hraw
    obtain ⟨raw, hmem, rfl⟩ := List.mem_map.1 hraw
    exact (hraws raw hmem).render_ofRaw
  · exact isChain_renderRaws hchain h

/-- Rendered raw tokens lose one character for each doubled percent sign. -/
theorem length_flatten_renderRaws (raws : List Text) :
    (renderRaws raws).flatten.length + raws.count ['%', '%'] = raws.flatten.length := by
  induction raws with
  | nil => rfl
  | cons raw raws ih =>
    rw [show renderRaws (raw :: raws) = (Token.ofRaw raw).render :: renderRaws raws from rfl]
    rw [List.flatten_cons, List.flatten_cons, List.length_append, List.length_append,
      List.count_cons, ← ih, Token.render_ofRaw]
    by_cases h : raw = ['%', '%']
    · simp [h]
      omega
    · simp [h]
      omega

/-- A template that is rendered as it was read has no doubled percent sign. -/
theorem double_notMem_rawTokens {t : Text} (h : (Template.ofText t).render = t) :
    ['%', '%'] ∉ rawTokens t := by
  have hlength := length_flatten_renderRaws (rawTokens t)
  rw [← Template.render_ofText_eq_flatten, h, flatten_rawTokens] at hlength
  exact List.count_eq_zero.1 (by omega)

/-- Without a doubled percent sign raw tokens are rendered as they are. -/
theorem renderRaws_eq_self {raws : List Text} (h : ['%', '%'] ∉ raws) : renderRaws raws = raws := by
  have hself : ∀ raw ∈ raws, (Token.ofRaw raw).render = id raw := fun raw hraw =>
    Token.render_ofRaw_of_ne fun hdouble => h (hdouble ▸ hraw)
  rw [renderRaws, List.map_congr_left hself, List.map_id]

/-- The rendered raw tokens of a template are its rendered tokens. -/
theorem renderRaws_rawTokens (t : Text) :
    renderRaws (rawTokens t) = (Template.ofText t).tokens.map Token.render := by
  rw [Template.ofText, List.map_map]
  rfl

/-- A template text is rendered as it was read, with every doubled percent sign as a single one, the
leftmost ones that do not overlap. When the rendering is read again, the tokens are the same exactly
if no raw token but the last is a doubled percent sign. -/
theorem Template.ofText_render_ofText_eq_iff (t : Text) :
    (ofText t).render = Text.unescapePercents t ∧
      (ofText (ofText t).render = ofText t ↔ ['%', '%'] ∉ (rawTokens t).dropLast) := by
  refine ⟨render_ofText t, fun heq hmem => ?_, fun hdouble => ?_⟩
  · -- Nothing is doubled in the rendering, so its raw tokens are the rendered ones.
    have hundoubled : ['%', '%'] ∉ rawTokens (ofText t).render :=
      double_notMem_rawTokens (congrArg render heq)
    have hraws : rawTokens (ofText t).render = renderRaws (rawTokens t) := by
      calc rawTokens (ofText t).render = renderRaws (rawTokens (ofText t).render) :=
            (renderRaws_eq_self hundoubled).symm
        _ = renderRaws (rawTokens t) := by
            rw [renderRaws_rawTokens, renderRaws_rawTokens, heq]
    have hlone : ['%'] ∉ (rawTokens (ofText t).render).dropLast :=
      lone_notMem_dropLast (isTokenization_rawTokens _).isChain
    rw [hraws, renderRaws, ← List.map_dropLast] at hlone
    exact hlone (List.mem_map.2 ⟨_, hmem, rfl⟩)
  · rw [ofText, rawTokens_render_ofText hdouble, renderRaws, List.map_map, ofText]
    exact congrArg mk (List.map_congr_left fun raw _ => Token.ofRaw_render_ofRaw raw)

/-- A percent sign that was doubled takes in what follows it. -/
example : (Template.ofText "%%f".toList).render = "%f".toList ∧
    (Template.ofText "%f".toList).tokens = [.placeholder .file] := by
  decide +kernel

end Diagnostics
