import Mathlib.Data.List.Chain
import Diagnostics.Template.Raw

/-!
# The grammar of raw tokens

`rawTokens` cuts a template at once into stretches. Here the same cut is described twice more. As a
grammar, `IsTokenization` says which lists of texts are the raw tokens of a template: each is a raw
token by itself (`IsRawToken`), and any two neighbours may stand side by side (`MayPrecede`). As a
scan, `pushChar` takes in one character and looks at nothing but the last raw token so far.

Every step of the scan keeps the grammar (`IsTokenization.pushChar`), so each template has a
tokenization. By induction on the raw tokens, a tokenization is what `rawTokens` gives
(`IsTokenization.eq_rawTokens`), so it has only one. The three descriptions agree
(`foldl_pushChar_eq`, `isTokenization_iff_eq_rawTokens`).
-/

namespace Diagnostics

/-! ## The grammar -/

/-- The text is a raw token by itself; so it is not empty. -/
inductive IsRawToken : Text → Prop where
  /-- A percent sign and a selector. -/
  | placeholder {selector : Char} : selector ∈ selectors → IsRawToken ['%', selector]
  /-- A percent sign, a character that is no selector, and text without a percent sign. -/
  | unknown {c : Char} {rest : Text} : c ∉ selectors → '%' ∉ rest → IsRawToken ('%' :: c :: rest)
  /-- A percent sign alone. -/
  | lone : IsRawToken ['%']
  /-- Text without a percent sign. -/
  | plain {c : Char} {rest : Text} : '%' ∉ c :: rest → IsRawToken (c :: rest)

/-- The raw token may stand right before the other one: it is not a percent sign alone, and if it is
no placeholder, then the other one begins with a percent sign. -/
def MayPrecede (raw next : Text) : Prop :=
  raw ≠ ['%'] ∧ (isPlaceholder raw = false → next.head? = some '%')

/-- The list makes up the template out of raw tokens, which may stand side by side as they do. -/
structure IsTokenization (t : Text) (raws : List Text) : Prop where
  /-- The parts make up the template. -/
  flatten_eq : raws.flatten = t
  /-- Each part is a raw token. -/
  isRawToken : ∀ raw ∈ raws, IsRawToken raw
  /-- Each part may stand right before the next one. -/
  isChain : raws.IsChain MayPrecede

/-- A percent sign and a selector are a placeholder. -/
theorem isPlaceholder_pair (c : Char) : isPlaceholder ['%', c] = decide (c ∈ selectors) := rfl

/-- A placeholder is a percent sign and a selector. -/
theorem exists_selector_of_isPlaceholder {raw : Text} (h : isPlaceholder raw = true) :
    ∃ selector ∈ selectors, raw = ['%', selector] := by
  unfold isPlaceholder at h
  split at h
  · exact ⟨_, of_decide_eq_true h, rfl⟩
  · simp at h

/-- A raw token has a first character. -/
theorem IsRawToken.exists_eq_cons {raw : Text} (h : IsRawToken raw) : ∃ c rest, raw = c :: rest := by
  cases h <;> exact ⟨_, _, rfl⟩

/-! ## The scan -/

/-- Whether a character begins a new raw token. After the last one so far it does if it is a percent
sign, unless it doubles a percent sign that stands alone; any other character does after a
placeholder. -/
def beginsRawToken (last : Option Text) (c : Char) : Bool :=
  match last with
  | none => true
  | some last => if c = '%' then last ≠ ['%'] else isPlaceholder last

/-- The raw tokens so far, with one more character. -/
def pushChar (raws : List Text) (c : Char) : List Text :=
  if beginsRawToken raws.getLast? c then raws ++ [[c]]
  else raws.dropLast ++ [raws.getLast?.getD [] ++ [c]]

/-- After some raw tokens a character begins a new one or is added to the last one. -/
theorem pushChar_concat (raws : List Text) (last : Text) (c : Char) :
    pushChar (raws ++ [last]) c =
      if beginsRawToken (some last) c then raws ++ [last] ++ [[c]] else raws ++ [last ++ [c]] := by
  unfold pushChar
  rw [List.getLast?_concat, List.dropLast_concat]
  rfl

/-- A character is a raw token by itself. -/
theorem isRawToken_singleton (c : Char) : IsRawToken [c] := by
  rcases eq_or_ne c '%' with rfl | hc
  · exact .lone
  · exact .plain (by simpa using hc.symm)

/-- Where a character begins a new raw token, this may follow the last one. -/
theorem mayPrecede_singleton {last : Text} {c : Char} (h : beginsRawToken (some last) c = true) :
    MayPrecede last [c] := by
  rw [beginsRawToken] at h
  split at h
  · rename_i hc
    exact ⟨of_decide_eq_true h, fun _ => congrArg some hc⟩
  · obtain ⟨selector, -, rfl⟩ := exists_selector_of_isPlaceholder h
    exact ⟨by simp, fun hno => absurd h (by simp [hno])⟩

/-- Where a character begins no new raw token, it makes a raw token of the last one. -/
theorem IsRawToken.concat {last : Text} {c : Char} (hlast : IsRawToken last)
    (h : beginsRawToken (some last) c = false) : IsRawToken (last ++ [c]) := by
  rw [beginsRawToken] at h
  split at h
  · -- A percent sign only goes on with a percent sign that stands alone.
    rename_i hc
    obtain rfl : last = ['%'] := by simpa using h
    exact .placeholder (by rw [hc]; decide)
  · rename_i hc
    have hmem : ∀ {rest : Text}, '%' ∉ rest → '%' ∉ rest ++ [c] := by
      intro rest hrest
      simpa [hrest] using Ne.symm hc
    cases hlast with
    | placeholder hselector => simp [isPlaceholder_pair, hselector] at h
    | unknown hselector hrest => exact .unknown hselector (hmem hrest)
    | lone =>
      rcases Decidable.em (c ∈ selectors) with hselector | hselector
      · exact .placeholder hselector
      · exact .unknown hselector List.not_mem_nil
    | plain hplain => exact .plain (hmem hplain)

/-- One more character keeps the raw tokens a tokenization. -/
theorem IsTokenization.pushChar {t : Text} {raws : List Text} (h : IsTokenization t raws)
    (c : Char) : IsTokenization (t ++ [c]) (pushChar raws c) := by
  obtain ⟨rfl, hraws, hchain⟩ := h
  rcases List.eq_nil_or_concat raws with rfl | ⟨before, last, rfl⟩
  · exact ⟨rfl, by simpa [Diagnostics.pushChar, beginsRawToken] using isRawToken_singleton c,
      List.isChain_singleton _⟩
  · rw [List.concat_eq_append] at hraws hchain ⊢
    have hlast : IsRawToken last := hraws last (by simp)
    obtain ⟨hbefore, -, hneighbours⟩ := List.isChain_append.1 hchain
    rw [pushChar_concat]
    split
    · rename_i hbegins
      refine ⟨by simp, ?_, ?_⟩
      · intro raw hraw
        rcases List.mem_append.1 hraw with hraw | hraw
        · exact hraws raw hraw
        · exact List.mem_singleton.1 hraw ▸ isRawToken_singleton c
      · refine List.isChain_append.2 ⟨hchain, List.isChain_singleton _, ?_⟩
        simpa using mayPrecede_singleton hbegins
    · rename_i hbegins
      refine ⟨by simp, ?_, ?_⟩
      · intro raw hraw
        rcases List.mem_append.1 hraw with hraw | hraw
        · exact hraws raw (List.mem_append_left _ hraw)
        · exact List.mem_singleton.1 hraw ▸ hlast.concat (by simpa using hbegins)
      · -- The last raw token begins as before, which is all that its neighbour needs.
        obtain ⟨d, rest, rfl⟩ := hlast.exists_eq_cons
        refine List.isChain_append.2 ⟨hbefore, List.isChain_singleton _, ?_⟩
        simpa [MayPrecede] using hneighbours

/-- The scan of a template gives a tokenization of it. -/
theorem isTokenization_foldl_pushChar (t : Text) : IsTokenization t (t.foldl pushChar []) := by
  induction t using List.reverseRecOn with
  | nil => exact ⟨rfl, by simp, List.isChain_nil⟩
  | append_singleton t c ih =>
    rw [List.foldl_append]
    exact ih.pushChar c

/-! ## Only one tokenization -/

/-- A stretch without percent signs ends where a percent sign or nothing follows. -/
theorem span_ne_percent {stretch after : Text} (hstretch : '%' ∉ stretch)
    (hafter : ∀ d ∈ after.head?, d = '%') :
    (stretch ++ after).takeWhile (· ≠ '%') = stretch ∧
      (stretch ++ after).dropWhile (· ≠ '%') = after := by
  have hall : ∀ d ∈ stretch, decide (d ≠ '%') = true := fun d hd =>
    decide_eq_true fun h => hstretch (h ▸ hd)
  rw [List.takeWhile_append_of_pos hall, List.dropWhile_append_of_pos hall]
  cases after with
  | nil => simp
  | cons d after =>
    obtain rfl : d = '%' := hafter d rfl
    simp

/-- A raw token is the first one of a template that begins with it, if what follows may follow it. -/
theorem firstRawToken_of_isRawToken {c : Char} {rest after : Text} (h : IsRawToken (c :: rest))
    (hafter : ∀ d ∈ after.head?, MayPrecede (c :: rest) [d]) :
    firstRawToken c (rest ++ after) = (c :: rest, after) := by
  have hpercent : isPlaceholder (c :: rest) = false → ∀ d ∈ after.head?, d = '%' :=
    fun hno d hd => Option.some.inj ((hafter d hd).2 hno)
  cases h with
  | placeholder hselector => simp [firstRawToken, hselector]
  | @unknown d stretch hselector hstretch =>
    have hno : isPlaceholder ('%' :: d :: stretch) = false := by
      unfold isPlaceholder
      split
      · rename_i selector heq
        obtain ⟨rfl, -⟩ := List.cons.inj (List.cons.inj heq).2
        exact decide_eq_false hselector
      · rfl
    obtain ⟨htake, hdrop⟩ := span_ne_percent hstretch (hpercent hno)
    rw [List.cons_append, firstRawToken, if_neg hselector, htake, hdrop]
  | lone =>
    cases after with
    | nil => rfl
    | cons d after => exact absurd rfl (hafter d rfl).1
  | plain hplain =>
    obtain ⟨hc, hstretch⟩ := not_or.1 (mt List.mem_cons.2 hplain)
    have hno : isPlaceholder (c :: rest) = false := by
      unfold isPlaceholder
      split
      · rename_i heq
        exact absurd (List.cons.inj heq).1.symm hc
      · rfl
    obtain ⟨htake, hdrop⟩ := span_ne_percent hstretch (hpercent hno)
    unfold firstRawToken
    split
    · exact absurd rfl hc
    · exact absurd rfl hc
    · rw [htake, hdrop]

/-- A tokenization of a template is what `rawTokens` gives. -/
theorem IsTokenization.eq_rawTokens {t : Text} {raws : List Text} (h : IsTokenization t raws) :
    raws = rawTokens t := by
  obtain ⟨rfl, hraws, hchain⟩ := h
  induction raws with
  | nil => rw [List.flatten_nil, rawTokens]
  | cons raw raws ih =>
    obtain ⟨hraw, hothers⟩ := List.forall_mem_cons.1 hraws
    obtain ⟨hneighbour, hrest⟩ := List.isChain_cons.1 hchain
    obtain ⟨c, rest, rfl⟩ := hraw.exists_eq_cons
    -- What follows begins as the next raw token does.
    have hafter : ∀ d ∈ raws.flatten.head?, MayPrecede (c :: rest) [d] := by
      intro d hd
      cases raws with
      | nil => simp at hd
      | cons next raws =>
        obtain ⟨d', rest', rfl⟩ := (hothers next List.mem_cons_self).exists_eq_cons
        obtain rfl : d' = d := Option.some.inj hd
        have hnext : MayPrecede (c :: rest) (d' :: rest') := hneighbour _ rfl
        exact hnext
    have hfirst := firstRawToken_of_isRawToken hraw hafter
    rw [List.flatten_cons, List.cons_append, rawTokens, hfirst, ← ih hothers hrest]

/-- The scan gives the raw tokens. -/
theorem foldl_pushChar_eq (t : Text) : t.foldl pushChar [] = rawTokens t :=
  (isTokenization_foldl_pushChar t).eq_rawTokens

/-- The raw tokens of a template are a tokenization of it. -/
theorem isTokenization_rawTokens (t : Text) : IsTokenization t (rawTokens t) := by
  rw [← foldl_pushChar_eq]
  exact isTokenization_foldl_pushChar t

/-- The raw tokens of a template are the only list of texts that makes up the template as the grammar
says: each is a placeholder, text without a percent sign, a percent sign with a character that is no
selector and text without a percent sign, or a percent sign alone, which then is the last; and
after one that is no placeholder the next one begins with a percent sign. -/
theorem isTokenization_iff_eq_rawTokens (t : Text) (raws : List Text) :
    IsTokenization t raws ↔ raws = rawTokens t := by
  constructor
  · exact IsTokenization.eq_rawTokens
  · rintro rfl
    exact isTokenization_rawTokens t

/-- Of three percent signs the first two are a placeholder; at the end one stands alone. -/
example : rawTokens "%f: %%%q%".toList =
    ["%f".toList, ": ".toList, "%%".toList, "%q".toList, "%".toList] := by
  decide +kernel

end Diagnostics
