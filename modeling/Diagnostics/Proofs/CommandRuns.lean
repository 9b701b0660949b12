import Diagnostics.CommandLine.Basic
import Diagnostics.Proofs.Anchors
import Diagnostics.Proofs.Newlines

/-!
# Runs of the command write everything or nothing

What the options ask for is said here without a run: the template (`Options.UsesTemplate`), the
vocabulary (`Options.UsesVocabulary`) and the text that the records are sought in
(`Options.ReadsText`). The command selects just these (`selectTemplate_eq_ok_iff`,
`selectVocabulary_eq_ok_iff`, `Options.readsText_iff`), and refuses to select for the reasons that
`Fails` names, along with a pattern that is too large and, if the run is strict, a malformed match. So
a run fails and writes nothing, or it writes what the library makes of the same text
(`runOptions_cases`); both at once cannot be (`not_fails`). What is told to the user plays no part in
it (`runOptions_verbose`). `run_all_or_nothing` says all of this of the command with any frontend:
however the arguments are read, it is the options that they make that count.
-/

namespace Diagnostics

/-! ## Presets -/

namespace Preset

/-- No preset has the name, nor is it another name of one. -/
def IsUnknown (name : Text) : Prop :=
  ∀ preset : Preset, resolveName name ≠ preset.name

/-- Presets are named apart. -/
theorem name_inj {p q : Preset} : p.name = q.name ↔ p = q := by
  constructor
  · cases p <;> cases q <;> decide
  · rintro rfl
    rfl

/-- All presets are listed. -/
theorem mem_all (p : Preset) : p ∈ all := by
  cases p <;> decide

/-- A preset is found by its name. -/
theorem find_eq_ok_iff {name : Text} {p : Preset} :
    find name = .ok p ↔ resolveName name = p.name := by
  unfold find
  constructor
  · intro h
    split at h
    · rename_i q hfind
      obtain rfl := Except.ok.inj h
      have hq := List.find?_some hfind
      exact (of_decide_eq_true hq).symm
    · cases h
  · intro hname
    cases hfind : all.find? fun preset => preset.name = resolveName name with
    | none => exact absurd hname.symm (by simpa using List.find?_eq_none.1 hfind p p.mem_all)
    | some q =>
      have hq := List.find?_some hfind
      exact congrArg _ (name_inj.1 ((of_decide_eq_true hq).trans hname))

end Preset

/-! ## Vocabularies with definitions -/

namespace Vocabulary

/-- The standard vocabulary without further words is itself. -/
theorem extendWith_standard_nil : standard.extendWith [] = .ok standard := by
  decide +kernel

/-- The definitions are read one by one, and then their words are taken in. -/
theorem extendWith_eq_ok_iff {v vocabulary : Vocabulary} {definitions : List Text} :
    v.extendWith definitions = .ok vocabulary ↔ ∃ pairs,
      List.Forall₂ (fun definition pair => readSynonym definition = .ok pair) definitions pairs ∧
        v.extend (.ofList pairs) = .ok vocabulary := by
  unfold extendWith
  constructor
  · intro h
    obtain ⟨pairs, hpairs, hextend⟩ := exists_of_bind_eq_ok h
    exact ⟨pairs, mapM_eq_ok_iff.1 (mapError_eq_ok_iff.1 hpairs), mapError_eq_ok_iff.1 hextend⟩
  · rintro ⟨pairs, hpairs, hextend⟩
    rw [mapM_eq_ok_iff.2 hpairs]
    exact mapError_eq_ok_iff.2 hextend

/-- Definitions that are not taken in have one that cannot be read, or words that make no
vocabulary. -/
theorem exists_of_extendWith_eq_error {v : Vocabulary} {definitions : List Text} {e : Failure}
    (h : v.extendWith definitions = .error e) :
    (∃ definition ∈ definitions, ∃ e', readSynonym definition = .error e') ∨ ∃ pairs,
      List.Forall₂ (fun definition pair => readSynonym definition = .ok pair) definitions pairs ∧
        ∃ e', v.extend (.ofList pairs) = .error e' := by
  unfold extendWith at h
  cases hpairs : definitions.mapM readSynonym with
  | error e' =>
    obtain ⟨definition, hmem, hfail⟩ := exists_of_mapM_eq_error hpairs
    exact Or.inl ⟨definition, hmem, e', hfail⟩
  | ok pairs =>
    rw [hpairs] at h
    exact Or.inr ⟨pairs, mapM_eq_ok_iff.1 hpairs, exists_of_mapError_eq_error h⟩

end Vocabulary

namespace CommandLine

/-! ## What the options ask for -/

namespace Options

variable (o : Options) (setting : Option Text)

/-- The name of the preset that is asked for: that of the options, or else that of the environment.
An empty name is none. -/
def presetName? : Option Text :=
  if o.preset = [] then setting.filter (· ≠ []) else some o.preset

/-- The template that is used: the one that is given, or else that of the preset that is asked for,
or else the template of records. -/
inductive UsesTemplate : Text → Prop where
  /-- The template is given, and no preset. -/
  | given {template : Text} : o.template = some template → o.preset = [] → UsesTemplate template
  /-- A preset is asked for. -/
  | preset {name : Text} {p : Preset} : o.template = none → o.presetName? setting = some name →
    Preset.resolveName name = p.name → UsesTemplate p.template
  /-- Nothing is asked for. -/
  | default : o.template = none → o.presetName? setting = none →
    UsesTemplate Preset.passthrough.template

/-- The vocabulary that is used: the standard one with the words of the definitions. -/
def UsesVocabulary (vocabulary : Vocabulary) : Prop :=
  ∃ pairs, List.Forall₂ (fun definition pair => readSynonym definition = .ok pair) o.kinds pairs ∧
    Vocabulary.standard.extend (.ofList pairs) = .ok vocabulary

/-- The text that the records are sought in: the input with line feeds for all line endings, and
without escape codes unless they are kept. -/
def ReadsText (input text : Text) : Prop :=
  ∃ unified, input.UnifiesTo unified ∧
    text = if o.stripCodes then EscapeCode.strip unified else unified

end Options

/-- Why a run of the command fails. -/
inductive Fails (o : Options) (setting : Option Text) (input : Text) : Prop where
  /-- Both a template and a preset are given. -/
  | conflict : o.template.isSome → o.preset ≠ [] → Fails o setting input
  /-- No template is given, and the preset that is asked for is unknown. -/
  | unknownPreset {name : Text} : o.template = none → o.presetName? setting = some name →
    Preset.IsUnknown name → Fails o setting input
  /-- The definition of a kind word is refused. -/
  | refusedDefinition {definition : Text} {e : SynonymError} : definition ∈ o.kinds →
    readSynonym definition = .error e → Fails o setting input
  /-- The vocabulary with the words of the definitions is refused. -/
  | refusedVocabulary {pairs : List (Text × Kind)} {e : VocabularyError} :
    List.Forall₂ (fun definition pair => readSynonym definition = .ok pair) o.kinds pairs →
    Vocabulary.standard.extend (.ofList pairs) = .error e → Fails o setting input
  /-- The pattern of the template is too large. -/
  | patternTooLarge {template : Text} {vocabulary : Vocabulary} :
    o.UsesTemplate setting template → o.UsesVocabulary vocabulary →
    Pattern.maxSize < ((Template.ofText template).pattern vocabulary).size → Fails o setting input
  /-- The run is strict, and a match is malformed. -/
  | malformed {template text : Text} {vocabulary : Vocabulary} {x : Extractor}
    {e : ExtractionError} : o.strict = true → o.UsesTemplate setting template →
    o.UsesVocabulary vocabulary → o.ReadsText input text →
    Extractor.ofTemplate template o.file vocabulary = .ok x →
    .error e ∈ x.findings text → Fails o setting input

section

variable {o : Options} {setting : Option Text} {input template : Text} {vocabulary : Vocabulary}

/-! ## The selection -/

/-- The template of a preset that is found is that of the preset with the name. -/
theorem find_template_eq_ok_iff {name : Text} :
    ((Preset.find name).map Preset.template).mapError SelectionError.preset = .ok template ↔
      ∃ p : Preset, Preset.resolveName name = p.name ∧ p.template = template := by
  constructor
  · intro h
    cases hfind : Preset.find name with
    | error e =>
      rw [hfind] at h
      cases h
    | ok p =>
      rw [hfind] at h
      exact ⟨p, Preset.find_eq_ok_iff.1 hfind, Except.ok.inj h⟩
  · rintro ⟨p, hname, rfl⟩
    rw [Preset.find_eq_ok_iff.2 hname]
    rfl

/-- Without a template, that of the preset is selected, and without a preset the template of
records. -/
theorem selectTemplate_of_template_eq_none (h : o.template = none) :
    selectTemplate o setting = match o.presetName? setting with
      | none => .ok Preset.passthrough.template
      | some name => ((Preset.find name).map Preset.template).mapError .preset := by
  unfold selectTemplate Options.presetName?
  rw [h]
  dsimp only
  split
  · -- The options name no preset, so the environment may.
    rcases setting with _ | _ | ⟨c, name⟩
    · rfl
    · rfl
    · rfl
  · rfl

/-- The template that is selected is the one that is used. -/
theorem selectTemplate_eq_ok_iff :
    selectTemplate o setting = .ok template ↔ o.UsesTemplate setting template := by
  constructor
  · intro h
    cases htemplate : o.template with
    | some given =>
      unfold selectTemplate at h
      rw [htemplate] at h
      dsimp only at h
      split at h
      · rename_i hpreset
        obtain rfl := Except.ok.inj h
        exact .given htemplate hpreset
      · cases h
    | none =>
      rw [selectTemplate_of_template_eq_none htemplate] at h
      cases hname : o.presetName? setting with
      | none =>
        rw [hname] at h
        obtain rfl := Except.ok.inj h
        exact .default htemplate hname
      | some name =>
        rw [hname] at h
        obtain ⟨p, hp, rfl⟩ := find_template_eq_ok_iff.1 h
        exact .preset htemplate hname hp
  · intro h
    cases h with
    | given htemplate hpreset =>
      unfold selectTemplate
      rw [htemplate]
      exact if_pos hpreset
    | preset htemplate hname hp =>
      rw [selectTemplate_of_template_eq_none htemplate, hname]
      exact find_template_eq_ok_iff.2 ⟨_, hp, rfl⟩
    | default htemplate hname => rw [selectTemplate_of_template_eq_none htemplate, hname]

/-- Where no template can be selected, the run fails. -/
theorem fails_of_selectTemplate {e : SelectionError} (h : selectTemplate o setting = .error e) :
    Fails o setting input := by
  cases htemplate : o.template with
  | some given =>
    unfold selectTemplate at h
    rw [htemplate] at h
    dsimp only at h
    split at h
    · cases h
    · rename_i hpreset
      exact .conflict (by rw [htemplate]; rfl) hpreset
  | none =>
    rw [selectTemplate_of_template_eq_none htemplate] at h
    cases hname : o.presetName? setting with
    | none =>
      rw [hname] at h
      cases h
    | some name =>
      rw [hname] at h
      refine .unknownPreset htemplate hname fun p hp => ?_
      have hok := find_template_eq_ok_iff.2 ⟨p, hp, rfl⟩
      cases h.symm.trans hok

/-- The vocabulary that is selected is the one that is used. -/
theorem selectVocabulary_eq_ok_iff :
    selectVocabulary o = .ok vocabulary ↔ o.UsesVocabulary vocabulary := by
  unfold selectVocabulary
  split
  · rename_i hkinds
    rw [← Vocabulary.extendWith_standard_nil, ← List.isEmpty_iff.1 hkinds]
    exact Vocabulary.extendWith_eq_ok_iff
  · exact Vocabulary.extendWith_eq_ok_iff

/-- Where no vocabulary can be selected, the run fails. -/
theorem fails_of_selectVocabulary {e : Failure} (h : selectVocabulary o = .error e) :
    Fails o setting input := by
  unfold selectVocabulary at h
  split at h
  · cases h
  · rcases Vocabulary.exists_of_extendWith_eq_error h with
      ⟨definition, hmem, e', hfail⟩ | ⟨pairs, hpairs, e', hfail⟩
    · exact .refusedDefinition hmem hfail
    · exact .refusedVocabulary hpairs hfail

/-- The text that is read is the one that records are sought in. -/
theorem Options.readsText_iff {text : Text} : o.ReadsText input text ↔ o.text input = text := by
  unfold ReadsText Options.text
  constructor
  · rintro ⟨unified, hunified, rfl⟩
    rw [Text.unifiesTo_iff.1 hunified]
  · rintro rfl
    exact ⟨input.unifyNewlines, Text.unifiesTo_iff.2 rfl, rfl⟩

/-! ## Runs -/

variable {x : Extractor} {lines : List Text}

/-- Where the records are rendered, the run writes their lines. -/
theorem runWith_of_render_eq_ok (hx : Extractor.ofTemplate template o.file vocabulary = .ok x)
    (h : x.render o.strict (o.text input) = .ok lines) :
    (runWith o template vocabulary input).exitCode = 0 ∧
      (runWith o template vocabulary input).output = Text.terminateLines lines := by
  have hlines : (x.report o.strict (o.text input)).lines = .ok lines := by
    unfold Extractor.report
    rw [h]
    rfl
  unfold runWith
  rw [hx]
  dsimp only
  rw [hlines]
  exact ⟨rfl, rfl⟩

/-- Where they are not, the run fails and writes nothing. -/
theorem runWith_of_render_eq_error {e : ExtractionError}
    (hx : Extractor.ofTemplate template o.file vocabulary = .ok x)
    (h : x.render o.strict (o.text input) = .error e) :
    (runWith o template vocabulary input).exitCode = 1 ∧
      (runWith o template vocabulary input).output = [] := by
  have hlines : (x.report o.strict (o.text input)).lines = .error (.extraction e) := by
    unfold Extractor.report
    rw [h]
    rfl
  unfold runWith
  rw [hx]
  dsimp only
  rw [hlines]
  exact ⟨rfl, rfl⟩

/-- A run either fails, for one of the reasons, and writes nothing, or it writes the lines of the
records that an extractor of the template that is used renders. -/
theorem runOptions_cases (h : o.listPresets = false) :
    (Fails o setting input ∧ (runOptions o setting input).exitCode = 1 ∧
        (runOptions o setting input).output = []) ∨
      ∃ template vocabulary x lines, o.UsesTemplate setting template ∧
        o.UsesVocabulary vocabulary ∧ Extractor.ofTemplate template o.file vocabulary = .ok x ∧
        x.render o.strict (o.text input) = .ok lines ∧
        (runOptions o setting input).exitCode = 0 ∧
        (runOptions o setting input).output = Text.terminateLines lines := by
  unfold runOptions
  rw [h, if_neg Bool.false_ne_true]
  -- Stage by stage: either it fails and nothing has been written, or the next one is reached.
  cases htemplate : selectTemplate o setting with
  | error e => exact Or.inl ⟨fails_of_selectTemplate htemplate, rfl, rfl⟩
  | ok template =>
    have huses := selectTemplate_eq_ok_iff.1 htemplate
    cases hvocabulary : selectVocabulary o with
    | error e => exact Or.inl ⟨fails_of_selectVocabulary hvocabulary, rfl, rfl⟩
    | ok vocabulary =>
      have huses' := selectVocabulary_eq_ok_iff.1 hvocabulary
      cases hx : Extractor.ofTemplate template o.file vocabulary with
      | error e =>
        refine Or.inl ⟨.patternTooLarge huses huses' (Nat.lt_of_not_le fun hle => ?_), ?_⟩
        · obtain ⟨x, hok⟩ := Extractor.exists_ofTemplate_eq_ok hle o.file
          cases hx.symm.trans hok
        · dsimp only
          unfold runWith
          rw [hx]
          exact ⟨rfl, rfl⟩
      | ok x =>
        cases hlines : x.render o.strict (o.text input) with
        | error e =>
          obtain ⟨hstrict, e', hmem⟩ := Extractor.exists_render_eq_error_iff.1 ⟨e, hlines⟩
          exact Or.inl ⟨.malformed hstrict huses huses' (Options.readsText_iff.2 rfl) hx hmem,
            runWith_of_render_eq_error hx hlines⟩
        | ok lines =>
          exact Or.inr ⟨template, vocabulary, x, lines, huses, huses', hx, hlines,
            runWith_of_render_eq_ok hx hlines⟩

/-- A run that renders the records has no reason to fail. -/
theorem not_fails (huses : o.UsesTemplate setting template) (huses' : o.UsesVocabulary vocabulary)
    (hx : Extractor.ofTemplate template o.file vocabulary = .ok x)
    (hlines : x.render o.strict (o.text input) = .ok lines) : ¬Fails o setting input := by
  -- The template and the vocabulary are settled by the options.
  have htemplate := selectTemplate_eq_ok_iff.2 huses
  have hvocabulary := selectVocabulary_eq_ok_iff.2 huses'
  intro h
  cases h with
  | conflict hgiven hpreset =>
    cases huses with
    | given _ hnone => exact hpreset hnone
    | preset hnone _ _ | default hnone _ =>
      rw [hnone] at hgiven
      cases hgiven
  | unknownPreset hnone hname hunknown =>
    cases huses with
    | given hgiven _ => cases hnone.symm.trans hgiven
    | preset _ hname' hp =>
      obtain rfl := Option.some.inj (hname.symm.trans hname')
      exact hunknown _ hp
    | default _ hname' => cases hname.symm.trans hname'
  | refusedDefinition hmem hfail =>
    obtain ⟨pairs, hpairs, -⟩ := huses'
    obtain ⟨pair, hok⟩ := exists_of_mapM_eq_ok (mapM_eq_ok_iff.2 hpairs) hmem
    cases hfail.symm.trans hok
  | refusedVocabulary hpairs hfail =>
    obtain ⟨pairs, hpairs', hok⟩ := huses'
    obtain rfl := Except.ok.inj ((mapM_eq_ok_iff.2 hpairs).symm.trans (mapM_eq_ok_iff.2 hpairs'))
    cases hfail.symm.trans hok
  | patternTooLarge huses₁ huses₁' hlarge =>
    obtain rfl := Except.ok.inj (htemplate.symm.trans (selectTemplate_eq_ok_iff.2 huses₁))
    obtain rfl := Except.ok.inj (hvocabulary.symm.trans (selectVocabulary_eq_ok_iff.2 huses₁'))
    obtain ⟨htext, rfl, -⟩ := Extractor.eq_of_ofTemplate_eq_ok hx
    exact Nat.not_lt_of_le (htext ▸ x.size_pattern_le) hlarge
  | malformed hstrict huses₁ huses₁' hreads hx₁ hmem =>
    obtain rfl := Options.readsText_iff.1 hreads
    obtain rfl := Except.ok.inj (htemplate.symm.trans (selectTemplate_eq_ok_iff.2 huses₁))
    obtain rfl := Except.ok.inj (hvocabulary.symm.trans (selectVocabulary_eq_ok_iff.2 huses₁'))
    obtain rfl := Except.ok.inj (hx.symm.trans hx₁)
    obtain ⟨e, herror⟩ := Extractor.exists_render_eq_error_iff.2 ⟨hstrict, _, hmem⟩
    cases herror.symm.trans hlines

/-- Whether the user is told what is done plays no part in what a run comes to. -/
theorem runOptions_verbose (o : Options) (setting : Option Text) (input : Text) (verbose : Bool) :
    runOptions { o with verbose := verbose } setting input = runOptions o setting input := rfl

end

/-! ## The command -/

section

variable {f : Frontend} {args : List Text} {o : Options}

/-- What is written for arguments that make options is what a run with the options writes. -/
theorem Frontend.run_of_read (h : f.read args = .ok o) (setting : Option Text) (input : Text) :
    (f.run args setting input).code = (runOptions o setting input).exitCode ∧
      (f.run args setting input).output = (runOptions o setting input).output := by
  unfold run
  rw [h]
  exact ⟨rfl, rfl⟩

/-- Arguments that make the same options but for verbose mode come to the same. -/
theorem Frontend.run_congr_of_verbose {others : List Text} {verbose : Bool}
    (h : f.read args = .ok o) (hothers : f.read others = .ok { o with verbose := verbose })
    (setting : Option Text) (input : Text) :
    (f.run others setting input).code = (f.run args setting input).code ∧
      (f.run others setting input).output = (f.run args setting input).output := by
  obtain ⟨hcode, houtput⟩ := run_of_read h setting input
  obtain ⟨hcode', houtput'⟩ := run_of_read hothers setting input
  rw [hcode, hcode', houtput, houtput', runOptions_verbose]
  exact ⟨rfl, rfl⟩

end

/-- A run of the command writes everything or nothing, whoever reads its arguments and shows its
notices, if the arguments make options that do not list the presets. It fails, with nothing written,
exactly for one of these reasons: both a template and a preset are given; the preset that is asked
for is unknown; a definition of a kind word, or the vocabulary with these words, is refused; the
pattern is too large; the run is strict and a match is malformed, even if records come before it.
Otherwise it succeeds and writes the lines that come of normalizing the text, each with a line feed
behind it. Arguments that make the same options but for verbose mode come to the same exit code and
the same output. -/
theorem run_all_or_nothing (f : Frontend) (args : List Text) (setting : Option Text) (input : Text)
    (o : Options) (hargs : f.read args = .ok o) (hlist : o.listPresets = false) :
    ((f.run args setting input).code = 1 ∧ (f.run args setting input).output = [] ↔
        Fails o setting input) ∧
      (¬Fails o setting input → ∃ template vocabulary text lines,
        o.UsesTemplate setting template ∧ o.UsesVocabulary vocabulary ∧ o.ReadsText input text ∧
        (normalize text template o.file vocabulary o.strict).lines = .ok lines ∧
        (f.run args setting input).code = 0 ∧
        (f.run args setting input).output = lines.flatMap fun line => line ++ ['\n']) ∧
      ∀ others verbose, f.read others = .ok { o with verbose := verbose } →
        (f.run others setting input).code = (f.run args setting input).code ∧
          (f.run others setting input).output = (f.run args setting input).output := by
  have hverbose := fun others verbose hothers =>
    @Frontend.run_congr_of_verbose f args o others verbose hargs hothers setting input
  obtain ⟨hcode, houtput⟩ := Frontend.run_of_read hargs setting input
  rcases @runOptions_cases o setting input hlist with ⟨hfails, hcode', houtput'⟩ |
    ⟨template, vocabulary, x, lines, huses, huses', hx, hlines, hcode', houtput'⟩
  · refine ⟨iff_of_true ⟨?_, ?_⟩ hfails, fun hnot => absurd hfails hnot, hverbose⟩
    · rw [hcode, hcode']
    · rw [houtput, houtput']
  · have hnot := not_fails huses huses' hx hlines
    refine ⟨iff_of_false (fun h => ?_) hnot, fun _ => ?_, hverbose⟩
    · cases (hcode.trans hcode').symm.trans h.1
    · have hnormalize := (normalize_eq_of_ofTemplate hx (o.text input) o.strict).1
      rw [hlines] at hnormalize
      exact ⟨template, vocabulary, o.text input, lines, huses, huses', Options.readsText_iff.2 rfl,
        hnormalize, hcode.trans hcode', houtput.trans houtput'⟩

/-- Of the same input a strict run that meets the line zero writes nothing, not even the record before
it, and one that is not strict writes this record, although the input has other line endings and an
escape code; both with or without verbose mode. -/
theorem run_all_or_nothing_line_zero :
    let input := "a:1:2: \x1B[31merror: b\r\nc:0:1: error: d\r".toList
    (Frontend.plain.read ["--strict".toList] = .ok { strict := true } ∧
        Frontend.plain.read ["-v".toList, "--strict".toList] =
          .ok { strict := true, verbose := true } ∧
        Frontend.plain.read ["-v".toList] = .ok { verbose := true }) ∧
      (Frontend.plain.run ["--strict".toList] none input).code = 1 ∧
      (Frontend.plain.run ["--strict".toList] none input).output = [] ∧
      (Frontend.plain.run ["-v".toList, "--strict".toList] none input).code = 1 ∧
      (Frontend.plain.run ["-v".toList] none input).code = 0 ∧
      (Frontend.plain.run ["-v".toList] none input).output = "a:1:2: error: b\n".toList := by
  intro input
  have hstrict : Frontend.plain.read ["--strict".toList] = .ok { strict := true } := by
    decide +kernel
  have hstrict' : Frontend.plain.read ["-v".toList, "--strict".toList] =
      .ok { strict := true, verbose := true } := by decide +kernel
  have hlenient : Frontend.plain.read ["-v".toList] = .ok { verbose := true } := by decide +kernel
  have hmalformed : .error (.invalidNumber "line".toList ['0'] "c:0:1: error: d".toList) ∈
      Extractor.passthrough.findings (({ strict := true } : Options).text input) := by
    decide +kernel
  have hfails : Fails { strict := true } none input :=
    .malformed rfl (.default rfl rfl) ⟨[], .nil, by decide +kernel⟩ (Options.readsText_iff.2 rfl)
      Extractor.ofTemplate_passthrough hmalformed
  have hrender : Extractor.passthrough.render false (({ verbose := true } : Options).text input) =
      .ok ["a:1:2: error: b".toList] := by decide +kernel
  have hsucceeds : ¬Fails { verbose := true } none input :=
    not_fails (.default rfl rfl) ⟨[], .nil, by decide +kernel⟩ Extractor.ofTemplate_passthrough
      hrender
  obtain ⟨hiff, -, hverbose⟩ := run_all_or_nothing .plain _ none input _ hstrict rfl
  obtain ⟨-, hwritten, -⟩ := run_all_or_nothing .plain _ none input _ hlenient rfl
  obtain ⟨hcode, houtput⟩ := hiff.2 hfails
  obtain ⟨template, vocabulary, text, lines, huses, huses', hreads, hlines, hcode', houtput'⟩ :=
    hwritten hsucceeds
  -- The template, the vocabulary and the text are settled by the options.
  obtain rfl : Preset.passthrough.template = template :=
    Except.ok.inj (selectTemplate_eq_ok_iff.2 huses)
  obtain rfl : Vocabulary.standard = vocabulary :=
    Except.ok.inj (selectVocabulary_eq_ok_iff.2 huses')
  obtain rfl := Options.readsText_iff.1 hreads
  have hnormalize := (normalize_eq_of_ofTemplate Extractor.ofTemplate_passthrough
    (({ verbose := true } : Options).text input) false).1
  rw [hrender] at hnormalize
  obtain rfl := Except.ok.inj (hlines.symm.trans hnormalize)
  exact ⟨⟨hstrict, hstrict', hlenient⟩, hcode, houtput,
    (hverbose _ true hstrict').1.trans hcode, hcode', houtput'⟩

end CommandLine

end Diagnostics
