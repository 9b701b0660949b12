import Diagnostics.CommandLine.Options
import Diagnostics.EscapeCode
import Diagnostics.Normalize
import Diagnostics.Vocabulary.Plan

/-!
# The command line

The command reads the output of a tool from its input, and writes the records to its output and the
notices to its error output. It writes all records or, on a failure, none (`runOptions`). Two things
are left to a `Frontend`: to read the arguments, and to show the notices. `Frontend.run` is the whole
command as a function, with any frontend, and `run` is the one with the plain frontend.
-/

namespace Diagnostics.CommandLine

/-- What a run of the command comes to. -/
structure Result where
  /-- The exit code: 0 on success, 1 on a failure, 2 if the command line cannot be read. -/
  exitCode : Nat
  /-- What is written to the output. -/
  output : Text
  /-- The notices, in order. -/
  notices : List Notice
deriving DecidableEq, Repr

/-- Why the options do not tell which template to use. -/
inductive SelectionError where
  /-- Both a template and a preset are given. -/
  | both
  /-- No preset has the name. -/
  | preset (e : UnknownPreset)
deriving DecidableEq, Repr

/-- The text of the error. -/
def SelectionError.message : SelectionError → Text
  | both => "Options -e/--errfmt and -p/--preset are mutually exclusive".toList
  | preset e => e.message

/-- The template that the options choose, or else the environment. An empty template is a choice; an
empty name of a preset is none. -/
def selectTemplate (o : Options) (setting : Option Text) : Except SelectionError Text :=
  match o.template with
  | some template => if o.preset = [] then .ok template else .error .both
  | none =>
    if o.preset = [] then (Preset.defaultTemplate setting).mapError .preset
    else ((Preset.find o.preset).map Preset.template).mapError .preset

/-- The vocabulary with the words that the options define. -/
def selectVocabulary (o : Options) : Except Failure Vocabulary :=
  if o.kinds.isEmpty then .ok .standard else Vocabulary.standard.extendWith o.kinds

/-- A run that fails after some notices. -/
def fail (notices : List Notice) (message : Text) : Result where
  exitCode := 1
  output := []
  notices := notices ++ [.failure message]

/-- The text that the records are sought in: the input with one kind of line ending, and without
escape codes unless they are kept. -/
def Options.text (o : Options) (input : Text) : Text :=
  if o.stripCodes then EscapeCode.strip input.unifyNewlines else input.unifyNewlines

/-- Normalizes the input with a template and a vocabulary. -/
def runWith (o : Options) (template : Text) (vocabulary : Vocabulary) (input : Text) : Result :=
  -- The template is checked before the input is looked at.
  let notices := [.template template]
  match Extractor.ofTemplate template o.file vocabulary with
  | .error e => fail notices e.message
  | .ok x =>
    let report := x.report o.strict (o.text input)
    let notices := notices ++ x.notice :: report.notices
    match report.lines with
    | .error e => fail notices e.message
    | .ok lines => ⟨0, Text.terminateLines lines, notices ++ [.total lines.length]⟩

/-- Runs the command with its options, the preset that the environment names, and its input. -/
def runOptions (o : Options) (setting : Option Text) (input : Text) : Result :=
  if o.listPresets then ⟨0, Text.terminateLines Preset.listing, []⟩
  else match selectTemplate o setting with
    | .error e => fail [] e.message
    | .ok template =>
      match selectVocabulary o with
      | .error e => fail [] e.message
      | .ok vocabulary => runWith o template vocabulary input

/-- What a run of the command shows to the outside. -/
structure Exit where
  /-- The exit code. -/
  code : Nat
  /-- What is written to the output. -/
  output : Text
  /-- What is written to the error output. -/
  errorOutput : Text
deriving DecidableEq, Repr

/-- What the command leaves to others. -/
structure Frontend where
  /-- Reads the arguments: the options that they make, or else how the run ends without them, such as
  after a wrong use or a call for help. -/
  read : List Text → Except Exit Options
  /-- What the notices are shown on. -/
  console : Console

/-- Runs the command with its arguments, the preset that the environment names, and its input. -/
def Frontend.run (f : Frontend) (args : List Text) (setting : Option Text) (input : Text) : Exit :=
  match f.read args with
  | .error exit => exit
  | .ok o =>
    let result := runOptions o setting input
    { code := result.exitCode
      output := result.output
      errorOutput := f.console.transcript o.verbose result.notices }

/-- The options that the arguments make, if they can be read. -/
def readOptions (args : List Text) : Option Options :=
  (readSettings args).map Options.ofSettings

/-- The frontend that has the options of `readSettings` and no help, and shows all notices as they
are. -/
def Frontend.plain : Frontend where
  read := fun args =>
    match readOptions args with
    | none => .error { code := 2, output := [], errorOutput := [] }
    | some o => .ok o
  console := .plain

/-- Runs the command with the plain frontend. -/
def run (args : List Text) (setting : Option Text) (input : Text) : Exit :=
  Frontend.plain.run args setting input

end Diagnostics.CommandLine
