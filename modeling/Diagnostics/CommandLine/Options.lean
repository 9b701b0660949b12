import Diagnostics.Text.Basic

/-!
# Options of the command line

`Options` are what a run of the command depends on. How arguments make options is up to who reads
them, and this is one plain way, which has no help to offer.

An option is given by its long name, with the value after an equals sign or in the next argument, or
by its letter; letters of several options may share one argument, and what follows the letter of an
option with a value is the value. `readSettings` reads the arguments into settings in their order,
and `Options.ofSettings` applies them, so that the last setting counts; only kind words add up.
There are no arguments other than options.
-/

namespace Diagnostics.CommandLine

/-- The setting of one option. -/
inductive Setting where
  /-- The template. -/
  | template (value : Text)
  /-- The name of a preset. -/
  | preset (value : Text)
  /-- The file of every record. -/
  | file (value : Text)
  /-- The definition of a kind word. -/
  | kind (value : Text)
  /-- Fail at the first malformed match. -/
  | strict
  /-- Remove escape codes, or keep them. -/
  | stripCodes (value : Bool)
  /-- List the presets and do nothing else. -/
  | listPresets
  /-- Tell what is done. -/
  | verbose
deriving DecidableEq, Repr

/-- What a name on the command line stands for. -/
inductive OptionName where
  /-- A setting as such. -/
  | flag (setting : Setting)
  /-- A setting that needs a value. -/
  | valued (setting : Text → Setting)

/-- The option with a long name. -/
def longName? (name : Text) : Option OptionName :=
  [("--errfmt".toList, OptionName.valued .template),
   ("--preset".toList, .valued .preset),
   ("--file".toList, .valued .file),
   ("--kind".toList, .valued .kind),
   ("--strict".toList, .flag .strict),
   ("--strip-ansi".toList, .flag (.stripCodes true)),
   ("--keep-ansi".toList, .flag (.stripCodes false)),
   ("--list-presets".toList, .flag .listPresets),
   ("--verbose".toList, .flag .verbose)].lookup name

/-- The option with a letter. -/
def letter? : Char → Option OptionName
  | 'e' => some (.valued .template)
  | 'p' => some (.valued .preset)
  | 'f' => some (.valued .file)
  | 'k' => some (.valued .kind)
  | 'v' => some (.flag .verbose)
  | _ => none

/-- What one argument says. -/
inductive Argument where
  /-- Settings that need nothing more. -/
  | complete (settings : List Setting)
  /-- Settings, and one more whose value is the next argument. -/
  | awaiting (settings : List Setting) (last : Text → Setting)
  /-- The end of the options. -/
  | endOfOptions

/-- Reads the letters of an argument. -/
def readLetters : Text → Option Argument
  | [] => some (.complete [])
  | c :: rest =>
    match letter? c with
    | none => none
    | some (.valued setting) =>
      if rest = [] then some (.awaiting [] setting) else some (.complete [setting rest])
    | some (.flag setting) =>
      match readLetters rest with
      | some (.complete settings) => some (.complete (setting :: settings))
      | some (.awaiting settings last) => some (.awaiting (setting :: settings) last)
      | _ => none

/-- Reads an argument, if it is an option that is known and rightly used. -/
def readArgument (arg : Text) : Option Argument :=
  let (name, value?) := match arg.splitFirst '=' with
    | some (name, value) => (name, some value)
    | none => (arg, none)
  match longName? name, value?, arg with
  | some (.valued setting), some value, _ => some (.complete [setting value])
  | some (.valued setting), none, _ => some (.awaiting [] setting)
  | some (.flag setting), none, _ => some (.complete [setting])
  | some (.flag _), some _, _ => none
  -- No long name. Two hyphens never begin letters, and letters may hold an equals sign.
  | none, _, ['-', '-'] => some .endOfOptions
  | none, _, '-' :: '-' :: _ => none
  | none, _, '-' :: c :: rest => readLetters (c :: rest)
  | none, _, _ => none

/-- Reads the arguments of a command line, if all of them are options that are rightly used. -/
def readSettings : List Text → Option (List Setting)
  | [] => some []
  | arg :: args =>
    match readArgument arg, args with
    | some (.complete settings), args => (readSettings args).map (settings ++ ·)
    | some (.awaiting settings last), value :: args =>
      (readSettings args).map (settings ++ last value :: ·)
    | some (.awaiting _ _), [] => none
    | some .endOfOptions, args => if args.isEmpty then some [] else none
    | none, _ => none

/-- The options of a run. -/
structure Options where
  /-- The template, if it is given as such. -/
  template : Option Text := none
  /-- The name of a preset, or nothing. -/
  preset : Text := []
  /-- The file of every record, or nothing. -/
  file : Text := []
  /-- The definitions of kind words. -/
  kinds : List Text := []
  /-- Whether the first malformed match is a failure. -/
  strict : Bool := false
  /-- Whether escape codes are removed. -/
  stripCodes : Bool := true
  /-- Whether the presets are listed. -/
  listPresets : Bool := false
  /-- Whether the user is told what is done. -/
  verbose : Bool := false
deriving DecidableEq, Repr

namespace Options

/-- The options after one more setting. -/
def apply (o : Options) : Setting → Options
  | .template value => { o with template := some value }
  | .preset value => { o with preset := value }
  | .file value => { o with file := value }
  | .kind value => { o with kinds := o.kinds ++ [value] }
  | .strict => { o with strict := true }
  | .stripCodes value => { o with stripCodes := value }
  | .listPresets => { o with listPresets := true }
  | .verbose => { o with verbose := true }

/-- The options that the settings make. -/
def ofSettings (settings : List Setting) : Options :=
  settings.foldl apply {}

end Options

end Diagnostics.CommandLine
