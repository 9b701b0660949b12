import Diagnostics.Text.Blank
import Diagnostics.Text.Lowercase
import Diagnostics.Text.Quoted

/-!
# Presets

A `Preset` is the template of a known tool. It is chosen by name, or by the name of another tool
that writes the same messages, in any case and with white space around it.
-/

namespace Diagnostics

/-- A tool whose messages are known. -/
inductive Preset where
  /-- Messages that are already in the form of records. -/
  | passthrough
  /-- The PHP interpreter. -/
  | php
  /-- The Rust compiler. -/
  | rust
  /-- The ESLint checker, with its compact format. -/
  | eslint
deriving DecidableEq, Repr

/-- No preset has the name. -/
structure UnknownPreset where
  /-- The name that was given. -/
  name : Text
deriving DecidableEq, Repr

namespace Preset

/-- All presets, in the order in which they are listed. -/
def all : List Preset := [passthrough, php, rust, eslint]

/-- The name of the preset. -/
def name : Preset → Text
  | passthrough => "passthrough".toList
  | php => "php".toList
  | rust => "rust".toList
  | eslint => "eslint".toList

/-- The template of the preset. -/
def template : Preset → Text
  | passthrough => "%f:%l:%c: %k: %m".toList
  | php => "%k: %m in %f on line %l".toList
  | rust => "%k%*: %m%.--> %f:%l:%c".toList
  | eslint => "%f: line %l, col %c, %k - %m".toList

/-- The names of other tools, each with the preset that fits it. -/
def aliases : List (Text × Preset) :=
  [("cargo".toList, rust), ("rustc".toList, rust), ("php-cli".toList, php)]

/-- The preset's own name for `name`, which may be an alias; any other name is only put into lower
case and stripped. -/
def resolveName (name : Text) : Text :=
  let plain := name.strip.lower
  match aliases.lookup plain with
  | some preset => preset.name
  | none => plain

/-- The preset of that name. -/
def find (name : Text) : Except UnknownPreset Preset :=
  match all.find? fun preset => preset.name = resolveName name with
  | some preset => .ok preset
  | none => .error ⟨name⟩

/-- The template that is used when none is given: that of the preset that the environment names, if
it names one. -/
def defaultTemplate (setting : Option Text) : Except UnknownPreset Text :=
  match setting with
  | none | some [] => .ok passthrough.template
  | some name => (find name).map template

/-- The width of the column of names in a list of the presets. -/
def nameWidth : Nat :=
  (all.map fun preset => preset.name.length).foldl max 0

/-- One line for each preset, its name and its template. -/
def listing : List Text :=
  all.map fun preset =>
    preset.name ++ List.replicate (nameWidth - preset.name.length) ' ' ++ "  ".toList ++
      preset.template

end Preset

/-- The text of the error. The presets are named in alphabetical order. -/
def UnknownPreset.message (e : UnknownPreset) : Text :=
  "Unknown preset ".toList ++ e.name.quoted ++ ", expected one of: ".toList ++
    List.intercalate ", ".toList
      ([Preset.eslint, .passthrough, .php, .rust].map Preset.name)

end Diagnostics
