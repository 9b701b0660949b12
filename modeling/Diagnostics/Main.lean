import Diagnostics.CommandLine.Basic

/-!
# The program

The command with the real command line, environment, input and outputs.
-/

namespace Diagnostics

/-- Reads a stream to its end. -/
partial def readAll (stream : IO.FS.Stream) (text : String) : IO String := do
  let line ← stream.getLine
  if line.isEmpty then return text else readAll stream (text ++ line)

end Diagnostics

open Diagnostics in
/-- Runs the command. One environment variable names the preset to use when the command line names
none. -/
def main (args : List String) : IO UInt32 := do
  let setting ← IO.getEnv "ERRFMT_PRESET"
  let input ← readAll (← IO.getStdin) ""
  let result := CommandLine.run (args.map String.toList) (setting.map String.toList) input.toList
  (← IO.getStdout).putStr (String.ofList result.output)
  (← IO.getStderr).putStr (String.ofList result.errorOutput)
  return result.code.toUInt32
