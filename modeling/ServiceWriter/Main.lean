import ServiceWriter.CommandLine.Run

/-!
# The program

Runs the command line on the machine at hand.
-/

set_option autoImplicit false

namespace ServiceWriter.CommandLine

/-- An action that may fail, with the failure in words. -/
def attempt {α : Type} (action : IO α) : IO (Except String α) := do
  match ← action.toBaseIO with
  | .ok value => return .ok value
  | .error e => return .error (toString e)

/-- The operations of the machine at hand. -/
def machineHost (workingDirectory : Path) : Host IO where
  workingDirectory
  isThere path := do
    match ← attempt (IO.FS.realPath path.text) with
    | .ok _ => return true
    | .error _ => return false
  read path := attempt (IO.FS.readBinFile path.text)
  makeDirectory path := attempt (IO.FS.createDirAll path.text)
  write path text := attempt (IO.FS.writeFile path.text text)
  out text := do
    let stream ← IO.getStdout
    stream.putStr text
  complain text := do
    let stream ← IO.getStderr
    stream.putStr text
  notJson := "the text is no JSON document"

end ServiceWriter.CommandLine

open ServiceWriter.CommandLine

/-- Generates the source text that the arguments ask for. -/
def main (arguments : List String) : IO UInt32 := do
  let here ← IO.currentDir
  run (machineHost (Path.resolve [] here.toString)) arguments
