import ServiceWriter.CommandLine.Path

/-!
# The host of a run

What a run needs of the machine it runs on: a few operations on files, two streams of text, and words
for a text that is not JSON. An operation on files that fails says so in the machine's own words.
-/

set_option autoImplicit false

namespace ServiceWriter.CommandLine

/-- The operations of a machine whose actions are those of `m`. -/
structure Host (m : Type → Type) where
  workingDirectory : Path
  /-- Whether there is a file or a directory. -/
  isThere : Path → m Bool
  /-- The bytes of a file. -/
  read : Path → m (Except String ByteArray)
  /-- Makes a directory and those it lies in, as far as they are missing. -/
  makeDirectory : Path → m (Except String Unit)
  /-- Writes a text to a file, as UTF-8, in place of what it held. -/
  write : Path → String → m (Except String Unit)
  /-- Puts text on the stream for results. -/
  out : String → m Unit
  /-- Puts text on the stream for complaints. -/
  complain : String → m Unit
  /-- How a text is said not to be JSON. -/
  notJson : String

end ServiceWriter.CommandLine
