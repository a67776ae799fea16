import ServiceWriter.Text.Utf8
import ServiceWriter.CommandLine.Options
import ServiceWriter.CommandLine.Host

/-!
# A run of the program

Reads the arguments and the service description, generates the source text and puts it on the result
stream or into a file. Nothing is written before the text is complete. The exit code is zero unless
something went wrong or there was nothing to do.
-/

set_option autoImplicit false

namespace ServiceWriter.CommandLine

open Text

/-- What is printed when help is asked for. -/
def helpText : String := "\n".intercalate [
  "Usage: service-codegen -i <discovery.json> [options]",
  "",
  "Options:",
  "  -i, --input <file>       Discovery document",
  "  -o, --output <file>      Output file (default: stdout)",
  "  -t, --target <lang>      csharp | typescript (default: csharp)",
  "  -n, --namespace <name>   Namespace of the generated class (default: " ++ defaultNamespace ++ ")",
  "  -m, --module <ns=mod>    TypeScript module for a CLR namespace (repeatable;",
  "                           default: the namespace in lower case)",
  "  -v, --verbose            Verbose logging",
  "  -h, --help               Show this help",
  "",
  "Examples:",
  "  service-codegen -i books.json",
  "  service-codegen -i books.json -t typescript -o BooksService.ts",
  "  service-codegen -i books.json -t typescript -m Newtonsoft.Json=./json.js",
  "",
  ""]

/-- The message of a failure. The lists of words of this program are always there. -/
def failureMessage : Failure → String
  | .rejected defects => Defect.report defects
  | .noWords .notJson => "Reserved words: not JSON"
  | .noWords (.badList language) => (Cause.badWordList language).message

/-- The generator that a run uses, and how it emits. -/
def Options.generator (options : Options) : Generator := { verbose := options.verbose }

/-- The source options that a run passes on. -/
def Options.source (options : Options) : SourceOptions where
  target := .language options.target
  space := options.space
  modules := options.modules

/-- What the description in the bytes of a file generates: the log, and the source text or the message
of what went wrong. `subject` names the file. -/
def generate (options : Options) (notJson subject : String) (bytes : ByteArray) :
    List String × Except String String :=
  match ServiceDescription.ofText (ofUtf8 bytes) subject notJson with
  | .error defect => ([], .error defect.message)
  | .ok service =>
    let (result, log) :=
      (options.generator.generateSource (.ok .standard) service options.source).run.run []
    (log, result.mapError failureMessage)

section

variable {m : Type → Type} [Monad m] (host : Host m)

/-- Says that generating from an input failed. -/
def fail (input message : String) : m UInt32 := do
  host.complain ("Error generating " ++ input ++ ":\n")
  host.complain (message ++ "\n")
  return 1

/-- Puts each of a list of lines on the result stream. -/
def outLines : List String → m Unit
  | [] => pure ()
  | text :: rest => do
    host.out (text ++ "\n")
    outLines rest

/-- Delivers the source text: to a file if one was named, else on the result stream. -/
def deliver (options : Options) (input source : String) : m UInt32 := do
  match options.output with
  | none =>
    host.out source
    return 0
  | some output =>
    let path := Path.resolve host.workingDirectory output
    match ← host.makeDirectory path.parent with
    | .error message => fail host input message
    | .ok () =>
      match ← host.write path source with
      | .error message => fail host input message
      | .ok () =>
        if options.verbose then
          host.out ("Generated: " ++ path.text ++ "\n")
        return 0

/-- Generates from an input file. -/
def process (options : Options) (input : String) : m UInt32 := do
  let path := Path.resolve host.workingDirectory input
  if !(← host.isThere path) then
    host.complain ("Input not found: " ++ path.text ++ "\n")
    return 1
  match ← host.read path with
  | .error message => fail host input message
  | .ok bytes =>
    let (log, result) := generate options host.notJson path.text bytes
    outLines host log
    match result with
    | .error message => fail host input message
    | .ok source => deliver host options input source

/-- A whole run; the result is the exit code. -/
def run (arguments : List String) : m UInt32 := do
  match readArguments {} arguments with
  | .error e =>
    host.complain ("Error: " ++ e.message ++ "\n")
    return 1
  | .ok .help =>
    host.out helpText
    return 0
  | .ok (.run options) =>
    match options.input with
    | none =>
      host.out helpText
      return 1
    | some input => process host options input

end

end ServiceWriter.CommandLine
