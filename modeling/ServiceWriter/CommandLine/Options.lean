import ServiceWriter.Text.Split
import ServiceWriter.Service.Generator

/-!
# Command-line arguments

Arguments are read from left to right in groups: an option with its value, an option without one, or
the input file on its own while none has been given. An option given again replaces what it said
before; module mappings add up. A value may look like an option but must not be empty.
-/

set_option autoImplicit false

namespace ServiceWriter.CommandLine

open Text

/-- What a run of the program is asked to do. -/
structure Options where
  input : Option String := none
  output : Option String := none
  target : Language := .csharp
  space : String := defaultNamespace
  modules : Modules := []
  verbose : Bool := false
  deriving DecidableEq, Repr

/-- An option that takes a value. -/
inductive ValuedOption where
  | input
  | output
  | target
  | space
  | module
  deriving DecidableEq, Repr

namespace ValuedOption

/-- The short and the long spelling of an option. -/
def spellings : ValuedOption → String × String
  | .input => ("-i", "--input")
  | .output => ("-o", "--output")
  | .target => ("-t", "--target")
  | .space => ("-n", "--namespace")
  | .module => ("-m", "--module")

/-- All options that take a value. -/
def all : List ValuedOption := [.input, .output, .target, .space, .module]

/-- The option that an argument spells. -/
def ofArgument (argument : String) : Option ValuedOption :=
  all.find? fun option => argument == option.spellings.1 || argument == option.spellings.2

end ValuedOption

/-- Why arguments cannot be read. -/
inductive ArgumentError where
  | missingValue (option : ValuedOption)
  | unknownTarget (value : String)
  | badMapping (value : String)
  | unknownOption (argument : String)
  deriving DecidableEq, Repr

/-- The message of an argument error. -/
def ArgumentError.message : ArgumentError → String
  | .missingValue option => "Missing value for " ++ option.spellings.1 ++ "/" ++ option.spellings.2
  | .unknownTarget value => "Unknown target: " ++ value ++ " (expected csharp or typescript)"
  | .badMapping value => "Invalid module mapping: " ++ value ++ " (expected Namespace=specifier)"
  | .unknownOption argument => "Unknown option: " ++ argument

/-- The language of a target's name. -/
def readTarget (value : String) : Except ArgumentError Language :=
  match Target.ofName value with
  | .language l => .ok l
  | .other _ => .error (.unknownTarget value)

/-- A namespace and its module, split at the first equals sign. Neither may be empty. -/
def readMapping (value : String) : Except ArgumentError (String × String) :=
  match splitFirst '=' value.toList with
  | some (before, after) =>
    if before.isEmpty || after.isEmpty then .error (.badMapping value)
    else .ok (String.ofList before, String.ofList after)
  | none => .error (.badMapping value)

/-- The one namespace that no module can be given for. -/
def unmappable : String := "__proto__"

namespace Options

/-- Takes in an option with its value. -/
def set (options : Options) (option : ValuedOption) (value : String) :
    Except ArgumentError Options :=
  match option with
  | .input => .ok { options with input := some value }
  | .output => .ok { options with output := some value }
  | .space => .ok { options with space := value }
  | .target => (readTarget value).map fun target => { options with target }
  | .module => (readMapping value).map fun (space, specifier) =>
    if space = unmappable then options
    else { options with modules := (space, specifier) :: options.modules }

end Options

/-- What the arguments ask for. -/
inductive Request where
  | help
  | run (options : Options)
  deriving DecidableEq, Repr

/-- Reads arguments, with `options` what the ones before have said. A request for help ends the
reading. -/
def readArguments (options : Options) : List String → Except ArgumentError Request
  | [] => .ok (.run options)
  | argument :: rest =>
    match ValuedOption.ofArgument argument with
    | some option =>
      match rest with
      | [] => .error (.missingValue option)
      | value :: rest =>
        if value = "" then
          .error (.missingValue option)
        else
          match options.set option value with
          | .error e => .error e
          | .ok options => readArguments options rest
    | none =>
      if argument = "-v" || argument = "--verbose" then
        readArguments { options with verbose := true } rest
      else if argument = "-h" || argument = "--help" then
        .ok .help
      else if argument.toList.head? != some '-' && options.input.isNone then
        readArguments { options with input := some argument } rest
      else
        .error (.unknownOption argument)

end ServiceWriter.CommandLine
