import ServiceWriter.Proofs.Text.Split
import ServiceWriter.CommandLine.Options

/-!
# Arguments in groups

The grammar of the arguments: a group is an option with its value, an option without one, or the input
file on its own while no group before it has set the input (`Spells`). Arguments are cut into groups
from the left (`Cut`), as far as groups start (`exists_cut`). The reader takes them in group by group
(`readArguments_of_cut`), and where no group starts it ends: with the help that is asked for, or with
what is wrong there (`Refused`).
-/

set_option autoImplicit false

namespace ServiceWriter.CommandLine

open Text

/-! ## The grammar -/

/-- What a group of arguments says. -/
inductive Group where
  | input (file : String)
  | output (file : String)
  | target (language : Language)
  | space (name : String)
  | module (space specifier : String)
  | verbose
  /-- The input file on its own. -/
  | positional (file : String)

namespace Group

/-- The input file that a group sets. -/
def input? : Group → Option String
  | .input file | .positional file => some file
  | _ => none

end Group

/-- The two ways to write an option that takes a value. -/
def ValuedOption.flags : ValuedOption → List String
  | .input => ["-i", "--input"]
  | .output => ["-o", "--output"]
  | .target => ["-t", "--target"]
  | .space => ["-n", "--namespace"]
  | .module => ["-m", "--module"]

/-- The two ways to ask for a log. -/
def verboseFlags : List String := ["-v", "--verbose"]

/-- The two ways to ask for help. -/
def helpFlags : List String := ["-h", "--help"]

/-- What a value means after an option. A target is one of the two languages. A module has a namespace
before the first equals sign and a specifier after it. -/
inductive Means : ValuedOption → String → Group → Prop
  | input (file : String) : Means .input file (.input file)
  | output (file : String) : Means .output file (.output file)
  | space (name : String) : Means .space name (.space name)
  | csharp : Means .target "csharp" (.target .csharp)
  | typescript : Means .target "typescript" (.target .typescript)
  | module {space specifier : String} (first : '=' ∉ space.toList) (before : space ≠ "")
      (after : specifier ≠ "") : Means .module (space ++ "=" ++ specifier) (.module space specifier)

/-- What arguments spell a group. `given` says that a group before them has set the input. -/
inductive Spells (given : Bool) : List String → Group → Prop
  | valued {option : ValuedOption} {flag value : String} {group : Group}
      (named : flag ∈ option.flags) (nonempty : value ≠ "") (means : Means option value group) :
      Spells given [flag, value] group
  | verbose {flag : String} (named : flag ∈ verboseFlags) : Spells given [flag] .verbose
  | positional {file : String} (plain : file.toList.head? ≠ some '-') (free : given = false) :
      Spells given [file] (.positional file)

/-- Arguments cut into groups from the left. `given` says that a group before them has set the input.
-/
inductive Cut : Bool → List String → List Group → Prop
  | nil (given : Bool) : Cut given [] []
  | cons {given : Bool} {words rest : List String} {group : Group} {groups : List Group}
      (spells : Spells given words group) (later : Cut (given || group.input?.isSome) rest groups) :
      Cut given (words ++ rest) (group :: groups)

/-- No group starts the arguments. -/
def NoGroupStarts (given : Bool) (arguments : List String) : Prop :=
  ∀ words group rest, arguments = words ++ rest → ¬ Spells given words group

/-- What is wrong with arguments that no group starts and that do not ask for help: their first says an
option whose value is missing, is no target or is no mapping, or it is no option at all. -/
inductive Refused : List String → ArgumentError → Prop
  | missing {option : ValuedOption} {flag : String} {rest : List String}
      (named : flag ∈ option.flags) (absent : rest.head?.getD "" = "") :
      Refused (flag :: rest) (.missingValue option)
  | target {flag value : String} {rest : List String} (named : flag ∈ ValuedOption.target.flags)
      (nonempty : value ≠ "") (other : value ≠ "csharp" ∧ value ≠ "typescript") :
      Refused (flag :: value :: rest) (.unknownTarget value)
  | mapping {flag value : String} {rest : List String} (named : flag ∈ ValuedOption.module.flags)
      (nonempty : value ≠ "") (unsplit : ∀ group, ¬ Means .module value group) :
      Refused (flag :: value :: rest) (.badMapping value)
  | unknown {argument : String} {rest : List String}
      (unnamed : ∀ option : ValuedOption, argument ∉ option.flags) :
      Refused (argument :: rest) (.unknownOption argument)

/-! ## Cutting -/

theorem Spells.ne_nil {given : Bool} {words : List String} {group : Group}
    (spells : Spells given words group) : words ≠ [] := by
  cases spells <;> exact List.cons_ne_nil _ _

/-- What spells a group after the input was set spells it before. -/
theorem Spells.earlier {given : Bool} {words : List String} {group : Group} (more : Bool)
    (spells : Spells (given || more) words group) : Spells given words group := by
  cases spells with
  | valued named nonempty means => exact .valued named nonempty means
  | verbose named => exact .verbose named
  | positional plain free => exact .positional plain (Bool.or_eq_false_iff.mp free).1

/-- **Any arguments are cut as far as groups start.** -/
theorem exists_cut (given : Bool) (arguments : List String) :
    ∃ before groups rest, arguments = before ++ rest ∧ Cut given before groups ∧
      NoGroupStarts (given || groups.any (·.input?.isSome)) rest := by
  induction h : arguments.length using Nat.strong_induction_on generalizing given arguments with
  | _ n ih =>
    by_cases starts : ∃ words group rest, arguments = words ++ rest ∧ Spells given words group
    · obtain ⟨words, group, rest, rfl, spells⟩ := starts
      have shorter : rest.length < n := by
        have := List.length_pos_iff.mpr spells.ne_nil
        rw [List.length_append] at h
        omega
      obtain ⟨before, groups, rest', rfl, cut, stops⟩ :=
        ih rest.length shorter (given || group.input?.isSome) rest rfl
      refine ⟨words ++ before, group :: groups, rest', (List.append_assoc _ _ _).symm,
        .cons spells cut, ?_⟩
      rwa [List.any_cons, ← Bool.or_assoc]
    · refine ⟨[], [], arguments, rfl, .nil given, ?_⟩
      rw [List.any_nil, Bool.or_false]
      exact fun words group rest split spells => starts ⟨words, group, rest, split, spells⟩

/-! ## Options and their values -/

theorem flags_eq (option : ValuedOption) :
    option.flags = [option.spellings.1, option.spellings.2] := by
  cases option <;> rfl

theorem ofArgument_eq_some_iff {argument : String} {option : ValuedOption} :
    ValuedOption.ofArgument argument = some option ↔ argument ∈ option.flags := by
  constructor
  · intro found
    have named := List.find?_some found
    rw [Bool.or_eq_true, beq_iff_eq, beq_iff_eq] at named
    rw [flags_eq]
    simpa using named
  · cases option <;> rintro (_ | ⟨_, _ | ⟨_, ⟨⟩⟩⟩) <;> rfl

theorem ofArgument_eq_none_iff {argument : String} :
    ValuedOption.ofArgument argument = none ↔ ∀ option : ValuedOption, argument ∉ option.flags := by
  simp only [Option.eq_none_iff_forall_ne_some, Ne, ofArgument_eq_some_iff]

/-- Options start with a hyphen. -/
theorem ofArgument_of_plain {file : String} (plain : file.toList.head? ≠ some '-') :
    ValuedOption.ofArgument file = none := by
  rw [ofArgument_eq_none_iff]
  intro option named
  refine plain ?_
  cases option <;> rcases named with _ | ⟨_, _ | ⟨_, ⟨⟩⟩⟩ <;> rfl

/-- What is read of the value of an option. -/
def ValuedOption.read : ValuedOption → String → Except ArgumentError Group
  | .input, file => .ok (.input file)
  | .output, file => .ok (.output file)
  | .space, name => .ok (.space name)
  | .target, value => (readTarget value).map .target
  | .module, value => (readMapping value).map fun (before, after) => .module before after

theorem readTarget_of_other {value : String} (csharp : value ≠ "csharp")
    (typeScript : value ≠ "typescript") : readTarget value = .error (.unknownTarget value) := by
  have other : Target.ofName value = .other value :=
    (if_neg csharp).trans (if_neg typeScript)
  rw [readTarget, other]

theorem readMapping_of_split {space specifier : String} (first : '=' ∉ space.toList)
    (before : space ≠ "") (after : specifier ≠ "") :
    readMapping (space ++ "=" ++ specifier) = .ok (space, specifier) := by
  have split : (space ++ "=" ++ specifier).toList = space.toList ++ '=' :: specifier.toList := by
    simp
  have filled : (space.toList.isEmpty || specifier.toList.isEmpty) = false := by
    simp [before, after]
  rw [readMapping, split, splitFirst_append_cons _ first]
  simp only [filled, Bool.false_eq_true, if_false, String.ofList_toList]

theorem means_of_readMapping {value space specifier : String}
    (read : readMapping value = .ok (space, specifier)) :
    Means .module value (.module space specifier) := by
  unfold readMapping at read
  split at read
  · next before after found =>
    split at read
    · cases read
    · next filled =>
      cases read
      obtain ⟨same, absent⟩ := of_splitFirst_eq_some found
      have value_eq : value = String.ofList before ++ "=" ++ String.ofList after := by
        apply String.toList_injective
        rw [same]
        simp
      rw [value_eq]
      simp only [Bool.or_eq_true, List.isEmpty_iff, not_or] at filled
      exact .module (by simpa using absent) (by simpa using filled.1) (by simpa using filled.2)
  · cases read

theorem readMapping_eq_error {value : String} {e : ArgumentError}
    (failed : readMapping value = .error e) : e = .badMapping value := by
  unfold readMapping at failed
  split at failed
  · split at failed
    · exact (Except.error.inj failed).symm
    · cases failed
  · exact (Except.error.inj failed).symm

section

variable {option : ValuedOption} {value : String} {group : Group}

theorem read_of_means (means : Means option value group) : option.read value = .ok group := by
  cases means with
  | input | output | space | csharp | typescript => rfl
  | module first before after =>
    rw [ValuedOption.read, readMapping_of_split first before after]
    rfl

theorem means_of_read (read : option.read value = .ok group) : Means option value group := by
  cases option with
  | input => cases read; exact .input value
  | output => cases read; exact .output value
  | space => cases read; exact .space value
  | target =>
    by_cases csharp : value = "csharp"
    · subst csharp
      cases read
      exact .csharp
    · by_cases typeScript : value = "typescript"
      · subst typeScript
        cases read
        exact .typescript
      · rw [ValuedOption.read, readTarget_of_other csharp typeScript] at read
        cases read
  | module =>
    cases mapping : readMapping value with
    | ok both =>
      rw [ValuedOption.read, mapping] at read
      cases read
      exact means_of_readMapping mapping
    | error e =>
      rw [ValuedOption.read, mapping] at read
      cases read

/-- A value that cannot be read is refused. -/
theorem refused_of_read {flag : String} {rest : List String} {e : ArgumentError}
    (named : flag ∈ option.flags) (nonempty : value ≠ "") (failed : option.read value = .error e) :
    Refused (flag :: value :: rest) e := by
  cases option with
  | input | output | space => cases failed
  | target =>
    have csharp : value ≠ "csharp" := by
      rintro rfl
      cases failed
    have typeScript : value ≠ "typescript" := by
      rintro rfl
      cases failed
    rw [ValuedOption.read, readTarget_of_other csharp typeScript] at failed
    cases failed
    exact .target named nonempty ⟨csharp, typeScript⟩
  | module =>
    have unsplit : ∀ group, ¬ Means .module value group := fun group means => by
      rw [read_of_means means] at failed
      cases failed
    cases mapping : readMapping value with
    | ok both =>
      rw [ValuedOption.read, mapping] at failed
      cases failed
    | error e' =>
      rw [ValuedOption.read, mapping] at failed
      cases failed
      rw [readMapping_eq_error mapping]
      exact .mapping named nonempty unsplit

end

/-! ## Taking in -/

/-- The options with what a group says. -/
def Options.take (options : Options) : Group → Options
  | .input file | .positional file => { options with input := some file }
  | .output file => { options with output := some file }
  | .target language => { options with target := language }
  | .space name => { options with space := name }
  | .module space specifier =>
    { options with
      modules :=
        if space = unmappable then options.modules else (space, specifier) :: options.modules }
  | .verbose => { options with verbose := true }

theorem set_eq (options : Options) (option : ValuedOption) (value : String) :
    options.set option value = (option.read value).map options.take := by
  cases option with
  | input | output | space => rfl
  | target =>
    rw [Options.set, ValuedOption.read]
    cases readTarget value <;> rfl
  | module =>
    rw [Options.set, ValuedOption.read]
    cases readMapping value with
    | ok both =>
      simp only [Except.map, Options.take]
      split <;> rfl
    | error e => rfl

theorem input_take (options : Options) (group : Group) :
    (options.take group).input = group.input?.or options.input := by
  cases group <;> rfl

theorem isSome_input_take (options : Options) (group : Group) :
    (options.take group).input.isSome = (options.input.isSome || group.input?.isSome) := by
  rw [input_take, Option.isSome_or, Bool.or_comm]

/-- **A group is taken in.** -/
theorem readArguments_of_spells {options : Options} {words : List String} {group : Group}
    (spells : Spells options.input.isSome words group) (rest : List String) :
    readArguments options (words ++ rest) = readArguments (options.take group) rest := by
  cases spells with
  | valued named nonempty means =>
    rw [List.cons_append, readArguments, ofArgument_eq_some_iff.mpr named]
    simp only [List.singleton_append, if_neg nonempty, set_eq, read_of_means means, Except.map]
  | verbose named => rcases named with _ | ⟨_, _ | ⟨_, ⟨⟩⟩⟩ <;> rfl
  | @positional file plain free =>
    have ne (flag : String) (hyphen : flag.toList.head? = some '-') : file ≠ flag := by
      rintro rfl
      exact plain hyphen
    have noLog : (file = "-v" || file = "--verbose") = false := by
      simp [ne "-v" rfl, ne "--verbose" rfl]
    have noHelp : (file = "-h" || file = "--help") = false := by
      simp [ne "-h" rfl, ne "--help" rfl]
    have first : (file.toList.head? != some '-' && options.input.isNone) = true := by
      rw [← Option.not_isSome, free]
      simpa using plain
    rw [List.singleton_append, readArguments, ofArgument_of_plain plain]
    simp only [noLog, noHelp, first, Bool.false_eq_true, if_false, if_true]
    rfl

/-- **Groups are taken in, one after another.** -/
theorem readArguments_of_cut {given : Bool} {options : Options} {words : List String}
    {groups : List Group} (cut : Cut given words groups) (same : options.input.isSome = given)
    (rest : List String) :
    readArguments options (words ++ rest) = readArguments (groups.foldl Options.take options) rest := by
  induction cut generalizing options with
  | nil => rfl
  | cons spells _ ih =>
    subst same
    rw [List.append_assoc, readArguments_of_spells spells, List.foldl_cons]
    exact ih (isSome_input_take _ _)

theorem isSome_input_foldl (groups : List Group) (options : Options) :
    (groups.foldl Options.take options).input.isSome =
      (options.input.isSome || groups.any (·.input?.isSome)) := by
  induction groups generalizing options with
  | nil => rw [List.foldl_nil, List.any_nil, Bool.or_false]
  | cons group groups ih =>
    rw [List.foldl_cons, ih, isSome_input_take, List.any_cons, Bool.or_assoc]

/-! ## Where no group starts -/

theorem readArguments_of_help {options : Options} {flag : String} (named : flag ∈ helpFlags)
    (rest : List String) : readArguments options (flag :: rest) = .ok .help := by
  rcases named with _ | ⟨_, _ | ⟨_, ⟨⟩⟩⟩ <;> rfl

/-- **Where no group starts, the arguments are refused** for what is wrong there, whatever was said
before. -/
theorem exists_refused {given : Bool} {argument : String} {rest : List String}
    (stops : NoGroupStarts given (argument :: rest)) (noHelp : argument ∉ helpFlags) :
    ∃ e, Refused (argument :: rest) e ∧ ∀ options : Options, options.input.isSome = given →
      readArguments options (argument :: rest) = .error e := by
  cases found : ValuedOption.ofArgument argument with
  | some option =>
    have named := ofArgument_eq_some_iff.mp found
    cases rest with
    | nil => exact ⟨_, .missing named rfl, fun options _ => by rw [readArguments, found]⟩
    | cons value rest =>
      by_cases empty : value = ""
      · refine ⟨_, .missing named empty, fun options _ => ?_⟩
        rw [readArguments, found]
        simp only [if_pos empty]
      · cases read : option.read value with
        | ok group =>
          have spells : Spells given [argument, value] group :=
            .valued named empty (means_of_read read)
          exact absurd spells (stops [argument, value] group rest rfl)
        | error e =>
          refine ⟨e, refused_of_read named empty read, fun options _ => ?_⟩
          rw [readArguments, found]
          simp only [if_neg empty, set_eq, read, Except.map]
  | none =>
    refine ⟨_, .unknown (ofArgument_eq_none_iff.mp found), fun options same => ?_⟩
    have noLog : (argument = "-v" || argument = "--verbose") = false := by
      have unnamed : argument ∉ verboseFlags := fun named =>
        stops [argument] .verbose rest rfl (.verbose named)
      simpa [verboseFlags] using unnamed
    have noHelp' : (argument = "-h" || argument = "--help") = false := by
      simpa [helpFlags] using noHelp
    have noInput : (argument.toList.head? != some '-' && options.input.isNone) = false := by
      rw [← Bool.not_eq_true, Bool.and_eq_true, bne_iff_ne, ← Option.not_isSome, same]
      rintro ⟨plain, free⟩
      exact stops [argument] _ rest rfl (.positional plain (by simpa using free))
    rw [readArguments, found]
    simp only [noLog, noHelp', noInput, Bool.false_eq_true, if_false]

end ServiceWriter.CommandLine
