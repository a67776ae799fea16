import ServiceWriter.Proofs.CommandLine.Groups
import ServiceWriter.Proofs.CommandLine.Delivery

/-!
# What arguments ask for

Options fall into parts, and a group is about one of them (`Part`). So of the groups about a part the
last counts (`Part.read_foldl`), and neighbours that are about different parts can be exchanged: then
all parts read alike, and a run on such options is the same run (`Options.Alike.process_eq`). With the
grammar this tells what is read of any arguments, in which places they are refused, and which
orders of them come to the same (`arguments_read`).
-/

set_option autoImplicit false

namespace ServiceWriter.CommandLine

open Text

/-! ## Parts of the options -/

/-- What a group is about. Each namespace has a module of its own. -/
inductive Topic where
  | input
  | output
  | target
  | space
  | module (space : String)
  | verbose

namespace Group

/-- What a group is about. -/
def topic : Group → Topic
  | .input _ | .positional _ => .input
  | .output _ => .output
  | .target _ => .target
  | .space _ => .space
  | .module name _ => .module name
  | .verbose => .verbose

/-- The output file that a group sets. -/
def output? : Group → Option String
  | .output file => some file
  | _ => none

/-- The target that a group sets. -/
def target? : Group → Option Language
  | .target language => some language
  | _ => none

/-- The namespace of the class that a group sets. -/
def space? : Group → Option String
  | .space name => some name
  | _ => none

/-- The specifier that a group gives for a namespace. -/
def specifier? (name : String) : Group → Option String
  | .module name' specifier => if name' = name then some specifier else none
  | _ => none

/-- What a group says of a log. -/
def verbose? : Group → Option Bool
  | .verbose => some true
  | _ => none

end Group

/-- A part of the options, which only groups about its topic change, each to what it says. -/
structure Part (α : Type) where
  topic : Topic
  read : Options → Option α
  said : Group → Option α
  read_take : ∀ options group, read (options.take group) = (said group).or (read options) := by
    intro _ group
    cases group <;> rfl
  said_of_topic_ne : ∀ group : Group, group.topic ≠ topic → said group = none := by
    intro group other
    cases group <;> first | rfl | exact absurd rfl other

namespace Part

def input : Part String where
  topic := .input
  read := (·.input)
  said := Group.input?

def output : Part String where
  topic := .output
  read := (·.output)
  said := Group.output?

def target : Part Language where
  topic := .target
  read options := some options.target
  said := Group.target?

def space : Part String where
  topic := .space
  read options := some options.space
  said := Group.space?

def verbose : Part Bool where
  topic := .verbose
  read options := some options.verbose
  said := Group.verbose?

/-- The module of a namespace. -/
def module (name : String) : Part String where
  topic := .module name
  read options := options.modules.lookup name
  said group := if name = unmappable then none else group.specifier? name
  read_take options group := by
    cases group with
    | module name' specifier =>
      by_cases same : name' = name
      · subst same
        by_cases never : name' = unmappable <;> simp [Options.take, Group.specifier?, never]
      · rw [Group.specifier?, if_neg same, ite_self, Option.none_or, Options.take]
        by_cases never : name' = unmappable
        · rw [if_pos never]
        · rw [if_neg never, List.lookup_cons, beq_false_of_ne (Ne.symm same)]
    | _ => exact (congrArg (Option.or · _) (ite_self none)).symm
  said_of_topic_ne group other := by
    cases group with
    | module name' specifier =>
      have apart : name' ≠ name := fun same => other (congrArg Topic.module same)
      rw [Group.specifier?, if_neg apart, ite_self]
    | _ => exact ite_self none

section

variable {α : Type} (part : Part α)

/-- **Of the groups about a part the last counts.** -/
theorem read_foldl (groups : List Group) (options : Options) :
    part.read (groups.foldl Options.take options) =
      (groups.filterMap part.said).getLast?.or (part.read options) := by
  induction groups generalizing options with
  | nil => rfl
  | cons group groups ih =>
    rw [List.foldl_cons, ih, part.read_take, List.filterMap_cons]
    cases part.said group with
    | none => rfl
    | some value =>
      rw [List.getLast?_cons]
      cases (groups.filterMap part.said).getLast? <;> rfl

/-- **Groups about different parts can be exchanged.** -/
theorem read_take_comm (options : Options) {first second : Group}
    (apart : first.topic ≠ second.topic) :
    part.read ((options.take first).take second) =
      part.read ((options.take second).take first) := by
  simp only [part.read_take]
  by_cases about : first.topic = part.topic
  · have silent : part.said second = none :=
      part.said_of_topic_ne second fun about' => apart (about.trans about'.symm)
    rw [silent, Option.none_or, Option.none_or]
  · rw [part.said_of_topic_ne first about, Option.none_or, Option.none_or]

end

end Part

/-! ## What groups come to -/

/-- Options in which each part is what the last group about it says, or else what it is by default. -/
structure Options.LastSaid (options : Options) (groups : List Group) : Prop where
  input : options.input = (groups.filterMap Group.input?).getLast?
  output : options.output = (groups.filterMap Group.output?).getLast?
  target : options.target = (groups.filterMap Group.target?).getLast?.getD .csharp
  space : options.space = (groups.filterMap Group.space?).getLast?.getD defaultNamespace
  verbose : options.verbose = true ↔ Group.verbose ∈ groups
  modules : ∀ name, options.modules.lookup name =
    if name = "__proto__" then none else (groups.filterMap (Group.specifier? name)).getLast?

theorem verbose_foldl (groups : List Group) (options : Options) :
    (groups.foldl Options.take options).verbose = true ↔
      options.verbose = true ∨ Group.verbose ∈ groups := by
  induction groups generalizing options with
  | nil => simp
  | cons group groups ih =>
    rw [List.foldl_cons, ih, List.mem_cons]
    cases group <;> simp [Options.take]

/-- **The options that groups come to.** -/
theorem lastSaid_foldl (groups : List Group) :
    (groups.foldl Options.take {}).LastSaid groups where
  input := (Part.input.read_foldl groups {}).trans Option.or_none
  output := (Part.output.read_foldl groups {}).trans Option.or_none
  target := by
    have read : some (groups.foldl Options.take {}).target =
        (groups.filterMap Group.target?).getLast?.or (some .csharp) :=
      Part.target.read_foldl groups {}
    rw [Option.or_some] at read
    exact Option.some.inj read
  space := by
    have read : some (groups.foldl Options.take {}).space =
        (groups.filterMap Group.space?).getLast?.or (some defaultNamespace) :=
      Part.space.read_foldl groups {}
    rw [Option.or_some] at read
    exact Option.some.inj read
  verbose := (verbose_foldl groups {}).trans (by simp)
  modules name := by
    refine ((Part.module name).read_foldl groups {}).trans (Option.or_none.trans ?_)
    change _ = if name = unmappable then none else _
    by_cases never : name = unmappable
    · rw [if_pos never, show (Part.module name).said = fun _ => none from
        funext fun _ => if_pos never, List.filterMap_none]
      rfl
    · rw [if_neg never, show (Part.module name).said = Group.specifier? name from
        funext fun _ => if_neg never]

/-! ## Options that are alike -/

/-- Options that differ at most in the order in which modules were given. -/
structure Options.Alike (options options' : Options) : Prop where
  input : options.input = options'.input
  output : options.output = options'.output
  target : options.target = options'.target
  space : options.space = options'.space
  verbose : options.verbose = options'.verbose
  modules : ∀ name, options.modules.lookup name = options'.modules.lookup name

theorem alike_of_parts {options options' : Options}
    (same : ∀ {α : Type} (part : Part α), part.read options = part.read options') :
    options.Alike options' where
  input := same .input
  output := same .output
  target := Option.some.inj (same .target)
  space := Option.some.inj (same .space)
  verbose := Option.some.inj (same .verbose)
  modules name := same (.module name)

theorem emit_of_lookup (words : ReservedWords) (options : SourceOptions) {modules : Modules}
    (same : ∀ name, options.modules.lookup name = modules.lookup name) (n : Namespace) :
    Generator.emit (.ok words) { options with modules } n = Generator.emit (.ok words) options n := by
  have located : moduleFor modules = moduleFor options.modules :=
    funext fun name => by rw [moduleFor, moduleFor, same]
  unfold Generator.emit
  cases options.target.written with
  | csharp => rfl
  | typescript =>
    simp only [TypeScriptEmitter.emitNamespace,
      TypeScript.outcome_emit (TypeScript.performs_namespaceNodes n), TypeScriptEmitter.ofModules,
      References.imports, located]

namespace Options.Alike

variable {options options' : Options} (alike : options.Alike options')
include alike

theorem exists_modules : ∃ modules, options' = { options with modules } ∧
    ∀ name, options.modules.lookup name = modules.lookup name := by
  obtain ⟨input, output, target, space, modules, verbose⟩ := options'
  obtain ⟨⟨⟩, ⟨⟩, ⟨⟩, ⟨⟩, ⟨⟩, same⟩ := alike
  exact ⟨modules, rfl, same⟩

theorem sourceOf_eq (service : ServiceDescription) :
    options'.sourceOf service = options.sourceOf service := by
  obtain ⟨modules, rfl, same⟩ := alike.exists_modules
  simp only [sourceOf, run_generateSource]
  exact emit_of_lookup .standard options.source same _

theorem generate_eq (notJson subject : String) (bytes : ByteArray) :
    generate options' notJson subject bytes = generate options notJson subject bytes := by
  simp only [CommandLine.generate_eq, alike.sourceOf_eq]
  obtain ⟨modules, rfl, -⟩ := alike.exists_modules
  rfl

/-- **A run on options that are alike is the same run.** -/
theorem process_eq {σ : Type} (host : Host (StateM σ)) (file : String) :
    process host options' file = process host options file := by
  unfold process
  simp only [alike.generate_eq]
  obtain ⟨modules, rfl, -⟩ := alike.exists_modules
  rfl

end Options.Alike

/-! ## Exchanges -/

/-- What is read comes to the same. -/
inductive ReadsAlike : Except ArgumentError Request → Except ArgumentError Request → Prop
  | error (e : ArgumentError) : ReadsAlike (.error e) (.error e)
  | help : ReadsAlike (.ok .help) (.ok .help)
  | accepted {options options' : Options} (alike : options.Alike options') :
      ReadsAlike (.ok (.run options)) (.ok (.run options'))

theorem ReadsAlike.run_eq {σ : Type} (host : Host (StateM σ)) {arguments arguments' : List String}
    (alike : ReadsAlike (readArguments {} arguments) (readArguments {} arguments')) :
    run host arguments' = run host arguments := by
  unfold run
  generalize readArguments {} arguments = read, readArguments {} arguments' = read' at alike
  cases alike with
  | error | help => rfl
  | accepted alike => simp only [← alike.input, alike.process_eq]

/-- Where all parts read alike, all arguments after that do. -/
theorem readsAlike_of_parts {options options' : Options}
    (same : ∀ {α : Type} (part : Part α), part.read options = part.read options')
    (arguments : List String) :
    ReadsAlike (readArguments options arguments) (readArguments options' arguments) := by
  obtain ⟨before, groups, rest, rfl, cut, stops⟩ := exists_cut options.input.isSome arguments
  have given : options'.input.isSome = options.input.isSome :=
    congrArg Option.isSome (same .input).symm
  rw [readArguments_of_cut cut rfl, readArguments_of_cut cut given]
  have same' {α : Type} (part : Part α) : part.read (groups.foldl Options.take options) =
      part.read (groups.foldl Options.take options') := by
    rw [part.read_foldl, part.read_foldl, same part]
  cases rest with
  | nil => exact .accepted (alike_of_parts same')
  | cons argument rest =>
    by_cases help : argument ∈ helpFlags
    · rw [readArguments_of_help help, readArguments_of_help help]
      exact .help
    · obtain ⟨e, -, refused⟩ := exists_refused stops help
      rw [refused _ (isSome_input_foldl groups options),
        refused _ ((isSome_input_foldl groups options').trans (by rw [given]))]
      exact .error e

/-- Groups about different parts can be written in either order. -/
theorem Spells.exchange {given : Bool} {words words' : List String} {first second : Group}
    (spells : Spells given words first)
    (spells' : Spells (given || first.input?.isSome) words' second)
    (apart : first.topic ≠ second.topic) :
    Spells given words' second ∧ Spells (given || second.input?.isSome) words first := by
  refine ⟨spells'.earlier, ?_⟩
  cases spells with
  | valued named nonempty means => exact .valued named nonempty means
  | verbose named => exact .verbose named
  | positional plain free =>
    have silent : second.input? = none := Part.input.said_of_topic_ne second (Ne.symm apart)
    exact .positional plain (by rw [silent, free]; rfl)

/-- **Neighbouring groups about different parts can be exchanged.** -/
theorem readsAlike_exchange {before words words' : List String} {groups : List Group}
    {first second : Group} (cut : Cut false before groups)
    (spells : Spells (groups.any (·.input?.isSome)) words first)
    (spells' : Spells (groups.any (·.input?.isSome) || first.input?.isSome) words' second)
    (apart : first.topic ≠ second.topic) (after : List String) :
    ReadsAlike (readArguments {} (before ++ (words ++ (words' ++ after))))
      (readArguments {} (before ++ (words' ++ (words ++ after)))) := by
  obtain ⟨later, earlier⟩ := spells.exchange spells' apart
  rw [readArguments_of_cut cut rfl, readArguments_of_cut cut rfl]
  have given := isSome_input_foldl groups {}
  rw [show ({} : Options).input.isSome = false from rfl, Bool.false_or] at given
  generalize groups.foldl Options.take {} = options at given ⊢
  rw [← given] at spells spells' later earlier
  rw [readArguments_of_spells spells, readArguments_of_spells later,
    readArguments_of_spells (by rwa [isSome_input_take]),
    readArguments_of_spells (by rwa [isSome_input_take])]
  exact readsAlike_of_parts (fun part => part.read_take_comm options apart) after

/-! ## All arguments -/

section

variable {σ : Type} {host : Host (StateM σ)}

/-- **What is read of arguments.** Groups are cut from the left, as far as they start:

- Arguments that are groups throughout are accepted. Each option is what the last group about it
  says, or else what it is by default; there is a log if a group asks for one; and each namespace but
  one has the module that the last group about it gives.
- Arguments that ask for help right after some groups end in the help text, whatever follows.
- Arguments in which no group starts at some point, and that do not ask for help there, are refused for
  what is wrong at that point, and nothing is done.

There are no other arguments. And of two neighbouring groups about different things either may stand
first: the same is read, and the run is the same. -/
theorem arguments_read (store : Storage host) (arguments : List String) (s : σ) :
    (∀ groups, Cut false arguments groups →
      ∃ options, readArguments {} arguments = .ok (.run options) ∧ options.LastSaid groups) ∧
    (∀ before groups flag rest, arguments = before ++ flag :: rest → Cut false before groups →
      flag ∈ helpFlags →
        readArguments {} arguments = .ok .help ∧ ((run host arguments).run s).1 = 0 ∧
          store.view ((run host arguments).run s).2 = (store.view s).print helpText) ∧
    (∀ before groups argument rest, arguments = before ++ argument :: rest →
      Cut false before groups → NoGroupStarts (groups.any (·.input?.isSome)) (argument :: rest) →
      argument ∉ helpFlags →
        ∃ e, Refused (argument :: rest) e ∧ readArguments {} arguments = .error e ∧
          ((run host arguments).run s).1 = 1 ∧
          store.view ((run host arguments).run s).2 = store.view s) ∧
    ((∃ groups, Cut false arguments groups) ∨
      ∃ before groups argument rest, arguments = before ++ argument :: rest ∧
        Cut false before groups ∧
        NoGroupStarts (groups.any (·.input?.isSome)) (argument :: rest)) ∧
    ∀ before groups words first words' second after,
      arguments = before ++ (words ++ (words' ++ after)) → Cut false before groups →
      Spells (groups.any (·.input?.isSome)) words first →
      Spells (groups.any (·.input?.isSome) || first.input?.isSome) words' second →
      first.topic ≠ second.topic →
        ReadsAlike (readArguments {} arguments)
          (readArguments {} (before ++ (words' ++ (words ++ after)))) ∧
        run host (before ++ (words' ++ (words ++ after))) = run host arguments := by
  refine ⟨fun groups cut => ?accepted, ?help, ?refused, ?complete, ?exchange⟩
  case accepted =>
    have read : readArguments {} (arguments ++ []) = .ok (.run (groups.foldl Options.take {})) :=
      readArguments_of_cut cut rfl []
    rw [List.append_nil] at read
    exact ⟨_, read, lastSaid_foldl groups⟩
  case help =>
    rintro before groups flag rest rfl cut named
    have asked : readArguments {} (before ++ flag :: rest) = .ok .help :=
      (readArguments_of_cut cut rfl _).trans (readArguments_of_help named rest)
    exact ⟨asked, run_of_help store asked s⟩
  case refused =>
    rintro before groups argument rest rfl cut stops noHelp
    obtain ⟨e, refused, read⟩ := exists_refused stops noHelp
    have wrong : readArguments {} (before ++ argument :: rest) = .error e :=
      (readArguments_of_cut cut rfl _).trans (read _ (isSome_input_foldl groups {}))
    exact ⟨e, refused, wrong, run_of_error store wrong s⟩
  case complete =>
    obtain ⟨before, groups, rest, rfl, cut, stops⟩ := exists_cut false arguments
    cases rest with
    | nil => exact .inl ⟨groups, by rwa [List.append_nil]⟩
    | cons argument rest => exact .inr ⟨before, groups, argument, rest, rfl, cut, stops⟩
  case exchange =>
    rintro before groups words first words' second after rfl cut spells spells' apart
    have alike := readsAlike_exchange cut spells spells' apart after
    exact ⟨alike, alike.run_eq host⟩

/-- A value that looks like an option is one no more, a later equals sign splits nothing, and a module
may be given before the input. -/
theorem arguments_read_books :
    let host := Machine.host ["w"] ""
    let arguments := ["-o", "-v", "books.json", "-m", "A=b=c"]
    (∃ options, readArguments {} arguments = .ok (.run options) ∧
      options.output = some "-v" ∧ options.verbose = false ∧
      options.modules.lookup "A" = some "b=c") ∧
    run host ["-o", "-v", "-m", "A=b=c", "books.json"] = run host arguments := by
  intro host arguments
  have output (given : Bool) : Spells given ["-o", "-v"] (.output "-v") :=
    .valued (by decide) (by decide) (.output "-v")
  have books : Spells false ["books.json"] (.positional "books.json") :=
    .positional (by decide) rfl
  have means : Means .module "A=b=c" (.module "A" "b=c") :=
    @Means.module "A" "b=c" (by decide) (by decide) (by decide)
  have module (given : Bool) : Spells given ["-m", "A=b=c"] (.module "A" "b=c") :=
    .valued (by decide) (by decide) means
  obtain ⟨accepted, -, -, -, exchange⟩ :=
    arguments_read (Machine.storage ["w"] "") arguments .withBooks
  constructor
  · obtain ⟨options, read, last⟩ :=
      accepted _ (.cons (output _) (.cons books (.cons (module _) (.nil _))))
    refine ⟨options, read, last.output, ?_, (last.modules "A").trans (by decide)⟩
    simpa using last.verbose
  · exact (exchange ["-o", "-v"] _ _ _ _ _ [] rfl (.cons (output _) (.nil _)) books (module _)
      Topic.noConfusion).2

end

end ServiceWriter.CommandLine
