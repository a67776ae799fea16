import ServiceWriter.CommandLine.Run
import ServiceWriter.Proofs.CommandLine.Storage
import ServiceWriter.Proofs.Service.Pipeline

/-!
# A run delivers the source text or nothing

A run of the program ends in one of a few ways (`Ends`), and only in one of them it writes anything
but a log and the help text: if the exit code is zero and no help was asked for, then the source
text of the service that the input describes is on the stream for results, or in the output file and
nowhere else. The source text does not depend on where it goes or on what is said on the way, so
that the file holds what a run without `-o` and `-v` prints (`run_all_or_nothing`).
-/

set_option autoImplicit false

namespace ServiceWriter.CommandLine

open Text

/-! ## Arguments -/

/-- The options of a run that prints the source text and says nothing else. -/
def Options.plain (options : Options) : Options := { options with output := none, verbose := false }

/-- The arguments without those that name an output file or ask for a log. -/
def plainArguments : List String → List String
  | [] => []
  | argument :: rest =>
    match ValuedOption.ofArgument argument with
    | some option =>
      match rest with
      | [] => [argument]
      | value :: rest =>
        if option = .output then plainArguments rest else argument :: value :: plainArguments rest
    | none =>
      if argument = "-v" || argument = "--verbose" then plainArguments rest
      else argument :: plainArguments rest

/-- An option other than the output file is taken in alike. -/
theorem Options.set_plain {options options' : Options} {option : ValuedOption} {value : String}
    (ne : option ≠ .output) (taken : options.set option value = .ok options') :
    options.plain.set option value = .ok options'.plain := by
  cases option with
  | output => exact absurd rfl ne
  | input => rw [← Except.ok.inj taken]; rfl
  | space => rw [← Except.ok.inj taken]; rfl
  | target =>
    simp only [set] at taken ⊢
    cases read : readTarget value with
    | ok target =>
      rw [read] at taken
      rw [← Except.ok.inj taken]
      rfl
    | error e =>
      rw [read] at taken
      cases taken
  | module =>
    simp only [set] at taken ⊢
    cases read : readMapping value with
    | ok mapping =>
      rw [read] at taken
      rw [← Except.ok.inj taken]
      simp only [Except.map]
      split <;> rfl
    | error e =>
      rw [read] at taken
      cases taken

theorem Options.plain_of_set_output {options options' : Options} {value : String}
    (taken : options.set .output value = .ok options') : options'.plain = options.plain := by
  rw [← Except.ok.inj taken]
  rfl

/-- The output file and the log that are asked for do not change how the other arguments are
read. -/
theorem readArguments_plain {options read : Options} {arguments : List String}
    (asked : readArguments options arguments = .ok (.run read)) :
    readArguments options.plain (plainArguments arguments) = .ok (.run read.plain) := by
  fun_induction readArguments options arguments with
  | case1 options =>
    cases asked
    rfl
  | case2 | case3 | case4 | case7 | case9 => cases asked
  | case5 options argument option spelt value rest nonempty options' taken ih =>
    by_cases output : option = .output
    · subst output
      rw [plainArguments, spelt, ← Options.plain_of_set_output taken]
      exact ih asked
    · rw [plainArguments, spelt]
      simp only [if_neg output]
      rw [readArguments, spelt]
      simp only [if_neg nonempty, Options.set_plain output taken]
      exact ih asked
  | case6 options argument rest spelt verbose ih =>
    rw [plainArguments, spelt]
    simp only [if_pos verbose]
    exact ih asked
  | case8 options argument rest spelt silent go free ih =>
    rw [plainArguments, spelt]
    simp only [if_neg silent]
    rw [readArguments, spelt]
    simp only [if_neg silent, if_neg go]
    rw [if_pos (show (argument.toList.head? != some '-' && options.plain.input.isNone) = true
      from free)]
    exact ih asked

/-! ## What is generated -/

/-- The source text that is asked for, as a generator gives it that says nothing. -/
def Options.sourceOf (options : Options) (service : ServiceDescription) :
    Except Failure String :=
  ((Generator.generateSource {} (.ok .standard) service options.source).run.run []).1

/-- What is said while it is generated. -/
def Options.log (options : Options) (service : ServiceDescription) : List String :=
  decorationLog options.verbose (serviceClassName service.name.shown) ++
    emissionLog options.verbose (serviceClassName service.name.shown) (.language options.target)

theorem generate_eq (options : Options) (notJson subject : String) (bytes : ByteArray) :
    generate options notJson subject bytes =
      match ServiceDescription.ofText (ofUtf8 bytes) subject notJson with
      | .error defect => ([], .error defect.message)
      | .ok service =>
        (options.log service, (options.sourceOf service).mapError failureMessage) := by
  unfold generate
  cases ServiceDescription.ofText (ofUtf8 bytes) subject notJson with
  | error defect => rfl
  | ok service =>
    simp only [Options.sourceOf, Options.generator, run_generateSource_log, List.nil_append]
    rfl

/-- Lines on a stream. -/
def linesText : List String → String
  | [] => ""
  | text :: rest => text ++ "\n" ++ linesText rest

theorem linesText_append (texts texts' : List String) :
    linesText (texts ++ texts') = linesText texts ++ linesText texts' := by
  induction texts with
  | nil => exact String.empty_append.symm
  | cons text rest ih => simp only [List.cons_append, linesText, ih, String.append_assoc]

/-! ## How a run ends -/

/-- What is said of an output file that was written. -/
def Options.receipt (options : Options) (path : Path) : List String :=
  if options.verbose then ["Generated: " ++ path.text] else []

section

variable {σ : Type} {host : Host (StateM σ)}

/-- One action is run after the other. -/
theorem run_bind {α β : Type} (action : StateM σ α) (next : α → StateM σ β) (s : σ) :
    (action >>= next).run s = (next (action.run s).1).run (action.run s).2 :=
  rfl

/-- The host finds something there and reads these bytes. -/
structure Reads (host : Host (StateM σ)) (path : Path) (s : σ) (bytes : ByteArray) : Prop where
  isThere : ((host.isThere path).run s).1 = true
  read : ((host.read path).run ((host.isThere path).run s).2).1 = .ok bytes

theorem exit_fail (input message : String) (s : σ) : ((fail host input message).run s).1 = 1 := rfl

variable (store : Storage host)

namespace Storage

theorem view_outLines (texts : List String) (s : σ) :
    store.view ((outLines host texts).run s).2 = (store.view s).print (linesText texts) := by
  induction texts generalizing s with
  | nil => exact (View.print_empty _).symm
  | cons text rest ih =>
    rw [outLines, run_bind, ih, store.out, View.print_print]
    rfl

theorem view_fail (input message : String) (s : σ) :
    store.view ((fail host input message).run s).2 = store.view s := by
  rw [fail, run_bind, run_bind]
  exact (store.complain _ _).trans (store.complain _ _)

/-- What the view becomes when a source text is delivered. -/
def delivered (host : Host (StateM σ)) (options : Options) (source : String) (view : View) :
    View :=
  match options.output with
  | none => view.print source
  | some output =>
    let path := Path.resolve host.workingDirectory output
    (view.put path source).print (linesText (options.receipt path))

theorem deliver_none {options : Options} (printed : options.output = none)
    (input source : String) (s : σ) :
    ((deliver host options input source).run s).1 = 0 ∧
      store.view ((deliver host options input source).run s).2 =
        (store.view s).print source := by
  unfold deliver
  rw [printed]
  exact ⟨rfl, store.out source s⟩

/-- A source text is delivered, or nothing is changed. -/
theorem deliver_or_fail (options : Options) (input source : String) (s : σ) :
    (((deliver host options input source).run s).1 = 0 ∧
      store.view ((deliver host options input source).run s).2 =
        delivered host options source (store.view s)) ∨
    (((deliver host options input source).run s).1 = 1 ∧
      store.view ((deliver host options input source).run s).2 = store.view s) := by
  cases printed : options.output with
  | none =>
    rw [delivered, printed]
    exact .inl (store.deliver_none printed input source s)
  | some output =>
    rw [delivered, printed]
    unfold deliver
    simp only [printed, run_bind]
    have unmade := store.makeDirectory (Path.resolve host.workingDirectory output).parent s
    generalize (host.makeDirectory _).run s = made at unmade ⊢
    obtain ⟨result, s₁⟩ := made
    cases result with
    | error message => exact .inr ⟨rfl, (store.view_fail _ _ _).trans unmade⟩
    | ok =>
      simp only [run_bind]
      have wrote := store.write_ok (Path.resolve host.workingDirectory output) source s₁
      have unwritten := store.write_error (Path.resolve host.workingDirectory output) source s₁
      generalize (host.write _ source).run s₁ = written at wrote unwritten ⊢
      obtain ⟨result, s₂⟩ := written
      cases result with
      | error message =>
        exact .inr ⟨rfl, (store.view_fail _ _ _).trans ((unwritten message rfl).trans unmade)⟩
      | ok =>
        have put : store.view s₂ = (store.view s).put _ source := (wrote rfl).trans (by rw [unmade])
        refine .inl ?_
        rw [← put, Options.receipt]
        cases options.verbose with
        | false => exact ⟨rfl, (View.print_empty _).symm⟩
        | true => exact ⟨rfl, (store.out _ s₂).trans (congrArg _ String.append_empty.symm)⟩

end Storage

/-- How a run on an input ends: with an exit code, and a view that comes of the view before. -/
inductive Ends (store : Storage host) (options : Options) (input : String) (s : σ) :
    UInt32 → View → Prop
  /-- There is no input, or it describes no service. -/
  | undescribed : Ends store options input s 1 (store.view s)
  /-- The source text was refused, or could not be written. -/
  | undelivered (bytes : ByteArray) (service : ServiceDescription)
      (reads : Reads host (Path.resolve host.workingDirectory input) s bytes)
      (describes : ServiceDescription.ofText (ofUtf8 bytes)
        (Path.resolve host.workingDirectory input).text host.notJson = .ok service) :
      Ends store options input s 1 ((store.view s).print (linesText (options.log service)))
  | delivered (bytes : ByteArray) (service : ServiceDescription) (source : String)
      (reads : Reads host (Path.resolve host.workingDirectory input) s bytes)
      (describes : ServiceDescription.ofText (ofUtf8 bytes)
        (Path.resolve host.workingDirectory input).text host.notJson = .ok service)
      (accepted : options.sourceOf service = .ok source) :
      Ends store options input s 0 (Storage.delivered host options source
        ((store.view s).print (linesText (options.log service))))

/-- What a run does with the bytes of its input. -/
def processBytes (host : Host (StateM σ)) (options : Options) (input : String)
    (bytes : ByteArray) : StateM σ UInt32 := do
  let (log, result) := generate options host.notJson
    (Path.resolve host.workingDirectory input).text bytes
  outLines host log
  match result with
  | .error message => fail host input message
  | .ok source => deliver host options input source

theorem run_process {options : Options} {input : String} {s : σ} {bytes : ByteArray}
    (reads : Reads host (Path.resolve host.workingDirectory input) s bytes) :
    (process host options input).run s =
      (processBytes host options input bytes).run
        ((host.read (Path.resolve host.workingDirectory input)).run
          ((host.isThere (Path.resolve host.workingDirectory input)).run s).2).2 := by
  rw [process, run_bind, reads.isThere]
  change StateT.run (host.read _ >>= _) _ = _
  rw [run_bind, reads.read]
  rfl

namespace Storage

/-- Bytes that describe a service are generated from, with a log, and what comes of that is
delivered. -/
theorem exists_run_processBytes (options : Options) (input : String) (s : σ) {bytes : ByteArray}
    {service : ServiceDescription}
    (describes : ServiceDescription.ofText (ofUtf8 bytes)
      (Path.resolve host.workingDirectory input).text host.notJson = .ok service) :
    ∃ s', store.view s' = (store.view s).print (linesText (options.log service)) ∧
      (processBytes host options input bytes).run s =
        (match options.sourceOf service with
          | .error failure => fail host input (failureMessage failure)
          | .ok source => deliver host options input source).run s' := by
  refine ⟨_, store.view_outLines (options.log service) s, ?_⟩
  simp only [processBytes, generate_eq, describes, run_bind]
  cases options.sourceOf service with
  | error failure => rfl
  | ok source => rfl

theorem ends_processBytes (options : Options) (input : String) {s s' : σ} {bytes : ByteArray}
    (reads : Reads host (Path.resolve host.workingDirectory input) s bytes)
    (same : store.view s' = store.view s) :
    Ends store options input s ((processBytes host options input bytes).run s').1
      (store.view ((processBytes host options input bytes).run s').2) := by
  cases describes : ServiceDescription.ofText (ofUtf8 bytes)
      (Path.resolve host.workingDirectory input).text host.notJson with
  | error defect =>
    simp only [processBytes, generate_eq, describes]
    change Ends store options input s 1 (store.view ((fail host input defect.message).run _).2)
    rw [store.view_fail, same]
    exact .undescribed
  | ok service =>
    obtain ⟨s'', said, run⟩ := store.exists_run_processBytes options input s' describes
    rw [same] at said
    rw [run]
    cases accepted : options.sourceOf service with
    | error failure =>
      rw [exit_fail, store.view_fail, said]
      exact .undelivered bytes service reads describes
    | ok source =>
      obtain ⟨code, view⟩ | ⟨code, view⟩ := store.deliver_or_fail options input source s''
      · rw [code, view, said]
        exact .delivered bytes service source reads describes accepted
      · rw [code, view, said]
        exact .undelivered bytes service reads describes

theorem ends_process (options : Options) (input : String) (s : σ) :
    Ends store options input s ((process host options input).run s).1
      (store.view ((process host options input).run s).2) := by
  have seen := store.isThere (Path.resolve host.workingDirectory input) s
  have taken := store.read (Path.resolve host.workingDirectory input)
    ((host.isThere (Path.resolve host.workingDirectory input)).run s).2
  cases isThere : ((host.isThere (Path.resolve host.workingDirectory input)).run s).1 with
  | false =>
    rw [process, run_bind, isThere]
    change Ends store options input s 1 (store.view ((host.complain _).run _).2)
    rw [store.complain, seen]
    exact .undescribed
  | true =>
    cases read : ((host.read (Path.resolve host.workingDirectory input)).run
        ((host.isThere (Path.resolve host.workingDirectory input)).run s).2).1 with
    | error message =>
      rw [process, run_bind, isThere]
      change Ends store options input s (StateT.run (host.read _ >>= _) _).1
        (store.view (StateT.run (host.read _ >>= _) _).2)
      rw [run_bind, read]
      change Ends store options input s 1 (store.view ((fail host input message).run _).2)
      rw [store.view_fail, taken, seen]
      exact .undescribed
    | ok bytes =>
      have reads : Reads host (Path.resolve host.workingDirectory input) s bytes :=
        ⟨isThere, read⟩
      rw [run_process reads]
      exact store.ends_processBytes options input reads (taken.trans seen)

end Storage

/-- The service that the input file of a run describes. -/
def Describes (host : Host (StateM σ)) (options : Options) (view : View)
    (service : ServiceDescription) : Prop :=
  ∃ input bytes, options.input = some input ∧
    view.files (Path.resolve host.workingDirectory input) = some bytes ∧
    ServiceDescription.ofText (ofUtf8 bytes) (Path.resolve host.workingDirectory input).text
      host.notJson = .ok service

theorem Reads.describes {options : Options} {input : String} {s : σ} {bytes : ByteArray}
    {service : ServiceDescription}
    (reads : Reads host (Path.resolve host.workingDirectory input) s bytes)
    (given : options.input = some input)
    (describes : ServiceDescription.ofText (ofUtf8 bytes)
      (Path.resolve host.workingDirectory input).text host.notJson = .ok service) :
    Describes host options (store.view s) service := by
  refine ⟨input, bytes, given, ?_, describes⟩
  rw [← store.isThere (Path.resolve host.workingDirectory input) s]
  exact store.holds _ _ _ reads.read

/-- A run that is asked to print the source text of the service does. -/
theorem Reads.plain {options : Options} {input source : String} {s : σ} {bytes : ByteArray}
    {service : ServiceDescription}
    (reads : Reads host (Path.resolve host.workingDirectory input) s bytes)
    (describes : ServiceDescription.ofText (ofUtf8 bytes)
      (Path.resolve host.workingDirectory input).text host.notJson = .ok service)
    (accepted : options.sourceOf service = .ok source) :
    ((process host options.plain input).run s).1 = 0 ∧
      store.view ((process host options.plain input).run s).2 = (store.view s).print source := by
  obtain ⟨s', said, run⟩ := store.exists_run_processBytes options.plain input
    ((host.read (Path.resolve host.workingDirectory input)).run
      ((host.isThere (Path.resolve host.workingDirectory input)).run s).2).2 describes
  have silent : linesText (options.plain.log service) = "" := rfl
  rw [silent, View.print_empty, store.read, store.isThere] at said
  have same : options.plain.sourceOf service = .ok source := accepted
  rw [run_process reads, run, same, ← said]
  exact store.deliver_none rfl input source s'

section

variable {arguments : List String}

theorem run_of_error {e : ArgumentError} (wrong : readArguments {} arguments = .error e) (s : σ) :
    ((run host arguments).run s).1 = 1 ∧
      store.view ((run host arguments).run s).2 = store.view s := by
  simp only [run, wrong]
  exact ⟨rfl, store.complain _ s⟩

theorem run_of_help (asked : readArguments {} arguments = .ok .help) (s : σ) :
    ((run host arguments).run s).1 = 0 ∧
      store.view ((run host arguments).run s).2 = (store.view s).print helpText := by
  simp only [run, asked]
  exact ⟨rfl, store.out helpText s⟩

variable {options : Options} (asked : readArguments {} arguments = .ok (.run options))
include asked

theorem run_of_no_input (missing : options.input = none) (s : σ) :
    ((run host arguments).run s).1 = 1 ∧
      store.view ((run host arguments).run s).2 = (store.view s).print helpText := by
  simp only [run, asked, missing]
  exact ⟨rfl, store.out helpText s⟩

omit store in
theorem run_of_input {input : String} (given : options.input = some input) :
    run host arguments = process host options input := by
  simp only [run, asked, given]

end

/-- **A run delivers the source text or nothing.** On a machine that does what the operations on
files and streams say, and whatever the arguments are:

- A run that ends with another exit code than zero leaves all files as they are. It prints nothing
  but the help text or the log.
- A run that ends with zero gave help, or the source text of the service that the input describes.
  If no output file is named, it leaves all files as they are and prints the log and the source
  text.
- If an output file is named, this file holds the source text in UTF-8, the others are as they were
  and only log is printed. Without `-o` and `-v`, the same arguments have the same source text
  printed, and nothing else. -/
theorem run_all_or_nothing (arguments : List String) (s : σ) :
    let code := ((run host arguments).run s).1
    let before := store.view s
    let after := store.view ((run host arguments).run s).2
    (code ≠ 0 → after.files = before.files ∧
      (after.out = before.out ∨ after.out = before.out ++ helpText ∨
        ∃ options service, readArguments {} arguments = .ok (.run options) ∧
          Describes host options before service ∧
          after.out = before.out ++ linesText (options.log service))) ∧
    (code = 0 →
      (readArguments {} arguments = .ok .help ∧ after.files = before.files ∧
        after.out = before.out ++ helpText) ∨
      ∃ options service source, readArguments {} arguments = .ok (.run options) ∧
        Describes host options before service ∧ options.sourceOf service = .ok source ∧
        match options.output with
        | none => after.files = before.files ∧
          after.out = before.out ++ linesText (options.log service) ++ source
        | some output =>
          let path := Path.resolve host.workingDirectory output
          after.files path = some source.toUTF8 ∧
            (∀ other, other ≠ path → after.files other = before.files other) ∧
            after.out = before.out ++ linesText (options.log service ++ options.receipt path) ∧
            let plain := (run host (plainArguments arguments)).run s
            plain.1 = 0 ∧ (store.view plain.2).files = before.files ∧
              (store.view plain.2).out = before.out ++ source) := by
  intro code before after
  cases asked : readArguments {} arguments with
  | error e =>
    obtain ⟨exit, view⟩ : code = 1 ∧ after = before := run_of_error store asked s
    rw [exit, view]
    exact ⟨fun _ => ⟨rfl, .inl rfl⟩, fun zero => absurd zero (by decide)⟩
  | ok request =>
    cases request with
    | help =>
      obtain ⟨exit, view⟩ : code = 0 ∧ after = before.print helpText := run_of_help store asked s
      rw [exit, view]
      exact ⟨fun nonzero => absurd rfl nonzero, fun _ => .inl ⟨rfl, rfl, rfl⟩⟩
    | run options =>
      cases given : options.input with
      | none =>
        obtain ⟨exit, view⟩ : code = 1 ∧ after = before.print helpText :=
          run_of_no_input store asked given s
        rw [exit, view]
        exact ⟨fun _ => ⟨rfl, .inr (.inl rfl)⟩, fun zero => absurd zero (by decide)⟩
      | some input =>
        have ends : Ends store options input s code after := by
          simp only [code, after, run_of_input asked given]
          exact store.ends_process options input s
        clear_value code after
        cases ends with
        | undescribed => exact ⟨fun _ => ⟨rfl, .inl rfl⟩, fun zero => absurd zero (by decide)⟩
        | undelivered bytes service reads describes =>
          refine ⟨fun _ => ⟨rfl, .inr (.inr ⟨options, service, rfl, ?_, rfl⟩)⟩,
            fun zero => absurd zero (by decide)⟩
          exact reads.describes store given describes
        | delivered bytes service source reads describes accepted =>
          refine ⟨fun nonzero => absurd rfl nonzero, fun _ =>
            .inr ⟨options, service, source, rfl, reads.describes store given describes,
              accepted, ?_⟩⟩
          cases printed : options.output with
          | none =>
            simp only [Storage.delivered, printed]
            exact ⟨rfl, rfl⟩
          | some output =>
            have plain := reads.plain store describes accepted
            have same : run host (plainArguments arguments) = process host options.plain input :=
              run_of_input (readArguments_plain asked) given
            simp only [Storage.delivered, printed, same]
            refine ⟨View.files_put_self _ _ _, fun other ne => View.files_put_of_ne _ _ ne, ?_,
              plain.1, ?_, ?_⟩
            · rw [linesText_append, ← String.append_assoc]
              rfl
            · rw [plain.2, View.files_print]
            · rw [plain.2, View.out_print]

/-- A machine on which a document lies. -/
def Machine.withBooks : Machine where
  tree := { files := [(["w", "books.json"], "\x7b\"name\": \"books\"\x7d")] }

/-- The file holds what is printed without the file. -/
theorem run_all_or_nothing_books :
    let arguments := ["books.json", "-o", "out/Books.cs", "-v"]
    let after := ((run (Machine.host ["w"] "") arguments).run .withBooks)
    after.1 = 0 ∧ plainArguments arguments = ["books.json"] ∧
      ∃ source, after.2.view.files ["w", "out", "Books.cs"] = some source.toUTF8 ∧
        ((run (Machine.host ["w"] "") ["books.json"]).run .withBooks).2.out = source := by
  intro arguments after
  have ended : after.1 = 0 := by decide +kernel
  have read : readArguments {} arguments = .ok (.run {
      input := some "books.json", output := some "out/Books.cs", verbose := true }) := by
    decide +kernel
  have path : Path.resolve ["w"] "out/Books.cs" = ["w", "out", "Books.cs"] := by decide +kernel
  have plain : plainArguments arguments = ["books.json"] := by decide +kernel
  refine ⟨ended, plain, ?_⟩
  obtain ⟨help, _⟩ | ⟨options, service, source, asked, _, _, delivered⟩ :=
    (run_all_or_nothing (Machine.storage ["w"] "") arguments .withBooks).2 ended
  · rw [read] at help
    cases help
  · rw [read] at asked
    cases asked
    rw [plain] at delivered
    obtain ⟨holds, _, _, _, _, printed⟩ := delivered
    refine ⟨source, ?_, printed.trans String.empty_append⟩
    rw [← path]
    exact holds

end

end ServiceWriter.CommandLine
