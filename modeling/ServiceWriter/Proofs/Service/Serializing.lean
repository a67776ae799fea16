import ServiceWriter.Proofs.Execution.Rules
import ServiceWriter.Proofs.Service.MemberNames

/-!
# Serializing through the capability

The ObjectToJson capability, run on an instance of its own. The field is null until the method is
called for the first time; that call creates the serializer, with settings that are complete by then,
and all calls write with it (`capability_runs`). What each call does to the outside is known to the
last operation: a call creates its writer, obtains the serializer, writes and asks for the text.

The members know each other by name, so that the names of the three must differ.
-/

set_option autoImplicit false

namespace ServiceWriter

open Run

/-! ## Kinds of operations -/

namespace Operation

/-- Whether an object of the type is created. -/
def isCreate (type : String) : Operation → Bool
  | .create created _ => created == type
  | _ => false

/-- Whether a method of the name is called, of whatever target. -/
def isCall (method : String) : Operation → Bool
  | .call _ called _ => called == method
  | _ => false

/-- Whether a member is written. -/
def isWrite : Operation → Bool
  | .write _ _ _ => true
  | _ => false

end Operation

namespace ObjectToJson

/-! ## The members -/

/-- The class has the three members under their names. -/
structure IsKnownTo (names : ObjectToJsonNames) (c : ClassDecl) : Prop where
  field : c.member? names.fieldName = some (.field (field names))
  property : c.member? names.propertyName = some (.property (property names))
  method : c.member? names.methodName = some (.method (method names))

variable {names : ObjectToJsonNames} {c : ClassDecl} {world : World}

/-- In a class of the three members alone they are found, if their names differ. -/
theorem isKnownTo_of_areDistinct (apart : names.AreDistinct) (made : c.members = members names) :
    IsKnownTo names c := by
  obtain ⟨propertyNe, methodNe, methodNe'⟩ := apart
  constructor
  · simp [ClassDecl.member?, made, members, Member.name, ObjectToJson.field]
  · simp [ClassDecl.member?, made, members, Member.name, ObjectToJson.field,
      ObjectToJson.property, propertyNe.symm]
  · simp [ClassDecl.member?, made, members, Member.name, ObjectToJson.field,
      ObjectToJson.property, ObjectToJson.method, methodNe.symm, methodNe'.symm]

/-- Creating a serializer never gives null. -/
def CreatesSerializers (world : World) : Prop :=
  ∀ trace arguments,
    world trace (.call (.type serializerType) "Create" arguments) ≠ .constant .null

/-! ## What is done to the outside -/

/-- What the creation of the serializer does. -/
def creationEvents (settings ignore done serializer : Thing) : List Event := [
  ⟨.create settingsType [], settings⟩,
  ⟨.read (.type nullHandlingType) "Ignore", ignore⟩,
  ⟨.write (.outside settings) "NullValueHandling" (.outside ignore), done⟩,
  ⟨.call (.type serializerType) "Create" [.outside settings], serializer⟩]

/-- What writing an argument does. -/
def writingEvents (serializer writer done text : Thing) (argument : Value) : List Event := [
  ⟨.call (.outside serializer) "Serialize" [.outside writer, argument], done⟩,
  ⟨.call (.outside writer) "ToString" [], text⟩]

/-! ## The property -/

/-- **The creation of the serializer** stores it in the field, whatever is there. -/
theorem does_creation {invoke : Frame → List Stmt → Run Value} (known : IsKnownTo names c)
    (creates : CreatesSerializers world) {s : Machine} {old : Value}
    (held : s.fields.lookup names.fieldName = some old) :
    ∃ frame settings ignore done serializer, serializer ≠ .constant .null ∧
      Does (executeAll world c invoke {} (creation names)) s (.goesOn frame)
        ⟨setEntry names.fieldName (.outside serializer) s.fields,
          s.trace ++ creationEvents settings ignore done serializer⟩ := by
  let settings := Thing.made s.trace.length
  let s₁ := s.did (.create settingsType []) settings
  let ignore := world s₁.trace (.read (.type nullHandlingType) "Ignore")
  let s₂ := s₁.did (.read (.type nullHandlingType) "Ignore") ignore
  let handling := Operation.write (.outside settings) "NullValueHandling" (.outside ignore)
  let done := world s₂.trace handling
  let s₃ := s₂.did handling done
  let creation := Operation.call (.type serializerType) "Create" [.outside settings]
  let serializer := world s₃.trace creation
  let s₄ := s₃.did creation serializer
  let frame : Frame := { locals := [(names.settingsVariable, .outside settings)] }
  have named : frame.locals.lookup names.settingsVariable = some (.outside settings) :=
    List.lookup_cons_self
  have declared : Does (execute world c invoke {} (.declare (.plain settingsType)
      names.settingsVariable (some (.create (.plain settingsType) [])))) s (.goesOn frame) s₁ :=
    execute_declare (evaluate_create (evaluateAll_nil s))
  have configured : Does (execute world c invoke frame
      (.assign (.property (.variableRef names.settingsVariable) "NullValueHandling")
        (.field (.typeName (.plain nullHandlingType)) "Ignore"))) s₁ (.goesOn frame) s₃ :=
    execute_assign_property (evaluate_variableRef named s₁)
      (evaluate_field (evaluate_typeName _ s₁) (readMember_elsewhere (Value.isElsewhere_type _) s₁))
      (writeMember_elsewhere (Value.isElsewhere_made _) s₂)
  have stored : Does (execute world c invoke frame
      (.assign (.field .this names.fieldName)
        (.invoke (.typeName (.plain serializerType)) "Create"
          [.variableRef names.settingsVariable]))) s₃ (.goesOn frame)
      { s₄ with fields := setEntry names.fieldName (.outside serializer) s.fields } :=
    execute_assign_field (evaluate_this s₃)
      (evaluate_invoke (evaluate_typeName _ s₃)
        (evaluateAll_cons (evaluate_variableRef named s₃) (evaluateAll_nil s₃))
        (callMember_elsewhere (Value.isElsewhere_type _) s₃))
      (writeMember_self_field known.field held)
  have trace : s₄.trace = s.trace ++ creationEvents settings ignore done serializer := by
    simp [s₄, s₃, s₂, s₁, Machine.did, creationEvents, handling, creation]
  refine ⟨frame, settings, ignore, done, serializer, creates _ _, ?_⟩
  rw [← trace]
  exact executeAll_goesOn declared (executeAll_goesOn configured
    (executeAll_goesOn stored (executeAll_nil _)))

variable {invoke : Frame → List Stmt → Run Value} {s : Machine} {value : Value}

/-- Reading the field, as the getter does. -/
theorem does_read_field (known : IsKnownTo names c)
    (held : s.fields.lookup names.fieldName = some value) (frame : Frame) :
    Does (evaluate world c invoke frame (.field .this names.fieldName)) s value s :=
  evaluate_field (evaluate_this s) (readMember_self_field known.field held)

/-- The test of the getter. -/
theorem does_test (known : IsKnownTo names c)
    (held : s.fields.lookup names.fieldName = some value) (frame : Frame) :
    Does (evaluate world c invoke frame
      (.binary (.field .this names.fieldName) .identityEquality (.literal .null))) s
      (.ofBool (value == .null)) s := by
  rw [← value.isEqual_null]
  exact evaluate_identityEquality (does_read_field known held frame) (evaluate_literal .null s)

/-- The getter on a field that is null creates the serializer. -/
theorem does_getter_unset (known : IsKnownTo names c) (creates : CreatesSerializers world)
    (unset : s.fields.lookup names.fieldName = some .null) :
    ∃ settings ignore done serializer, serializer ≠ .constant .null ∧
      Does (executeAll world c invoke {} (property names).getter.body) s
        (.returns (.outside serializer))
        ⟨setEntry names.fieldName (.outside serializer) s.fields,
          s.trace ++ creationEvents settings ignore done serializer⟩ := by
  obtain ⟨frame, settings, ignore, done, serializer, proper, created⟩ :=
    @does_creation names c world invoke known creates s _ unset
  refine ⟨settings, ignore, done, serializer, proper, ?_⟩
  refine executeAll_goesOn (execute_condition_true (does_test known unset _) created) ?_
  exact executeAll_returns (execute_returns (does_read_field known (lookup_setEntry unset _) _))

/-- The getter on a field that holds the serializer only returns it. -/
theorem does_getter_set (known : IsKnownTo names c) {serializer : Thing}
    (proper : serializer ≠ .constant .null)
    (held : s.fields.lookup names.fieldName = some (.outside serializer)) :
    Does (executeAll world c invoke {} (property names).getter.body) s
      (.returns (.outside serializer)) s := by
  have test := @does_test names c world invoke s _ known held {}
  have differ : (Value.outside serializer == .null) = false :=
    beq_eq_false_iff_ne.mpr fun same => proper (Value.outside.inj same)
  rw [differ] at test
  refine executeAll_goesOn (execute_condition_false test (executeAll_nil s)) ?_
  exact executeAll_returns (execute_returns (does_read_field known held _))

/-! ## The method -/

/-- **The method** writes its argument with the serializer that the property gives, to a writer of its
own, and returns what the writer then says. -/
theorem does_method (known : IsKnownTo names c) {depth : Nat} {serializer : Thing}
    (proper : serializer ≠ .constant .null) (argument : Value) {s' : Machine}
    (obtained : Does (runBody world c (depth + 1) {} (property names).getter.body)
      (s.did (.create stringWriterType []) (.made s.trace.length)) (.outside serializer) s') :
    ∃ done text,
      Does (callMember world c (runBody world c (depth + 2)) .self names.methodName [argument]) s
        (.outside text)
        ⟨s'.fields,
          s'.trace ++ writingEvents serializer (.made s.trace.length) done text argument⟩ := by
  let writer := Value.outside (.made s.trace.length)
  let s₁ := s.did (.create stringWriterType []) (.made s.trace.length)
  let serialize := Operation.call (.outside serializer) "Serialize" [writer, argument]
  let done := world s'.trace serialize
  let s₂ := s'.did serialize done
  let toString := Operation.call writer "ToString" []
  let text := world s₂.trace toString
  let s₃ := s₂.did toString text
  let frame : Frame :=
    { arguments := [(names.parameterName, argument)], locals := [(names.writerVariable, writer)] }
  have isWriter : frame.locals.lookup names.writerVariable = some writer := List.lookup_cons_self
  have isArgument : frame.arguments.lookup names.parameterName = some argument :=
    List.lookup_cons_self
  have declared : Does (execute world c (runBody world c (depth + 1))
      { arguments := [(names.parameterName, argument)] }
      (.declare (.plain writerType) names.writerVariable
        (some (.create (.plain stringWriterType) [])))) s (.goesOn frame) s₁ :=
    execute_declare (evaluate_create (evaluateAll_nil s))
  have written : Does (execute world c (runBody world c (depth + 1)) frame
      (.expression (.invoke (.property .this names.propertyName) "Serialize"
        [.variableRef names.writerVariable, .argumentRef names.parameterName]))) s₁
      (.goesOn frame) s₂ :=
    execute_expression (evaluate_invoke
      (evaluate_property (evaluate_this s₁) (readMember_self_property known.property rfl obtained))
      (evaluateAll_cons (evaluate_variableRef isWriter s')
        (evaluateAll_cons (evaluate_argumentRef isArgument s') (evaluateAll_nil s')))
      (callMember_elsewhere (Value.isElsewhere_outside proper) s'))
  have returned : Does (execute world c (runBody world c (depth + 1)) frame
      (.returns (some (.invoke (.variableRef names.writerVariable) "ToString" [])))) s₂
      (.returns (.outside text)) s₃ :=
    execute_returns (evaluate_invoke (evaluate_variableRef isWriter s₂) (evaluateAll_nil s₂)
      (callMember_elsewhere (Value.isElsewhere_made _) s₂))
  have trace : s₃ = ⟨s'.fields,
      s'.trace ++ writingEvents serializer (.made s.trace.length) done text argument⟩ := by
    simp [s₃, s₂, Machine.did, writingEvents, serialize, toString, writer]
  refine ⟨done, text, ?_⟩
  rw [← trace]
  exact callMember_self known.method rfl (runBody_returns (executeAll_goesOn declared
    (executeAll_goesOn written (executeAll_returns returned))))

/-! ## Calls -/

/-- What a call does: it creates a writer, does what it takes to obtain the serializer, and writes. -/
def Writes (serializer : Thing) (obtaining : List Event) (call : Call) : Prop :=
  ∃ writer done text,
    call.events = ⟨.create stringWriterType [], writer⟩ ::
      (obtaining ++ writingEvents serializer writer done text call.argument) ∧
    call.result = .outside text

/-- The field of the instance holds the serializer. -/
def Holds (names : ObjectToJsonNames) (serializer : Thing) (s : Machine) : Prop :=
  serializer ≠ .constant .null ∧ s.fields.lookup names.fieldName = some (.outside serializer)

/-- A call that obtains the serializer leaves it where it is. -/
theorem exists_does_call (known : IsKnownTo names c) {depth : Nat} {serializer : Thing}
    {obtaining : List Event} (argument : Value) {s' : Machine} (holds : Holds names serializer s')
    (trace : s'.trace = s.trace ++ ⟨.create stringWriterType [], .made s.trace.length⟩ :: obtaining)
    (obtained : Does (runBody world c (depth + 1) {} (property names).getter.body)
      (s.did (.create stringWriterType []) (.made s.trace.length)) (.outside serializer) s') :
    ∃ made s'', Does (Run.call world c (depth + 2) names.methodName argument) s made s'' ∧
      Holds names serializer s'' ∧ s''.trace = s.trace ++ made.events ∧
      made.argument = argument ∧ Writes serializer obtaining made := by
  obtain ⟨done, text, run⟩ := does_method known holds.1 argument obtained
  have after : s'.trace ++ writingEvents serializer (.made s.trace.length) done text argument =
      s.trace ++ (⟨.create stringWriterType [], .made s.trace.length⟩ ::
        (obtaining ++ writingEvents serializer (.made s.trace.length) done text argument)) := by
    simp [trace]
  rw [after] at run
  refine ⟨_, _, (does_get s).bind (run.bind ((does_get _).ret _)), holds, ?_, rfl,
    _, done, text, List.drop_left, rfl⟩
  exact congrArg (s.trace ++ ·) List.drop_left.symm

/-- The first call creates the serializer. -/
theorem exists_first_call (known : IsKnownTo names c) (creates : CreatesSerializers world)
    (unset : s.fields.lookup names.fieldName = some .null) (depth : Nat) (argument : Value) :
    ∃ settings ignore done serializer made s',
      Does (Run.call world c (depth + 2) names.methodName argument) s made s' ∧
      Holds names serializer s' ∧ s'.trace = s.trace ++ made.events ∧ made.argument = argument ∧
      Writes serializer (creationEvents settings ignore done serializer) made := by
  let s₁ := s.did (.create stringWriterType []) (.made s.trace.length)
  obtain ⟨settings, ignore, done, serializer, proper, got⟩ :=
    @does_getter_unset names c world (runBody world c depth) s₁ known creates unset
  have holds : Holds names serializer ⟨setEntry names.fieldName (.outside serializer) s₁.fields,
      s₁.trace ++ creationEvents settings ignore done serializer⟩ :=
    ⟨proper, lookup_setEntry unset _⟩
  have trace : s₁.trace ++ creationEvents settings ignore done serializer =
      s.trace ++ ⟨.create stringWriterType [], .made s.trace.length⟩ ::
        creationEvents settings ignore done serializer := by
    simp [s₁, Machine.did]
  exact ⟨settings, ignore, done, serializer,
    exists_does_call known argument holds trace (runBody_returns got)⟩

/-- A call that finds the serializer in the field takes it from there. -/
theorem exists_later_call (known : IsKnownTo names c) {serializer : Thing}
    (holds : Holds names serializer s) (depth : Nat) (argument : Value) :
    ∃ made s', Does (Run.call world c (depth + 2) names.methodName argument) s made s' ∧
      Holds names serializer s' ∧ s'.trace = s.trace ++ made.events ∧ made.argument = argument ∧
      Writes serializer [] made := by
  let s₁ := s.did (.create stringWriterType []) (.made s.trace.length)
  have holds₁ : Holds names serializer s₁ := holds
  have got := @does_getter_set names c world (runBody world c depth) s₁ known serializer holds.1
    holds.2
  exact exists_does_call known argument holds₁ rfl (runBody_returns got)

/-- **Later calls**, however many, all write with the serializer in the field. -/
theorem exists_later_calls (known : IsKnownTo names c) {serializer : Thing} (depth : Nat)
    (arguments : List Value) {s : Machine} (holds : Holds names serializer s) :
    ∃ calls s', Does (callEach world c (depth + 2) names.methodName arguments) s calls s' ∧
      Holds names serializer s' ∧ s'.trace = s.trace ++ calls.flatMap Call.events ∧
      calls.map Call.argument = arguments ∧ ∀ call ∈ calls, Writes serializer [] call := by
  induction arguments generalizing s with
  | nil => exact ⟨[], s, does_pure _ _, holds, (List.append_nil _).symm, rfl, List.forall_mem_nil _⟩
  | cons argument rest ih =>
    obtain ⟨first, s₁, run, holds₁, trace, same, writes⟩ :=
      @exists_later_call names c world s known serializer holds depth argument
    obtain ⟨calls, s₂, runs, holds₂, traces, sames, writesAll⟩ := ih holds₁
    refine ⟨first :: calls, s₂, run.bind (runs.ret _), holds₂, ?trace, ?arguments,
      List.forall_mem_cons.mpr ⟨writes, writesAll⟩⟩
    case trace => rw [traces, trace, List.flatMap_cons, List.append_assoc]
    case arguments => rw [List.map_cons, same, sames]

/-! ## Whole runs -/

/-- A fresh instance of the three members has one field, which is null. -/
theorem does_initialise (names : ObjectToJsonNames) (depth : Nat) (trace : List Event) :
    Does (initialise world c depth (members names)) ⟨[], trace⟩ ()
      ⟨[(names.fieldName, .null)], trace⟩ := by
  have value : Does (evaluateOption world c (runBody world c depth) {} (field names).initializer)
      ⟨[], trace⟩ .null ⟨[], trace⟩ :=
    evaluateOption_some (evaluate_literal .null _)
  exact value.bind ((does_modify _ _).bind (does_pure () _))

/-- Among the events a serializer is created, once, before anything is serialized, from settings that
were created and completed before: what was written to them is the value read as the one to ignore
null values. -/
def CreatesOnce (serializer : Thing) (events : List Event) : Prop :=
  ∃ before after settings ignore done,
    events = before ++
      ⟨.call (.type serializerType) "Create" [.outside settings], serializer⟩ :: after ∧
    (∀ e ∈ before, e.operation.isCall "Create" = false ∧ e.operation.isCall "Serialize" = false) ∧
    (∀ e ∈ after, e.operation.isCall "Create" = false) ∧
    ⟨.create settingsType [], settings⟩ ∈ before ∧
    ⟨.read (.type nullHandlingType) "Ignore", ignore⟩ ∈ before ∧
    before.filter (·.operation.isWrite) =
      [⟨.write (.outside settings) "NullValueHandling" (.outside ignore), done⟩]

/-- The call begins with the creation of a writer, the only one, serializes once, its argument with
the serializer to that writer, and ends with the text of the writer, which it returns. -/
def WritesOnce (serializer : Thing) (call : Call) : Prop :=
  ∃ writer done text,
    call.events.head? = some ⟨.create stringWriterType [], writer⟩ ∧
    call.events.filter (·.operation.isCreate stringWriterType) =
      [⟨.create stringWriterType [], writer⟩] ∧
    call.events.filter (·.operation.isCall "Serialize") =
      [⟨.call (.outside serializer) "Serialize" [.outside writer, call.argument], done⟩] ∧
    call.events.getLast? = some ⟨.call (.outside writer) "ToString" [], text⟩ ∧
    call.result = .outside text

/-- Creating the serializer neither creates a writer nor serializes. -/
theorem Writes.writesOnce {serializer : Thing} {obtaining : List Event} {call : Call}
    (writes : Writes serializer obtaining call)
    (quiet : ∀ e ∈ obtaining, e.operation.isCreate stringWriterType = false ∧
      e.operation.isCall "Serialize" = false) : WritesOnce serializer call := by
  obtain ⟨writer, done, text, events, result⟩ := writes
  have noWriter : obtaining.filter (·.operation.isCreate stringWriterType) = [] :=
    List.filter_eq_nil_iff.mpr fun e inside => by simp [(quiet e inside).1]
  have noSerialize : obtaining.filter (·.operation.isCall "Serialize") = [] :=
    List.filter_eq_nil_iff.mpr fun e inside => by simp [(quiet e inside).2]
  refine ⟨writer, done, text, ?first, ?writer, ?serialize, ?last, result⟩
  case first => rw [events, List.head?_cons]
  case writer =>
    simp only [events, List.filter_cons, List.filter_append, noWriter]
    simp [writingEvents, Operation.isCreate]
  case serialize =>
    simp only [events, List.filter_cons, List.filter_append, noSerialize]
    simp [writingEvents, Operation.isCall]
  case last =>
    rw [events, ← List.cons_append, List.getLast?_append]
    rfl

theorem quiet_creationEvents (settings ignore done serializer : Thing) :
    ∀ e ∈ creationEvents settings ignore done serializer,
      e.operation.isCreate stringWriterType = false ∧ e.operation.isCall "Serialize" = false := by
  simp [creationEvents, Operation.isCreate, Operation.isCall, settingsType, stringWriterType]

/-- Writing creates no serializer. -/
theorem quiet_writingEvents (serializer writer done text : Thing) (argument : Value) :
    ∀ e ∈ writingEvents serializer writer done text argument,
      e.operation.isCall "Create" = false := by
  simp [writingEvents, Operation.isCall]

theorem Writes.not_isCall_create {serializer : Thing} {call : Call}
    (writes : Writes serializer [] call) :
    ∀ e ∈ call.events, e.operation.isCall "Create" = false := by
  obtain ⟨writer, done, text, events, _⟩ := writes
  rw [events]
  exact List.forall_mem_cons.mpr ⟨rfl, quiet_writingEvents serializer writer done text _⟩

/-- **The capability serializes with one serializer.** Its method, called any number of times on a
fresh instance, creates a serializer in the first call and writes each argument with it. -/
theorem capability_runs (apart : names.AreDistinct) (made : c.members = members names)
    (creates : CreatesSerializers world) (depth : Nat) (past : List Event)
    {arguments : List Value} (called : arguments ≠ []) :
    ∃ calls s serializer,
      Does (useFresh world c (depth + 2) names.methodName arguments) ⟨[], past⟩ calls s ∧
      calls.map Call.argument = arguments ∧ s.trace = past ++ calls.flatMap Call.events ∧
      serializer ≠ .constant .null ∧ CreatesOnce serializer (calls.flatMap Call.events) ∧
      ∀ call ∈ calls, WritesOnce serializer call := by
  obtain ⟨argument, rest, rfl⟩ := List.exists_cons_of_ne_nil called
  have known := isKnownTo_of_areDistinct apart made
  have fresh := @does_initialise c world names (depth + 2) past
  have unset : (⟨[(names.fieldName, .null)], past⟩ : Machine).fields.lookup names.fieldName =
      some .null :=
    List.lookup_cons_self
  obtain ⟨settings, ignore, done, serializer, first, s₁, run, holds, trace, same, writes⟩ :=
    exists_first_call known creates unset depth argument
  obtain ⟨calls, s₂, runs, _, traces, sames, writesAll⟩ :=
    exists_later_calls known depth rest holds
  refine ⟨first :: calls, s₂, serializer, ?runs, ?arguments, ?trace, holds.1, ?once, ?each⟩
  case runs =>
    unfold useFresh
    rw [made]
    exact fresh.bind (run.bind (runs.ret _))
  case arguments => rw [List.map_cons, same, sames]
  case trace => rw [traces, trace, List.flatMap_cons, List.append_assoc]
  case once =>
    obtain ⟨writer, done', text, events, _⟩ := writes
    refine ⟨⟨.create stringWriterType [], writer⟩ ::
        (creationEvents settings ignore done serializer).dropLast,
      writingEvents serializer writer done' text first.argument ++ calls.flatMap Call.events,
      settings, ignore, done, ?split, ?before, ?after, ?settings, ?ignore, ?written⟩
    case split =>
      rw [List.flatMap_cons, events]
      simp [creationEvents]
    case before => simp [creationEvents, Operation.isCall]
    case after =>
      intro e inside
      rcases List.mem_append.mp inside with inside | inside
      · exact quiet_writingEvents serializer writer done' text _ e inside
      · obtain ⟨call, listed, inside⟩ := List.mem_flatMap.mp inside
        exact (writesAll call listed).not_isCall_create e inside
    case settings => simp [creationEvents]
    case ignore => simp [creationEvents]
    case written => rfl
  case each =>
    intro call listed
    rcases List.mem_cons.mp listed with rfl | listed
    · exact writes.writesOnce (quiet_creationEvents settings ignore done serializer)
    · exact (writesAll call listed).writesOnce (List.forall_mem_nil _)

/-- An outside with one serializer, whose writers say what null looks like. -/
def nullLibrary : World
  | _, .call _ "Create" _ => .other 0
  | _, .read _ _ => .other 1
  | _, .call _ "ToString" _ => .constant (.text "null")
  | _, _ => .constant .null

/-- A class of the three members alone, under their default names. -/
def aloneClass : ClassDecl where
  name := "BooksService"
  members := members {}

/-- Null, serialized twice. -/
theorem capability_runs_twice :
    CreatesSerializers nullLibrary ∧ ∃ calls s serializer,
      Does (useFresh nullLibrary aloneClass (0 + 2) "ObjectToJson" [.null, .null]) ⟨[], []⟩
        calls s ∧
      calls.map Call.argument = [.null, .null] ∧ s.trace = [] ++ calls.flatMap Call.events ∧
      serializer ≠ .constant .null ∧ CreatesOnce serializer (calls.flatMap Call.events) ∧
      ∀ call ∈ calls, WritesOnce serializer call := by
  have creates : CreatesSerializers nullLibrary := fun _ _ => nofun
  have made : aloneClass.members = members {} := rfl
  have called : [Value.null, Value.null] ≠ [] := List.cons_ne_nil _ _
  exact ⟨creates, capability_runs areDistinct_default made creates 0 [] called⟩

end ObjectToJson

end ServiceWriter
