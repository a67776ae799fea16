import ServiceWriter.Proofs.Service.MemberNames
import ServiceWriter.Proofs.Walk.Clean

/-!
# The capability in an emission

What an emitter looks at in the three members of the ObjectToJson capability, whatever their names
are (`ObjectToJson.sites_members`). In C# nothing is wrong with the members exactly if all six names
are free (`CSharp.members_clean_iff`); in TypeScript the names of members only have to be identifiers
(`TypeScript.members_clean_iff`). The types of the capability have different simple names.
-/

set_option autoImplicit false

namespace ServiceWriter

open Text

namespace ObjectToJson

/-! ## Sites -/

theorem sites_members (names : ObjectToJsonNames) :
    (members names).flatMap Member.sites = [
      .member names.fieldName, .type serializerType,
      .member names.propertyName, .type serializerType,
      .member names.fieldName,
      .binding names.settingsVariable, .type settingsType, .type settingsType,
      .member "NullValueHandling", .binding names.settingsVariable,
      .member "Ignore", .type nullHandlingType,
      .member names.fieldName,
      .member "Create", .type serializerType, .binding names.settingsVariable,
      .member names.fieldName,
      .member names.methodName, .binding names.parameterName,
      .binding names.writerVariable, .type writerType, .type stringWriterType,
      .member "Serialize", .member names.propertyName,
      .binding names.writerVariable, .binding names.parameterName,
      .member "ToString", .binding names.writerVariable] := by
  rfl

/-! ## Names -/

/-- The names of the members of a class. -/
def memberNames (names : ObjectToJsonNames) : List String :=
  [names.fieldName, names.propertyName, names.methodName]

/-- The names of the variables and of the parameter. -/
def localNames (names : ObjectToJsonNames) : List String :=
  [names.settingsVariable, names.writerVariable, names.parameterName]

/-- The names of members outside that the capability uses are free. -/
theorem isFree_outsideNames (language : Language) :
    ∀ name ∈ ["NullValueHandling", "Ignore", "Create", "Serialize", "ToString"],
      IsFree .standard language name := by
  have capital : ["NullValueHandling", "Ignore", "Create", "Serialize", "ToString"].all
      (fun name => isIdentifier name && name.toList.any Char.isUpper) = true := by
    decide +kernel
  intro name listed
  obtain ⟨valid, capital⟩ := Bool.and_eq_true_iff.mp (List.all_eq_true.mp capital name listed)
  exact isFree_of_capital valid capital

/-- The names used by default are free. -/
theorem isFree_defaultNames (language : Language) :
    ∀ name ∈ memberNames {} ++ localNames {}, IsFree .standard language name := by
  have capital : (memberNames {}).all
      (fun name => isIdentifier name && name.toList.any Char.isUpper) = true := by
    decide +kernel
  have small : (localNames {}).all
      (fun name => isIdentifier name && !ReservedWords.standard.contains language name) = true := by
    cases language <;> decide +kernel
  intro name listed
  rcases List.mem_append.mp listed with listed | listed
  · obtain ⟨valid, capital⟩ := Bool.and_eq_true_iff.mp (List.all_eq_true.mp capital name listed)
    exact isFree_of_capital valid capital
  · obtain ⟨valid, unreserved⟩ := Bool.and_eq_true_iff.mp (List.all_eq_true.mp small name listed)
    exact ⟨valid, Bool.not_eq_true' _ ▸ unreserved⟩

/-! ## Types -/

/-- The types of the capability that are printed by name. -/
def types : List String :=
  [serializerType, settingsType, nullHandlingType, writerType, stringWriterType]

theorem mem_types_of_site {names : ObjectToJsonNames} {fullName : String}
    (site : .type fullName ∈ (members names).flatMap Member.sites) : fullName ∈ types := by
  rw [sites_members] at site
  simp only [List.mem_cons, Site.type.injEq, reduceCtorEq, List.not_mem_nil, or_false,
    false_or] at site
  rcases site with rfl | rfl | rfl | rfl | rfl | rfl | rfl | rfl <;> simp [types]

theorem eq_of_simpleName {first second : String} (listed : first ∈ types)
    (listed' : second ∈ types) (same : simpleName first = simpleName second) : first = second := by
  have apart : (types.map simpleName).Nodup := by decide +kernel
  exact List.inj_on_of_nodup_map apart listed listed' same

end ObjectToJson

open ObjectToJson

/-! ## Clean members -/

/-- **In C# nothing is wrong with the members** exactly if all names are free. -/
theorem CSharp.members_clean_iff {names : ObjectToJsonNames} :
    (∀ site ∈ (ObjectToJson.members names).flatMap Member.sites,
      causeAt .standard site = none) ↔
      ∀ name ∈ memberNames names ++ localNames names, IsFree .standard .csharp name := by
  have outside := isFree_outsideNames .csharp
  rw [sites_members]
  simp only [memberNames, localNames, List.cons_append, List.nil_append, List.forall_mem_cons,
    List.not_mem_nil, IsEmpty.forall_iff, implies_true, causeAt_member, causeAt_binding,
    causeAt_type, true_and, and_true]
    at outside ⊢
  obtain ⟨handling, ignore, create, serialize, toString⟩ := outside
  constructor
  · rintro ⟨field, property, -, settings, -, -, -, -, -, -, -, method, parameter, writer, -⟩
    exact ⟨field, property, method, settings, writer, parameter⟩
  · rintro ⟨field, property, method, settings, writer, parameter⟩
    exact ⟨field, property, field, settings, handling, settings, ignore, field, create, settings,
      field, method, parameter, writer, serialize, property, writer, parameter, toString, writer⟩

/-- **In TypeScript nothing is wrong with the members** exactly if the names of members are
identifiers and the others are free. -/
theorem TypeScript.members_clean_iff {names : ObjectToJsonNames} (localNamespace : String) :
    (∀ site ∈ (ObjectToJson.members names).flatMap Member.sites,
      causeAt .standard localNamespace [] site = none) ↔
      (∀ name ∈ memberNames names, isIdentifier name = true) ∧
        ∀ name ∈ localNames names, IsFree .standard .typescript name := by
  have outside := fun name listed => (isFree_outsideNames .typescript name listed).1
  rw [sites_members]
  simp only [memberNames, localNames, List.forall_mem_cons, List.not_mem_nil, IsEmpty.forall_iff,
    implies_true, causeAt_member, causeAt_binding, causeAt_type_nil, true_and, and_true]
    at outside ⊢
  obtain ⟨handling, ignore, create, serialize, toString⟩ := outside
  constructor
  · rintro ⟨field, property, -, settings, -, -, -, -, -, -, -, method, parameter, writer, -⟩
    exact ⟨⟨field, property, method⟩, settings, writer, parameter⟩
  · rintro ⟨⟨field, property, method⟩, settings, writer, parameter⟩
    exact ⟨field, property, field, settings, handling, settings, ignore, field, create, settings,
      field, method, parameter, writer, serialize, property, writer, parameter, toString, writer⟩

/-! ## Classes of the capability alone -/

section

variable {names : ObjectToJsonNames} {c : ClassDecl} {v : Visit}

theorem ObjectToJson.site_of_mem_visits (made : c.members = ObjectToJson.members names)
    (inside : v ∈ c.visits) :
    v.site = .binding c.name ∨ v.site ∈ (ObjectToJson.members names).flatMap Member.sites := by
  have among := List.mem_map_of_mem (f := Visit.site) inside
  rw [ClassDecl.map_site_visits, made] at among
  exact List.mem_cons.mp among

theorem CSharp.visits_clean (made : c.members = ObjectToJson.members names)
    (free : IsFree .standard .csharp c.name)
    (freeNames : ∀ name ∈ memberNames names ++ localNames names, IsFree .standard .csharp name) :
    ∀ v ∈ c.visits, causeAt .standard v.site = none := by
  intro v inside
  rcases site_of_mem_visits made inside with site | member
  · rw [site]
    exact causeAt_binding.mpr free
  · exact members_clean_iff.mpr freeNames _ member

theorem TypeScript.visits_clean (made : c.members = ObjectToJson.members names)
    (free : IsFree .standard .typescript c.name)
    (freeNames : ∀ name ∈ memberNames names ++ localNames names,
      IsFree .standard .typescript name) (localNamespace : String) :
    ∀ v ∈ c.visits, causeAt .standard localNamespace [] v.site = none := by
  obtain ⟨memberFree, localFree⟩ := List.forall_mem_append.mp freeNames
  have valid := fun name listed => (memberFree name listed).1
  intro v inside
  rcases site_of_mem_visits made inside with site | member
  · rw [site]
    exact causeAt_binding.mpr free
  · exact (members_clean_iff localNamespace).mpr ⟨valid, localFree⟩ _ member

theorem TypeScript.mem_types_of_visit (made : c.members = ObjectToJson.members names)
    {fullName : String} (inside : v ∈ c.visits) (site : v.site = .type fullName) :
    fullName ∈ ObjectToJson.types := by
  rcases site_of_mem_visits made inside with binding | member
  · rw [binding] at site
    cases site
  · exact mem_types_of_site (site ▸ member)

/-- Types of the capability alone are never in conflict. -/
theorem TypeScript.not_conflict {localNamespace : String} {visits : List Visit}
    (among : ∀ v ∈ visits, ∀ fullName, v.site = .type fullName → fullName ∈ ObjectToJson.types) :
    ¬ Conflict (Uses localNamespace visits) := by
  rintro ⟨first, second, ⟨_, v, inside, site⟩, ⟨_, w, inside', site'⟩, same, apart⟩
  exact apart (eq_of_simpleName (among v inside first site) (among w inside' second site') same)

end

end ServiceWriter
