import ServiceWriter.Proofs.Text.CodePoints
import ServiceWriter.Service.Description

/-!
# Documents that describe a service

A document is asked for five things, one after another (`conditions`). If it has them all, what is read
of it is just what it says under four keys (`ofJson_eq_ok_iff`); if it does not, the first that it lacks
is reported (`Settles`). A description written down as a document says the same again
(`isSaidBy_toJson`).
-/

set_option autoImplicit false

namespace ServiceWriter

open Text

/-! ## What is asked of a document -/

/-- A condition on documents, and what is wrong with those that do not meet it. -/
structure Condition where
  Holds : Json → Prop
  cause : Cause

namespace Condition

/-- The document is an object. -/
def isObject : Condition where
  Holds document := ∃ entries, document = .object entries
  cause := .notAnObject

/-- The document has a name, of which something is left when its ends are trimmed. -/
def isNamed : Condition where
  Holds document := ∃ name, document.get? "name" = some (.string name) ∧ name.trimmed ≠ .ofString ""
  cause := .missingName

/-- What the document has under the key, if there is anything, is a string. -/
def isText (key : String) : Condition where
  Holds document := ∀ value, document.get? key = some value → ∃ text, value = .string text
  cause := .notText key

end Condition

/-- What is asked of a document that describes a service, in this order. -/
def conditions : List Condition :=
  [.isObject, .isNamed, .isText "version", .isText "title", .isText "description"]

/-- A condition is the first of a list that a document does not meet. -/
inductive FailsFirst (document : Json) : List Condition → Condition → Prop
  | here {condition : Condition} {rest : List Condition} (fails : ¬ condition.Holds document) :
      FailsFirst document (condition :: rest) condition
  | later {condition failing : Condition} {rest : List Condition} (holds : condition.Holds document)
      (fails : FailsFirst document rest failing) : FailsFirst document (condition :: rest) failing

/-- A document that does not meet all of some conditions does not meet some one first. -/
theorem exists_failsFirst {document : Json} {conditions : List Condition}
    (fails : ¬ ∀ condition ∈ conditions, condition.Holds document) :
    ∃ condition, FailsFirst document conditions condition := by
  induction conditions with
  | nil => exact absurd (fun _ member => nomatch member) fails
  | cons condition rest ih =>
    by_cases holds : condition.Holds document
    · have later : ¬ ∀ other ∈ rest, other.Holds document := fun all =>
        fails (List.forall_mem_cons.mpr ⟨holds, all⟩)
      obtain ⟨failing, found⟩ := ih later
      exact ⟨failing, .later holds found⟩
    · exact ⟨condition, .here holds⟩

theorem FailsFirst.mem {document : Json} {asked : List Condition} {condition : Condition}
    (fails : FailsFirst document asked condition) : condition ∈ asked := by
  induction fails with
  | here => exact List.mem_cons_self
  | later _ _ ih => exact List.mem_cons_of_mem _ ih

/-- The outcome of a reading is settled by conditions on the document: there is a result if it meets all
of them, and else the first that it does not meet is reported. -/
structure Settles {α : Type} (document : Json) (subject : String) (conditions : List Condition)
    (outcome : Except Defect α) : Prop where
  ok : (∀ condition ∈ conditions, condition.Holds document) → ∃ value, outcome = .ok value
  error : ∀ condition, FailsFirst document conditions condition →
    outcome = .error ⟨condition.cause, subject⟩

namespace Settles

variable {α β : Type} {document : Json} {subject : String} {first : Condition}
  {rest : List Condition}

section

variable {conditions : List Condition} {outcome : Except Defect α}
  (settled : Settles document subject conditions outcome)
include settled

/-- There is a result only if the document meets all conditions. -/
theorem exists_ok_iff :
    (∃ value, outcome = .ok value) ↔ ∀ condition ∈ conditions, condition.Holds document := by
  refine ⟨?_, settled.ok⟩
  rintro ⟨value, read⟩
  by_contra unmet
  obtain ⟨condition, fails⟩ := exists_failsFirst unmet
  exact nomatch read.symm.trans (settled.error condition fails)

/-- What is reported is the first condition that the document does not meet. -/
theorem eq_error_iff {defect : Defect} :
    outcome = .error defect ↔
      ∃ condition, FailsFirst document conditions condition ∧ defect = ⟨condition.cause, subject⟩ := by
  constructor
  · intro refused
    have unmet : ¬ ∀ condition ∈ conditions, condition.Holds document := by
      rw [← settled.exists_ok_iff, refused]
      exact fun ⟨_, read⟩ => nomatch read
    obtain ⟨condition, fails⟩ := exists_failsFirst unmet
    exact ⟨condition, fails, Except.error.inj (refused.symm.trans (settled.error condition fails))⟩
  · rintro ⟨condition, fails, rfl⟩
    exact settled.error condition fails

end

/-- A condition that the document meets can be asked first. -/
theorem met {outcome : Except Defect α} (settled : Settles document subject rest outcome)
    (holds : first.Holds document) : Settles document subject (first :: rest) outcome where
  ok all := settled.ok fun condition member => all condition (List.mem_cons_of_mem first member)
  error condition fails := by
    cases fails with
    | here fails => exact absurd holds fails
    | later _ fails => exact settled.error condition fails

theorem pure (value : α) : Settles document subject [] (Except.ok value : Except Defect α) where
  ok _ := ⟨value, rfl⟩
  error _ fails := nomatch fails

/-- One reading after another is settled by the conditions of both. -/
theorem bind {reading : Except Defect α} {next : α → Except Defect β}
    (settled : Settles document subject [first] reading)
    (later : ∀ value, Settles document subject rest (next value)) :
    Settles document subject (first :: rest) (reading >>= next) where
  ok holds := by
    obtain ⟨value, read⟩ := settled.ok fun condition member =>
      List.mem_singleton.mp member ▸ holds first List.mem_cons_self
    obtain ⟨result, found⟩ := (later value).ok fun condition member =>
      holds condition (List.mem_cons_of_mem first member)
    exact ⟨result, by rw [read]; exact found⟩
  error condition fails := by
    cases fails with
    | here fails =>
      rw [settled.error first (.here fails)]
      rfl
    | later holds fails =>
      obtain ⟨value, read⟩ := settled.ok fun condition member =>
        List.mem_singleton.mp member ▸ holds
      rw [read]
      exact (later value).error condition fails

end Settles

namespace ServiceDescription

/-! ## Reading -/

section

variable {document : Json} {subject : String}

theorem serviceName_eq_ok_iff {name : CodePoints} :
    serviceName document subject = .ok name ↔
      document.get? "name" = some (.string name) ∧ name.trimmed ≠ .ofString "" := by
  unfold serviceName
  split
  · next name' found =>
    rw [found, Option.some.injEq, Json.string.injEq]
    split
    · next blank =>
      refine ⟨nofun, ?_⟩
      rintro ⟨rfl, left⟩
      exact absurd (CodePoints.isBlank_iff_trimmed.mp blank) left
    · next blank =>
      rw [Except.ok.injEq]
      constructor
      · rintro rfl
        exact ⟨rfl, mt CodePoints.isBlank_iff_trimmed.mpr blank⟩
      · exact And.left
  · next other => exact ⟨nofun, fun both => absurd both.1 (other name)⟩

theorem optionalText_eq_ok_iff {key : String} {value : Option CodePoints} :
    optionalText document key subject = .ok value ↔ document.get? key = value.map .string := by
  unfold optionalText
  split
  · next missing => cases value <;> simp [missing]
  · next text found => cases value <;> simp [found]
  · next other noText found =>
    refine ⟨nofun, fun same => ?_⟩
    cases value with
    | none => cases found.symm.trans same
    | some text => exact absurd (Option.some.inj (found.symm.trans same)) (noText text)

variable (document subject)

theorem settles_serviceName :
    Settles document subject [.isNamed] (serviceName document subject) where
  ok holds := by
    obtain ⟨name, named⟩ := holds .isNamed List.mem_cons_self
    exact ⟨name, serviceName_eq_ok_iff.mpr named⟩
  error condition fails := by
    cases fails with
    | here unnamed =>
      unfold serviceName
      split
      · next name found =>
        split
        · rfl
        · next blank =>
          exact absurd ⟨name, found, mt CodePoints.isBlank_iff_trimmed.mpr blank⟩ unnamed
      · rfl
    | later _ fails => cases fails

theorem settles_optionalText (key : String) :
    Settles document subject [.isText key] (optionalText document key subject) where
  ok holds := by
    have text := holds (.isText key) List.mem_cons_self
    unfold optionalText
    split
    · exact ⟨none, rfl⟩
    · next value _ => exact ⟨some value, rfl⟩
    · next other noText found =>
      obtain ⟨value, same⟩ := text other found
      exact absurd same (noText value)
  error condition fails := by
    cases fails with
    | here noText =>
      unfold optionalText
      split
      · next missing =>
        exact absurd (fun value found => by rw [missing] at found; cases found) noText
      · next text found =>
        refine absurd (fun value found' => ⟨text, ?_⟩) noText
        exact (Option.some.inj (found.symm.trans found')).symm
      · rfl
    | later _ fails => cases fails

/-- **What is asked of a document settles what is read of it.** -/
theorem settles_ofJson : Settles document subject conditions (ofJson document subject) := by
  cases document with
  | object entries =>
    have read : Settles (.object entries) subject
        [.isNamed, .isText "version", .isText "title", .isText "description"]
        (ofJson (.object entries) subject) :=
      (settles_serviceName _ subject).bind fun _ =>
        (settles_optionalText _ subject "version").bind fun _ =>
          (settles_optionalText _ subject "title").bind fun _ =>
            (settles_optionalText _ subject "description").bind fun _ => .pure _
    exact read.met ⟨entries, rfl⟩
  | _ =>
    refine ⟨fun holds => ?_, fun condition fails => ?_⟩
    · obtain ⟨entries, same⟩ := holds .isObject List.mem_cons_self
      cases same
    · cases fails with
      | here => rfl
      | later holds _ =>
        obtain ⟨entries, same⟩ := holds
        cases same

end

/-- One reading after another has a result if both have. -/
theorem bind_eq_ok_iff {α β : Type} {reading : Except Defect α} {next : α → Except Defect β}
    {result : β} :
    (reading >>= next) = .ok result ↔ ∃ value, reading = .ok value ∧ next value = .ok result := by
  cases reading with
  | ok value => exact ⟨fun read => ⟨value, rfl, read⟩, fun ⟨_, same, read⟩ => by cases same; exact read⟩
  | error defect => exact ⟨nofun, fun ⟨_, same, _⟩ => nomatch same⟩

/-- A document says what a description holds, and that its name is not blank. -/
structure IsSaidBy (description : ServiceDescription) (document : Json) : Prop where
  object : ∃ entries, document = .object entries
  name : document.get? "name" = some (.string description.name)
  left : description.name.trimmed ≠ .ofString ""
  version : document.get? "version" = description.version.map .string
  title : document.get? "title" = description.title.map .string
  description : document.get? "description" = description.description.map .string

/-- **What is read of a document is what it says.** -/
theorem ofJson_eq_ok_iff {document : Json} {subject : String} {description : ServiceDescription} :
    ofJson document subject = .ok description ↔ description.IsSaidBy document := by
  cases document with
  | object entries =>
    simp only [ofJson, bind_eq_ok_iff, serviceName_eq_ok_iff, optionalText_eq_ok_iff]
    constructor
    · rintro ⟨name, ⟨named, left⟩, version, versioned, title, titled, text, described, made⟩
      cases made
      exact ⟨⟨entries, rfl⟩, named, left, versioned, titled, described⟩
    · intro said
      exact ⟨_, ⟨said.name, said.left⟩, _, said.version, _, said.title, _, said.description, rfl⟩
  | _ => exact ⟨nofun, fun said => nomatch said.object⟩

/-! ## Writing down -/

/-- The entry of a text that may be missing. -/
def entry (key : String) : Option CodePoints → List (String × Json)
  | some text => [(key, .string text)]
  | none => []

/-- The document that says what a description holds and nothing else. -/
def toJson (description : ServiceDescription) : Json :=
  .object (("name", .string description.name) :: entry "version" description.version ++
    entry "title" description.title ++ entry "description" description.description)

theorem isSaidBy_toJson {description : ServiceDescription}
    (left : description.name.trimmed ≠ .ofString "") : description.IsSaidBy description.toJson := by
  obtain ⟨name, version, title, text⟩ := description
  refine ⟨⟨_, rfl⟩, ?_, left, ?_, ?_, ?_⟩ <;>
    cases version <;> cases title <;> cases text <;> rfl

/-- **A description is read of the documents that have one, as it stands there.** A description is read
of a document exactly if it meets all conditions, and then it is what the document says under its four
keys, whatever else the document says; written down as a document it is read again. If a document does
not meet all conditions, the first that it does not meet is reported, as a description that is not valid
and with the subject that was given. The text of a document is read as the document that it spells,
and one that is not JSON is reported in the same way. -/
theorem document_described (document : Json) (subject : String) :
    ((∃ description, ofJson document subject = .ok description) ↔
      ∀ condition ∈ conditions, condition.Holds document) ∧
    (∀ description, ofJson document subject = .ok description ↔ description.IsSaidBy document) ∧
    (∀ description other, ofJson document subject = .ok description →
      ofJson description.toJson other = .ok description) ∧
    (∀ defect, ofJson document subject = .error defect ↔
      ∃ condition, FailsFirst document conditions condition ∧
        defect = ⟨condition.cause, subject⟩) ∧
    (∀ defect, ofJson document subject = .error defect →
      defect.code = .invalidServiceDescription ∧ defect.subject = subject) ∧
    ∀ text reason,
      (Json.parse? text = some document → ofText text subject reason = ofJson document subject) ∧
      (Json.parse? text = none → ∃ defect, ofText text subject reason = .error defect ∧
        defect.code = .invalidServiceDescription ∧ defect.subject = subject ∧
        defect.message = "Invalid JSON: " ++ reason) := by
  have settled := settles_ofJson document subject
  refine ⟨settled.exists_ok_iff, fun _ => ofJson_eq_ok_iff, fun description other read => ?_,
    fun _ => settled.eq_error_iff, fun defect refused => ?_, fun text reason =>
      ⟨fun parsed => ?_, fun notJson => ?_⟩⟩
  · exact ofJson_eq_ok_iff.mpr (isSaidBy_toJson (ofJson_eq_ok_iff.mp read).left)
  · obtain ⟨condition, fails, rfl⟩ := settled.eq_error_iff.mp refused
    have codes : ∀ condition ∈ conditions, condition.cause.code = .invalidServiceDescription := by
      simp only [conditions, List.forall_mem_cons]
      exact ⟨rfl, rfl, rfl, rfl, rfl, nofun⟩
    exact ⟨codes condition fails.mem, rfl⟩
  · rw [ofText, parsed]
  · rw [ofText, notJson]
    exact ⟨_, rfl, rfl, rfl, rfl⟩

/-- A document with an empty title, a key of another kind, and blanks around the name, which are kept.
-/
theorem document_described_blanks :
    let document := Json.object
      [("tags", .array []), ("name", .text " books\u00A0"), ("title", .text "")]
    let description : ServiceDescription :=
      { name := .ofString " books\u00A0", title := some (.ofString "") }
    ofJson document "books.json" = .ok description ∧
      ofJson description.toJson "again" = .ok description := by
  intro document description
  have said : description.IsSaidBy document :=
    ⟨⟨_, rfl⟩, rfl, by decide +kernel, rfl, rfl, rfl⟩
  have read := ((document_described document "books.json").2.1 description).mpr said
  exact ⟨read, (document_described document "books.json").2.2.1 description "again" read⟩

end ServiceDescription

end ServiceWriter
