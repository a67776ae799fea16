import ServiceWriter.Code.Tree

/-!
# The ObjectToJson capability

Three members that let a class turn any object into JSON text by way of Newtonsoft.Json: a field for
the serializer, a property that creates the serializer when it is first read, and a method that writes
an object with it. The members know each other only by name.

The serializer is told to leave out null values before it is created. Creation is not synchronised.
-/

set_option autoImplicit false

namespace ServiceWriter

/-- The names in the three members. The property reads the field and the method reads the property by
these names. -/
structure ObjectToJsonNames where
  fieldName : String := "newtonJsonSerializer"
  propertyName : String := "NewtonJsonSerializer"
  methodName : String := "ObjectToJson"
  settingsVariable : String := "settings"
  writerVariable : String := "tw"
  parameterName : String := "obj"
  deriving DecidableEq, Repr

namespace ObjectToJson

/-! ## Types and imports -/

/-- The serializer. -/
def serializerType : String := "Newtonsoft.Json.JsonSerializer"

/-- The settings a serializer is created with. -/
def settingsType : String := "Newtonsoft.Json.JsonSerializerSettings"

/-- What a serializer may do with null values. -/
def nullHandlingType : String := "Newtonsoft.Json.NullValueHandling"

/-- What a serializer writes to. -/
def writerType : String := "System.IO.TextWriter"

/-- A writer that keeps what is written. -/
def stringWriterType : String := "System.IO.StringWriter"

/-- Any object. -/
def objectType : String := "System.Object"

/-- Text. -/
def stringType : String := "System.String"

/-- The namespaces of these types. -/
def imports : List String := ["System", "System.IO", "Newtonsoft.Json"]

/-! ## Members -/

/-- The field of the serializer, null at first. -/
def field (names : ObjectToJsonNames) : Field where
  name := names.fieldName
  type := .plain serializerType
  access := .owner
  initializer := some (.literal .null)

/-- The statements that create the serializer and store it in the field. -/
def creation (names : ObjectToJsonNames) : List Stmt := [
  .declare (.plain settingsType) names.settingsVariable
    (some (.create (.plain settingsType) [])),
  .assign
    (.property (.variableRef names.settingsVariable) "NullValueHandling")
    (.field (.typeName (.plain nullHandlingType)) "Ignore"),
  .assign
    (.field .this names.fieldName)
    (.invoke (.typeName (.plain serializerType)) "Create"
      [.variableRef names.settingsVariable])]

/-- The property: it creates the serializer if the field is null and returns the field. -/
def property (names : ObjectToJsonNames) : Property where
  name := names.propertyName
  type := .plain serializerType
  access := .owner
  getter := {
    isPresent := true
    body := [
      .condition
        (.binary (.field .this names.fieldName) .identityEquality (.literal .null))
        (creation names) [],
      .returns (some (.field .this names.fieldName))] }

/-- The method: it has the serializer write its argument to a new writer and returns what was
written. The serializer is taken from the property, so that it exists. -/
def method (names : ObjectToJsonNames) : Method where
  name := names.methodName
  access := .everyone
  parameters := [⟨names.parameterName, .plain objectType⟩]
  returnType := .plain stringType
  body := [
    .declare (.plain writerType) names.writerVariable
      (some (.create (.plain stringWriterType) [])),
    .expression (.invoke (.property .this names.propertyName) "Serialize"
      [.variableRef names.writerVariable, .argumentRef names.parameterName]),
    .returns (some (.invoke (.variableRef names.writerVariable) "ToString" []))]

/-- The three members, in the order in which they are added to a class. -/
def members (names : ObjectToJsonNames) : List Member :=
  [.field (field names), .property (property names), .method (method names)]

end ObjectToJson

end ServiceWriter
