import ServiceWriter.Text.Dotted

/-!
# Names of types

A type is referred to by its full name in the common language runtime. In C# it is written as a
keyword, by its simple name if its namespace is imported, or in full; in TypeScript as a keyword or by
its simple name.
-/

set_option autoImplicit false

namespace ServiceWriter

open Text

/-- The runtime types that C# has a keyword for. -/
def csharpKeywords : List (String × String) := [
  ("System.Object", "object"),
  ("System.String", "string"),
  ("System.Boolean", "bool"),
  ("System.Void", "void"),
  ("System.Byte", "byte"),
  ("System.SByte", "sbyte"),
  ("System.Int16", "short"),
  ("System.UInt16", "ushort"),
  ("System.Int32", "int"),
  ("System.UInt32", "uint"),
  ("System.Int64", "long"),
  ("System.UInt64", "ulong"),
  ("System.Single", "float"),
  ("System.Double", "double"),
  ("System.Decimal", "decimal"),
  ("System.Char", "char")]

/-- The runtime types that are primitive in TypeScript: all numbers are one type there, and a
character is a string. -/
def typeScriptKeywords : List (String × String) := [
  ("System.Object", "object"),
  ("System.String", "string"),
  ("System.Boolean", "boolean"),
  ("System.Void", "void"),
  ("System.Byte", "number"),
  ("System.SByte", "number"),
  ("System.Int16", "number"),
  ("System.UInt16", "number"),
  ("System.Int32", "number"),
  ("System.UInt32", "number"),
  ("System.Int64", "number"),
  ("System.UInt64", "number"),
  ("System.Single", "number"),
  ("System.Double", "number"),
  ("System.Decimal", "number"),
  ("System.Char", "string")]

/-- The name of a type in C#, without its type arguments. -/
def csharpTypeName (imports : List String) (fullName : String) : String :=
  match csharpKeywords.lookup fullName with
  | some keyword => keyword
  | none =>
    let space := namespaceOf fullName
    if space = "" || imports.contains space then simpleName fullName else fullName

/-- The name of a type in TypeScript, without its type arguments. -/
def typeScriptTypeName (fullName : String) : String :=
  (typeScriptKeywords.lookup fullName).getD (simpleName fullName)

end ServiceWriter
