import ClassAudit.Text.Search

/-!
# Spellings of a type name

A type has an internal name with slashes, `java/util/List`, and a source name with dots,
`java.util.List`.  Names also occur wrapped as descriptors, `Ljava/util/List;`.
-/

namespace ClassAudit.TypeName

/-- The name with `/` replaced by `.`. -/
def dotted (name : String) : String :=
  Text.substitute '/' '.' name

/-- The name inside `L…;`, if there is one and it is not empty. -/
def unwrapped? : List Char → Option (List Char)
  | 'L' :: rest =>
    if rest.getLast? = some ';' ∧ rest.dropLast ≠ [] then some rest.dropLast else none
  | _ => none

/-- The internal name: without `L…;`, and with `.` replaced by `/`. -/
def internal (name : String) : String :=
  Text.substitute '.' '/' (String.ofList ((unwrapped? name.toList).getD name.toList))

/-- The part of an internal name behind the last `/`. -/
def simple (name : String) : String :=
  String.ofList (name.toList.reverse.takeWhile (· ≠ '/')).reverse

/-- The name starts with a prefix of the platform or of a language library. -/
def isPlatform (name : String) : Bool :=
  ["java/", "javax/", "jdk/", "sun/", "kotlin/", "scala/"].any (Text.startsWith name)

end ClassAudit.TypeName
