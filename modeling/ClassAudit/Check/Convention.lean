import ClassAudit.Check.Basic
import ClassAudit.Text.Search
import ClassAudit.Unicode.Latest

/-!
# Conventions

The length of methods, the names of methods and fields, and printing to the console.
-/

namespace ClassAudit

namespace Naming

/-- An ASCII lower-case letter followed by ASCII letters and digits, as in `^[a-z][a-zA-Z0-9]*$`. -/
def isCamelCase (name : String) : Bool :=
  match name.toList with
  | [] => false
  | c :: rest => Text.isLower c && rest.all Text.isLetterOrDigit

/-- Words of ASCII capitals and digits separated by single underscores, of which the first starts
with a capital, as in `^[A-Z][A-Z0-9]*(_[A-Z0-9]+)*$`. -/
def isUpperSnakeCase (name : String) : Bool :=
  (name.toList.head?.any Text.isUpper)
    && (Text.pieces '_' name.toList).all fun word =>
        !word.isEmpty && word.all fun c => Text.isUpper c || Text.isDigit c

end Naming

namespace Check

/-! ## Length of methods -/

/-- The finding on the number of instructions of `method`, against `methodLengthError` and then
`methodLengthWarning`. -/
def lengthFinding? (settings : Settings) (c : Class) (method : Method) : Option Finding :=
  let count := method.instructions.length
  let report (severity : Severity) (limit : Nat) : Finding :=
    let name := severity.name
    methodLength.report severity (c.callLocation method)
      s!"Method has {count} instructions, exceeding the {name} threshold of {limit}"
  if settings.methodLengthError < count then some (report .error settings.methodLengthError)
  else if settings.methodLengthWarning < count then
    some (report .warning settings.methodLengthWarning)
  else none

/-- The findings of `methodLength`, initializers excepted. -/
def methodLengths (settings : Settings) (c : Class) : List Finding :=
  (c.methods.filter (!·.isInitializer)).filterMap (lengthFinding? settings c)

/-! ## Names -/

/-- The advice at the end of the message on a method name. -/
def methodNameAdvice (name : String) : String :=
  if name.toList.head?.any Unicode.isUppercase then
    "Method names should start with a lowercase letter."
  else if Text.hasChar name '_' then
    "Method names should not contain underscores; use camelCase instead."
  else "Method names use camelCase, e.g. getTotal or calculateSum."

/-- The findings of `methodNaming` on methods of classes whose names are not `isCamelCase`.
Initializers and names with a `$` are exempt. -/
def methodNames (c : Class) : List Finding :=
  if c.isInterface then []
  else
    (c.methods.filter fun method =>
        !method.isInitializer && !Text.hasChar method.name '$'
          && !Naming.isCamelCase method.name).map fun method =>
      let name := method.name
      let advice := methodNameAdvice name
      methodNaming.report .warning (c.callLocation method)
        s!"Method '{name}' does not follow camelCase convention. {advice}"

/-- The field is static and final. -/
def isConstant (field : Field) : Bool :=
  field.access.isStatic && field.access.isFinal

/-- The name is `isUpperSnakeCase` for a constant and `isCamelCase` for any other field. -/
def isWellNamed (field : Field) : Bool :=
  if isConstant field then Naming.isUpperSnakeCase field.name else Naming.isCamelCase field.name

/-- The field is not synthetic, has no `$` in its name and is not `serialVersionUID`. -/
def hasChosenName (field : Field) : Bool :=
  !field.access.isSynthetic && !Text.hasChar field.name '$' && field.name ≠ "serialVersionUID"

/-- The findings of `fieldNaming`, on the fields that satisfy `hasChosenName` and not `isWellNamed`.
-/
def fieldNames (c : Class) : List Finding :=
  (c.fields.filter fun field => hasChosenName field && !isWellNamed field).map fun field =>
    let name := field.name
    let kind := if isConstant field then "Constant" else "Field"
    let convention := if isConstant field then "UPPER_SNAKE_CASE" else "camelCase"
    fieldNaming.report .warning (c.memberLocation name)
      s!"{kind} '{name}' does not follow {convention} convention"

end Check

end ClassAudit
