import ClassAudit.Check.Basic
import ClassAudit.Text.Search

/-!
# Extension

A class is open for extension when new cases need no change of old code.  Many branches and many
fields of concrete classes speak against it; an interface speaks for it.
-/

namespace ClassAudit.Check

/-- The number of `concreteDependencies` from which a class is reported. -/
def concreteDependencyLimit : Nat := 3

/-- The number of reference fields from which one of them should have an abstract type. -/
def referenceFieldLimit : Nat := 4

/-- The finding on `method` if it has more than `maxMethodBranches` branches. -/
def methodBranchFindings (settings : Settings) (c : Class) (method : Method) : List Finding :=
  let branches := method.branchCount
  let limit := settings.maxMethodBranches
  let name := method.name
  if limit < branches then
    [openClosed.report .error (c.memberLocation name)
      (s!"Method '{name}' has {branches} conditional branches (max {limit}); "
        ++ "new cases will require modifying it. Consider polymorphism or a strategy")]
  else []

/-- The `methodBranchFindings`, then the finding on the class if it has more than `maxClassBranches`
branches.  Synthetic methods are not counted. -/
def branchFindings (settings : Settings) (c : Class) : List Finding :=
  let methods := c.methods.filter (!·.access.isSynthetic)
  let total := (methods.map Method.branchCount).foldr (· + ·) 0
  let limit := settings.maxClassBranches
  let name := c.dottedName
  methods.flatMap (methodBranchFindings settings c)
    ++ (if limit < total then
          [openClosed.report .error c.location
            (s!"Class '{name}' has {total} conditional branches in total (max {limit}); "
              ++ "behavior is selected by conditionals instead of extension")]
        else [])

/-- The classes that `registry` knows among the types of the instance fields of `c`. -/
def fieldClasses (registry : Registry) (c : Class) : List Class :=
  (c.instanceFields.filterMap Field.objectType?).filterMap registry.resolve?

def isAbstraction (c : Class) : Bool :=
  c.isInterface || c.isAbstract

/-- The names of the `fieldClasses` of `c` that are no `isAbstraction` and not `c` itself, without
repetitions and in byte order. -/
def concreteDependencies (registry : Registry) (c : Class) : List String :=
  let concrete := (fieldClasses registry c).filter fun d => !isAbstraction d && d.name ≠ c.name
  Text.ordered (concrete.map Class.dottedName)

/-- The findings on `concreteDependencies` and on reference fields without an abstraction. -/
def couplingFindings (registry : Registry) (c : Class) : List Finding :=
  let dependencies := concreteDependencies registry c
  let count := dependencies.length
  let names := Text.commaList dependencies
  let references := (c.instanceFields.filterMap Field.objectType?).length
  let name := c.dottedName
  (if concreteDependencyLimit ≤ count then
    [openClosed.report .warning c.location
      (s!"Class '{name}' composes {count} concrete dependencies ({names}); "
        ++ "this reduces extensibility")
      (some .high)]
   else [])
  ++ (if referenceFieldLimit ≤ references && !(fieldClasses registry c).any isAbstraction then
    [openClosed.report .warning c.location
      (s!"Class '{name}' has {references} reference fields "
        ++ "but none are typed to an interface or abstract class in the analyzed set")
      (some .medium)]
   else [])

/-- The finding on an interface without a registry. -/
def possibleExtension (c : Class) : Finding :=
  let name := c.dottedName
  openClosed.report .info c.location s!"Interface '{name}' is a potential extension point"

/-- The finding on an interface that has `implementers` in `registry`. -/
def extensionFindings (registry : Registry) (c : Class) : List Finding :=
  let implementers := (registry.implementers c.name).map Class.dottedName
  let count := implementers.length
  let names := Text.commaList implementers
  let name := c.dottedName
  if implementers.isEmpty then []
  else
    [openClosed.report .info c.location
      s!"Interface '{name}' supports extensibility with {count} implementation(s): {names}"
      (some .high)]

/-- The findings of `openClosed`.  For a class, coupling is only checked with a registry. -/
def extensibility (settings : Settings) (known : Option Registry) (c : Class) : List Finding :=
  if c.isInterface then
    match known with
    | none => [possibleExtension c]
    | some registry => extensionFindings registry c
  else if c.isAbstract then []
  else
    match known with
    | none => branchFindings settings c
    | some registry => branchFindings settings c ++ couplingFindings registry c

end ClassAudit.Check
