import ClassAudit.Class.Basic
import ClassAudit.Report.Finding

/-!
# The registry

Every class known in one analysis, by name.  Of several classes with one name the first counts and
the others are as if they were not there.  Look-ups take a name in any spelling.
-/

namespace ClassAudit

/-- The known classes, with distinct names and sorted by name. -/
structure Registry where
  classes : List Class
  deriving Repr

namespace Registry

/-- The registry of `classes`.  Of several classes with one name the first is kept. -/
def ofClasses (classes : List Class) : Registry :=
  { classes := (Text.distinctBy Class.name classes).mergeSort fun a b => decide (a.name ≤ b.name) }

def size (registry : Registry) : Nat :=
  registry.classes.length

/-- The class with the internal name of `name`. -/
def resolve? (registry : Registry) (name : String) : Option Class :=
  registry.classes.find? (·.name = TypeName.internal name)

/-- The classes other than interfaces that directly implement `interfaceName`, sorted by name. -/
def implementers (registry : Registry) (interfaceName : String) : List Class :=
  registry.classes.filter fun c =>
    !c.isInterface && c.implements (TypeName.internal interfaceName)

/-- The confidence in a finding about a type that `resolve?` was applied to. -/
def confidence : Option Class → Confidence
  | some _ => .high
  | none => .medium

end Registry

end ClassAudit
