import ClassAudit.Check.Basic
import ClassAudit.Partition
import ClassAudit.Text.Search

/-!
# Responsibilities of a class

A class with many fields and many methods holds too much, and so does one whose methods fall into
groups that share no state.

## Shape of the method groups

The methods with a body are the nodes of a graph, by position: two methods of one name are two
nodes. Methods that touch a common instance field of the class belong together.  It is enough to
join each method with the *first* method that touched the same field.
-/

namespace ClassAudit

/-- The methods of a class with the instance fields that each one touches, and the number of
connected components, LCOM4. -/
structure CohesionGraph where
  methods : List (String × List String)
  components : Nat
  deriving DecidableEq, Repr

namespace CohesionGraph

/-- The method is neither abstract, synthetic nor an initializer. -/
def qualifies (method : Method) : Bool :=
  !method.access.isAbstract && !method.access.isSynthetic && !method.isInitializer

/-- The instance fields of `c` that `method` reads or writes, in byte order. -/
def touched (c : Class) (method : Method) : List String :=
  let own := c.instanceFields.map Field.name
  let used := method.fieldUses.filter fun field =>
    !field.isStatic && field.owner = c.name && own.contains field.name
  Text.ordered (used.map FieldRef.name)

/-- The state of joining: `firstUser` maps a field to the first method that touched it. -/
structure Joining where
  firstUser : List (String × Nat)
  groups : Partition

namespace Joining

/-- The transition on `method` touching `field`: `union` with the `firstUser`, or a new entry. -/
def touch (state : Joining) (method : Nat) (field : String) : Joining :=
  match state.firstUser.lookup field with
  | some other => { state with groups := state.groups.union method other }
  | none => { state with firstUser := (field, method) :: state.firstUser }

/-- `touch` for the fields of each method, the methods numbered from `position`. -/
def run (state : Joining) (position : Nat) : List (List String) → Joining
  | [] => state
  | fields :: rest => (fields.foldl (touch · position) state).run (position + 1) rest

end Joining

/-- The number of groups of methods, given the fields that each one touches. -/
def groupCount (touched : List (List String)) : Nat :=
  let start : Joining := { firstUser := [], groups := Partition.singletons touched.length }
  (start.run 0 touched).groups.count.1

/-- The graph of `c`, or `none` with fewer than two methods or without instance fields. -/
def ofClass? (c : Class) : Option CohesionGraph :=
  let methods := c.methods.filter qualifies
  if methods.length < 2 || c.instanceFields.isEmpty then none
  else
    let access := methods.map fun method => (method.name, touched c method)
    some { methods := access, components := groupCount (access.map (·.2)) }

/-- The methods with their fields as text, `method{fields}`. -/
def accessSummary (graph : CohesionGraph) : String :=
  Text.commaList (graph.methods.map fun (method, fields) =>
    method ++ "\x7b" ++ Text.commaList fields ++ "\x7d")

end CohesionGraph

namespace Check

/-- The number of fields that are not synthetic. -/
def ownFieldCount (c : Class) : Nat :=
  c.fields.countP (!·.access.isSynthetic)

/-- `ownFieldCount` exceeds `maxFields`. -/
def hasTooManyFields (settings : Settings) (c : Class) : Bool :=
  settings.maxFields < ownFieldCount c

/-- The number of declared methods exceeds `maxMethods`. -/
def hasTooManyMethods (settings : Settings) (c : Class) : Bool :=
  settings.maxMethods < c.declaredMethods.length

def isGodClass (settings : Settings) (c : Class) : Bool :=
  hasTooManyFields settings c && hasTooManyMethods settings c

/-- The finding on the numbers of fields and methods, an error for `isGodClass`. -/
def sizeFindings (settings : Settings) (c : Class) : List Finding :=
  let fields := ownFieldCount c
  let methods := c.declaredMethods.length
  let maxFields := settings.maxFields
  let maxMethods := settings.maxMethods
  let report := singleResponsibility.report
  if isGodClass settings c then
    [report .error c.location
      (s!"God Class: {fields} fields (max {maxFields}) and {methods} methods (max {maxMethods}); "
        ++ "split it by responsibility")]
  else if hasTooManyFields settings c then
    [report .warning c.location
      s!"Class has {fields} fields (max {maxFields}); it may hold more than one responsibility"]
  else if hasTooManyMethods settings c then
    [report .warning c.location
      s!"Class has {methods} methods (max {maxMethods}); it may hold more than one responsibility"]
  else []

/-- The finding on LCOM4: a warning above `cohesionThreshold`, or an error for `isGodClass`, and an
info if three or more methods form one group. -/
def cohesionFindings (settings : Settings) (c : Class) : List Finding :=
  match CohesionGraph.ofClass? c with
  | none => []
  | some graph =>
    let groups := graph.components
    let methods := graph.methods.length
    let access := graph.accessSummary
    let report := singleResponsibility.report
    if settings.cohesionThreshold < groups then
      [report (if isGodClass settings c then .error else .warning) c.location
        (s!"LCOM4 = {groups}: methods form {groups} separate responsibilities; "
          ++ s!"consider splitting into {groups} classes. Method-field access: {access}")]
    else if groups = 1 ∧ 3 ≤ methods then
      [report .info c.location
        s!"LCOM4 = 1: all {methods} methods share instance state; class is cohesive"]
    else []

/-- The findings of `singleResponsibility`.  Cohesion is checked if `lcom4Enabled`, and not for
interfaces. -/
def responsibilities (settings : Settings) (c : Class) : List Finding :=
  sizeFindings settings c
    ++ (if settings.lcom4Enabled && !c.isInterface then cohesionFindings settings c else [])

end Check

end ClassAudit
