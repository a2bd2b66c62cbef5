import ClassAudit.Check.Basic
import ClassAudit.Text.Search

/-!
# Variables that are never read

Local variables whose slot is never loaded, and private fields that the class itself never reads.
Local variables are known only where the code carries a table of them.
-/

namespace ClassAudit

namespace Method

/-- The first slot behind the receiver and the parameters.  A descriptor that does not parse counts
as one without parameters. -/
def firstLocalSlot (method : Method) : Nat :=
  (if method.access.isStatic then 0 else 1)
    + ((method.type?.map MethodDescriptor.parameterSlots).getD 0)

/-- `firstLocalSlot` in 16 bits; `none` if a sum on the way overflows. -/
def firstLocalSlot? (method : Method) : Option UInt16 :=
  let parameters := (method.type?.map MethodDescriptor.parameterSlots?).getD (some 0)
  parameters.bind (addSlots? (if method.access.isStatic then 0 else 1))

/-- The slots that an operation of `method` reads. -/
def readSlots (method : Method) : List Nat :=
  method.operations.filterMap Operation.usedSlot?

/-- The local variables from slot `first` on that are not in `readSlots`, one per slot and name.
Names with a `$` are exempt. -/
def unreadLocalsFrom (method : Method) (first : Nat) : List LocalVariable :=
  let unread := method.locals.filter fun entry =>
    first ≤ entry.slot && !Text.hasChar entry.name '$' && !method.readSlots.contains entry.slot
  Text.distinctBy (fun entry => (entry.slot, entry.name)) unread

/-- `unreadLocalsFrom` the `firstLocalSlot`. -/
def unreadLocals (method : Method) : List LocalVariable :=
  method.unreadLocalsFrom method.firstLocalSlot

/-- `unreadLocals` by `firstLocalSlot?`; `none` if a sum of slots overflows. -/
def unreadLocals? (method : Method) : Option (List LocalVariable) :=
  method.firstLocalSlot?.map fun first => method.unreadLocalsFrom first.toNat

end Method

namespace Class

/-- The names of the fields of `c` that a method of `c` reads. -/
def readFields (c : Class) : List String :=
  ((c.methods.flatMap Method.fieldReads).filter (·.owner = c.name)).map FieldRef.name

/-- The private fields of `c` that are not in `readFields`.  Exempt are fields with a constant
value, since the compiler inlines it, and `serialVersionUID`. -/
def unreadFields (c : Class) : List Field :=
  c.fields.filter fun field =>
    field.isPrivate && !field.access.isSynthetic && !field.hasConstantValue
      && field.name ≠ "serialVersionUID" && !c.readFields.contains field.name

end Class

namespace Check

def unreadLocal (c : Class) (method : Method) (entry : LocalVariable) : Finding :=
  let name := entry.name
  unusedVariable.report .warning (c.memberLocation method.name)
    s!"Local variable '{name}' is declared but never used"

def unreadField (c : Class) (field : Field) : Finding :=
  let name := field.name
  unusedVariable.report .warning (c.memberLocation name)
    s!"Private field '{name}' is never read (only written or completely unused)"

/-- The findings of `unusedVariable`: those on local variables, then those on fields. -/
def unreadVariables (c : Class) : List Finding :=
  if c.isInterface then []
  else
    (c.methods.flatMap fun method => method.unreadLocals.map (unreadLocal c method))
      ++ c.unreadFields.map (unreadField c)

/-- `unreadVariables` by `unreadLocals?`; `none` if a sum of slots overflows. -/
def unreadVariables? (c : Class) : Option (List Finding) :=
  if c.isInterface then some []
  else
    let locals := collect?
      (fun method => method.unreadLocals?.map (List.map (unreadLocal c method))) c.methods
    locals.map (· ++ c.unreadFields.map (unreadField c))

end Check

end ClassAudit
