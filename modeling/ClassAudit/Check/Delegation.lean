import ClassAudit.Check.Basic
import ClassAudit.Text.Search

/-!
# Delegation

A class that hands calls on to an object in one of its fields.  If the class is of the type of
that field it *decorates* the object; if it implements an interface that the object knows nothing
of it *adapts* the object.
-/

namespace ClassAudit

namespace Class

/-- The calls on `owner` in methods of `c` other than constructors, except for calls of `<init>`. -/
def delegations (c : Class) (owner : String) : List CallSite :=
  ((c.methods.filter (!·.isConstructor)).flatMap Method.calls).filter fun site =>
    site.owner = owner && site.name ≠ "<init>"

end Class

namespace Check

/-! ## Adapters -/

/-- `Object`, `String` and the boxed primitive types. -/
def isValueType (name : String) : Bool :=
  ["java/lang/Object", "java/lang/String", "java/lang/Integer", "java/lang/Long", "java/lang/Short",
   "java/lang/Byte", "java/lang/Character", "java/lang/Boolean", "java/lang/Float",
   "java/lang/Double"].contains name

/-- `type` is `c` itself, one of its interfaces or its superclass. -/
def isRelated (c : Class) (type : String) : Bool :=
  type = c.name || c.implements type || c.superName = some type

/-- The type of `field` if it is neither `isRelated` to `c` nor an `isValueType`. -/
def adaptee? (c : Class) (field : Field) : Option String :=
  field.objectType?.filter fun type => !isRelated c type && !isValueType type

/-- `adaptee` is known and implements an interface of `c`. -/
def implementsTarget (c : Class) (adaptee : Option Class) : Bool :=
  adaptee.any fun known => c.interfaces.any known.implements

/-- `registry` resolves every interface of `c` to an interface. -/
def targetsVerified (registry : Registry) (c : Class) : Bool :=
  c.interfaces.all fun target => (registry.resolve? target).any Class.isInterface

/-- The confidence that `c` adapts `adaptee`; `none` if `implementsTarget` holds. -/
def adapterConfidence? (known : Option Registry) (c : Class) (adaptee : String) :
    Option Confidence :=
  match known with
  | none => some .medium
  | some registry =>
    let resolved := registry.resolve? adaptee
    if implementsTarget c resolved then none
    else if targetsVerified registry c then some (Registry.confidence resolved)
    else some .medium

/-- The finding on `field` if its type is an `adaptee?` with `delegations` and an
`adapterConfidence?`. -/
def adapterFinding? (known : Option Registry) (c : Class) (field : Field) : Option Finding := do
  let adaptee ← adaptee? c field
  let count := (c.delegations adaptee).length
  if count = 0 then none
  else
    let confidence ← adapterConfidence? known c adaptee
    let name := c.dottedName
    let adapted := TypeName.dotted adaptee
    let fieldName := field.name
    let targets := Text.commaList (c.interfaces.map TypeName.dotted)
    some (adapterPattern.report .info c.location
      (s!"Adapter pattern: '{name}' adapts '{adapted}' (field '{fieldName}') to {targets}; "
        ++ s!"{count} delegating call(s)")
      (some confidence))

/-- The findings of `adapterPattern`, on the instance fields of a concrete class with interfaces. -/
def adapters (known : Option Registry) (c : Class) : List Finding :=
  if !c.isConcrete || c.interfaces.isEmpty then []
  else c.instanceFields.filterMap (adapterFinding? known c)

/-! ## Decorators -/

/-- The confidence in a finding about `type`, by what the registry resolves it to; `medium` without
one. -/
def typeConfidence (known : Option Registry) (type : String) : Confidence :=
  match known with
  | none => .medium
  | some registry => Registry.confidence (registry.resolve? type)

/-- The finding on `field` if its type is a direct supertype of `c` with `delegations`. -/
def decoratorFinding? (known : Option Registry) (c : Class) (field : Field) : Option Finding := do
  let wrapped ← field.objectType?
  let count := (c.delegations wrapped).length
  if !c.supertypes.contains wrapped || count = 0 then none
  else
    let name := c.dottedName
    let fieldName := field.name
    let type := TypeName.dotted wrapped
    some (decoratorPattern.report .info c.location
      (s!"Decorator pattern: '{name}' wraps field '{fieldName}' of type '{type}' "
        ++ s!"and delegates {count} call(s)")
      (some (typeConfidence known wrapped)))

/-- The findings of `decoratorPattern`, on the instance fields of a concrete class. -/
def decorators (known : Option Registry) (c : Class) : List Finding :=
  if c.isConcrete then c.instanceFields.filterMap (decoratorFinding? known c) else []

end Check

end ClassAudit
