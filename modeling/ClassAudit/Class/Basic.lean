import ClassAudit.Class.Instruction

/-!
# Classes

The structural model of one compiled class or interface: its names, its members and their bodies,
with the views of it that analyses share.
-/

namespace ClassAudit

inductive Visibility where
  | pub
  | prot
  | pkg
  | priv
  deriving DecidableEq, Repr

namespace Visibility

/-- The visibility of the three access bits, of which `isPublic` takes precedence, then `isPrivate`.
-/
def ofBits (isPublic isPrivate isProtected : Bool) : Visibility :=
  if isPublic then .pub
  else if isPrivate then .priv
  else if isProtected then .prot
  else .pkg

end Visibility

/-- The access flags of a `Class`. -/
structure ClassAccess where
  isPublic : Bool := false
  isFinal : Bool := false
  isInterface : Bool := false
  isAbstract : Bool := false
  isSynthetic : Bool := false
  isAnnotation : Bool := false
  isEnum : Bool := false
  deriving DecidableEq, Repr

/-- The access flags of a `Field`. -/
structure FieldAccess where
  visibility : Visibility := .pkg
  isStatic : Bool := false
  isFinal : Bool := false
  isSynthetic : Bool := false
  deriving DecidableEq, Repr

structure Field where
  name : String
  descriptor : String
  access : FieldAccess
  /-- The field has a `ConstantValue` attribute, so that compilers inline its value. -/
  hasConstantValue : Bool
  deriving DecidableEq, Repr

/-- The access flags of a `Method`. -/
structure MethodAccess where
  visibility : Visibility := .pkg
  isStatic : Bool := false
  isFinal : Bool := false
  isAbstract : Bool := false
  isSynthetic : Bool := false
  isBridge : Bool := false
  deriving DecidableEq, Repr

/-- An entry of the `LocalVariableTable`. -/
structure LocalVariable where
  name : String
  descriptor : String
  slot : Nat
  startOffset : Nat
  length : Nat
  deriving DecidableEq, Repr

/-- A declared method.  `instructions` is empty if it has no code. -/
structure Method where
  name : String
  descriptor : String
  access : MethodAccess
  instructions : List Instruction
  locals : List LocalVariable
  deriving DecidableEq, Repr

/-- A class or interface, under its internal name. -/
structure Class where
  name : String
  superName : Option String
  interfaces : List String
  access : ClassAccess
  sourceFile : Option String
  fields : List Field
  methods : List Method
  deriving DecidableEq, Repr

namespace Field

/-- The type that `descriptor` parses to. -/
def type? (field : Field) : Option TypeDescriptor :=
  TypeDescriptor.ofField? field.descriptor

/-- The source name of the type, or `descriptor` itself if it does not parse. -/
def typeName (field : Field) : String :=
  TypeDescriptor.fieldTypeName field.descriptor

/-- The internal name of the type if it is an object type. -/
def objectType? (field : Field) : Option String :=
  field.type?.bind TypeDescriptor.internalName?

def isPrivate (field : Field) : Bool :=
  field.access.visibility = .priv

/-- The field is neither static nor synthetic. -/
def isInstance (field : Field) : Bool :=
  !field.access.isStatic && !field.access.isSynthetic

end Field

namespace Method

def isConstructor (method : Method) : Bool :=
  method.name = "<init>"

def isStaticInitializer (method : Method) : Bool :=
  method.name = "<clinit>"

/-- The method is `<init>` or `<clinit>`. -/
def isInitializer (method : Method) : Bool :=
  method.isConstructor || method.isStaticInitializer

/-- The type that `descriptor` parses to. -/
def type? (method : Method) : Option MethodDescriptor :=
  MethodDescriptor.ofText? method.descriptor

/-- The source name of the result type, or `descriptor` itself if it does not parse. -/
def resultTypeName (method : Method) : String :=
  match method.type? with
  | some type => type.result.sourceName
  | none => method.descriptor

/-- The source names of the parameter types, or none if `descriptor` does not parse. -/
def parameterTypeNames (method : Method) : List String :=
  match method.type? with
  | some type => type.parameters.map TypeDescriptor.sourceName
  | none => []

/-- The operations of `instructions`, in order. -/
def operations (method : Method) : List Operation :=
  method.instructions.map Instruction.operation

/-- The call sites of `method`, in order. -/
def calls (method : Method) : List CallSite :=
  method.operations.filterMap Operation.call?

/-- The `invokedynamic` sites of `method`, in order. -/
def dynamicCalls (method : Method) : List DynamicCall :=
  method.operations.filterMap Operation.dynamicCall?

/-- The fields that `method` reads or writes, in order. -/
def fieldUses (method : Method) : List FieldRef :=
  method.operations.filterMap Operation.field?

/-- The fields that `method` reads, in order. -/
def fieldReads (method : Method) : List FieldRef :=
  method.operations.filterMap Operation.readField?

/-- The number of conditional branches and switches. -/
def branchCount (method : Method) : Nat :=
  method.operations.countP Operation.isBranching

theorem mem_calls {method : Method} {site : CallSite} :
    site ∈ method.calls ↔
      ∃ instruction ∈ method.instructions, instruction.operation = .call site := by
  simp only [calls, operations, List.filterMap_map, List.mem_filterMap, Function.comp_apply,
    Operation.call?_eq_some_iff]

end Method

namespace Class

/-- The name with dots. -/
def dottedName (c : Class) : String :=
  TypeName.dotted c.name

/-- The name without its package. -/
def simpleName (c : Class) : String :=
  TypeName.simple c.name

def isInterface (c : Class) : Bool :=
  c.access.isInterface

/-- `ACC_ABSTRACT` is set, and `ACC_INTERFACE` is not. -/
def isAbstract (c : Class) : Bool :=
  c.access.isAbstract && !c.access.isInterface

/-- Neither `ACC_INTERFACE` nor `ACC_ABSTRACT` is set. -/
def isConcrete (c : Class) : Bool :=
  !c.access.isInterface && !c.access.isAbstract

/-- `interfaceName` is a direct superinterface of `c`. -/
def implements (c : Class) (interfaceName : String) : Bool :=
  c.interfaces.contains interfaceName

def rootName : String := "java/lang/Object"

/-- The superclass, unless it is `rootName`, followed by the interfaces. -/
def supertypes (c : Class) : List String :=
  (c.superName.filter (· ≠ rootName)).toList ++ c.interfaces

/-- The first field with the given name. -/
def field? (c : Class) (name : String) : Option Field :=
  c.fields.find? (·.name = name)

/-- The fields that satisfy `isInstance`. -/
def instanceFields (c : Class) : List Field :=
  c.fields.filter Field.isInstance

/-- The methods that are neither initializers nor synthetic. -/
def declaredMethods (c : Class) : List Method :=
  c.methods.filter fun m => !m.isInitializer && !m.access.isSynthetic

/-- The call sites of all methods, in order. -/
def calls (c : Class) : List CallSite :=
  c.methods.flatMap Method.calls

end Class

end ClassAudit
