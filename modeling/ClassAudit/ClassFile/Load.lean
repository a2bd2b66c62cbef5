import ClassAudit.Code.Decode
import ClassAudit.Class.Basic
import ClassAudit.ClassFile.Layout

/-!
# Loading a class

The model of a class file: its indices followed and its code decoded.  The first reference that
leads nowhere is the fault of the whole class.  References are followed in one fixed order: the
class itself, its superclass, the interfaces, the fields, the methods, the source file.

A bootstrap method that cannot be followed is no fault; it stays unnamed.
-/

namespace ClassAudit

namespace RawClass

def classAccess (flags : Nat) : ClassAccess :=
  { isPublic := AccessBit.inMask flags AccessBit.isPublic
    isFinal := AccessBit.inMask flags AccessBit.isFinal
    isInterface := AccessBit.inMask flags AccessBit.isInterface
    isAbstract := AccessBit.inMask flags AccessBit.isAbstract
    isSynthetic := AccessBit.inMask flags AccessBit.isSynthetic
    isAnnotation := AccessBit.inMask flags AccessBit.isAnnotation
    isEnum := AccessBit.inMask flags AccessBit.isEnum }

/-- The `Visibility` of an access mask. -/
def visibility (flags : Nat) : Visibility :=
  Visibility.ofBits (AccessBit.inMask flags AccessBit.isPublic)
    (AccessBit.inMask flags AccessBit.isPrivate) (AccessBit.inMask flags AccessBit.isProtected)

/-- The `Field` of `raw`.  It is synthetic by its flag or by an attribute. -/
def buildField (pool : ConstantPool) (raw : RawMember) : Except Fault Field := do
  let descriptor ← pool.text raw.descriptor
  let name ← pool.text raw.name
  return {
    name
    descriptor
    access := {
      visibility := visibility raw.flags
      isStatic := AccessBit.inMask raw.flags AccessBit.isStatic
      isFinal := AccessBit.inMask raw.flags AccessBit.isFinal
      isSynthetic := AccessBit.inMask raw.flags AccessBit.isSynthetic
        || Attribute.marksSynthetic raw.attributes }
    hasConstantValue := Attribute.givesConstant raw.attributes }

/-- The `LocalVariable` of `entry`. -/
def buildLocal (pool : ConstantPool) (entry : LocalVariableEntry) :
    Except Fault LocalVariable := do
  let name ← pool.text entry.name
  let descriptor ← pool.text entry.descriptor
  return { name, descriptor, slot := entry.slot, startOffset := entry.startOffset,
           length := entry.length }

/-- The instructions and local variables of a `Code` attribute. -/
def buildBody (context : Code.Context) (body : Bytes × List Attribute) :
    Except Fault (List Instruction × List LocalVariable) := do
  let locals ← (Attribute.localEntries body.2).mapM (buildLocal context.pool)
  let lines := LineTable.ofEntries (Attribute.lines body.2)
  let instructions ← Code.decode context lines body.1
  return (instructions, locals)

/-- The `Method` of `raw`.  Every `Code` attribute must decode, and the last one is used. -/
def buildMethod (context : Code.Context) (raw : RawMember) : Except Fault Method := do
  let bodies ← (Attribute.bodies raw.attributes).mapM (buildBody context)
  let (instructions, locals) := bodies.getLast?.getD ([], [])
  let name ← context.pool.text raw.name
  let descriptor ← context.pool.text raw.descriptor
  return {
    name
    descriptor
    access := {
      visibility := visibility raw.flags
      isStatic := AccessBit.inMask raw.flags AccessBit.isStatic
      isFinal := AccessBit.inMask raw.flags AccessBit.isFinal
      isAbstract := AccessBit.inMask raw.flags AccessBit.isAbstract
      isSynthetic := AccessBit.inMask raw.flags AccessBit.isSynthetic
        || Attribute.marksSynthetic raw.attributes
      isBridge := AccessBit.inMask raw.flags AccessBit.isBridge }
    instructions
    locals }

/-- The bootstrap method of `handle`, without names if it cannot be resolved. -/
def bootstrapMethod (pool : ConstantPool) (handle : Nat) : BootstrapMethod :=
  match pool.methodHandle handle with
  | .ok member => { owner := some member.owner, name := some member.name }
  | .error _ => { owner := none, name := none }

/-- The pool and the bootstrap methods that the code refers to. -/
def context (raw : RawClass) : Code.Context :=
  { pool := raw.pool
    bootstrapMethods := (Attribute.bootstrapHandles raw.attributes).map (bootstrapMethod raw.pool) }

/-- The text at an optional index. -/
def optionalText (pool : ConstantPool) : Option Nat → Except Fault (Option String)
  | none => .ok none
  | some index => some <$> pool.text index

/-- The name of the superclass, `none` for index 0. -/
def superName (pool : ConstantPool) (index : Nat) : Except Fault (Option String) :=
  if index = 0 then .ok none else some <$> pool.className index

/-- The `Class` of `raw`, with all indices resolved. -/
def build (raw : RawClass) : Except Fault Class := do
  let name ← raw.pool.className raw.thisClass
  let superName ← superName raw.pool raw.superClass
  let interfaces ← raw.interfaces.mapM raw.pool.className
  let fields ← raw.fields.mapM (buildField raw.pool)
  let methods ← raw.methods.mapM (buildMethod raw.context)
  let sourceFile ← optionalText raw.pool (Attribute.sourceFile? raw.attributes)
  return {
    name
    superName
    interfaces
    access := classAccess raw.flags
    sourceFile
    fields
    methods }

end RawClass

namespace Class

/-- The class in `bytes`; errors name `unit`. -/
def load (unit : String) (bytes : Bytes) : Except LoadError Class :=
  match RawClass.ofBytes? bytes with
  | none => .error (.rejected unit)
  | some raw =>
    match raw.build with
    | .ok c => .ok c
    | .error fault => .error (.malformed unit fault)

end Class

end ClassAudit
