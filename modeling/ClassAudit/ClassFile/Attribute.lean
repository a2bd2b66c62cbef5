import ClassAudit.ClassFile.ConstantPool
import ClassAudit.ClassFile.Metadata

/-!
# Attributes

The named, nested records of a class file.  Every name of the format that is listed here is accepted
in every place, and any other name refuses the file.

## Shape of an attribute

An attribute is its name, a length, and a body.  The body is read by its own structure and the
length does not delimit it; for two kinds of annotation attribute the file must merely hold as many
bytes as the length says.  Attributes nest inside code and record components, so the reader takes a
bound on the depth, for which the number of bytes of the file is always enough.
-/

namespace ClassAudit

/-- An entry of the `LocalVariableTable`, with indices into the pool. -/
structure LocalVariableEntry where
  startOffset : Nat
  length : Nat
  name : Nat
  descriptor : Nat
  slot : Nat
  deriving DecidableEq, Repr

/-- An attribute, as far as `RawClass.build` depends on it. -/
inductive Attribute where
  | constantValue (value : Nat)
  | code (bytes : Bytes) (attributes : List Attribute)
  | synthetic
  | sourceFile (name : Nat)
  /-- Pairs of start offset and line number. -/
  | lineNumbers (entries : List (Nat × Nat))
  | localVariables (entries : List LocalVariableEntry)
  /-- The index of the method handle of each bootstrap method. -/
  | bootstrapMethods (handles : List Nat)
  /-- Any attribute whose content is only checked. -/
  | other
  deriving Repr

namespace Attribute

/-- An entry of the `LineNumberTable`. -/
def readLine : Reader (Nat × Nat) := do
  let start ← Reader.u2
  return (start, ← Reader.u2)

/-- An entry of the `LocalVariableTable`. -/
def readLocal : Reader LocalVariableEntry := do
  let startOffset ← Reader.u2
  let length ← Reader.u2
  let name ← Reader.u2
  let descriptor ← Reader.u2
  return { startOffset, length, name, descriptor, slot := ← Reader.u2 }

/-- An entry of the `BootstrapMethods`, of which only the handle is kept. -/
def readBootstrap : Reader Nat := do
  let handle ← Reader.u2
  let _ ← Reader.numbers
  return handle

/-- `reader` with its result dropped. -/
def ignoring {α : Type} (reader : Reader α) : Reader Attribute := do
  let _ ← reader
  return .other

/-- The body of a `Code` attribute: limits, code, exception table and nested attributes. -/
def readCode (nested : Reader Attribute) : Reader Attribute := do
  Reader.skip 4
  let length ← Reader.u4
  let bytes ← Reader.take length
  let _ ← Reader.table (Reader.skip 8)
  return .code bytes (← Reader.table nested)

/-- A component of a `Record` attribute. -/
def readComponent (nested : Reader Attribute) : Reader Unit := do
  Reader.skip 4
  let _ ← Reader.table nested
  return ()

/-- The body of the attribute `name`. -/
def readBody (depth : Nat) (nested : Reader Attribute) (name : String) (length : Nat) :
    Reader Attribute :=
  match name with
  | "ConstantValue" => do return .constantValue (← Reader.u2)
  | "Code" => readCode nested
  | "Exceptions" => ignoring Reader.numbers
  | "Synthetic" => return .synthetic
  | "Deprecated" => return .other
  | "SourceFile" => do return .sourceFile (← Reader.u2)
  | "LineNumberTable" => do return .lineNumbers (← Reader.table readLine)
  | "LocalVariableTable" => do return .localVariables (← Reader.table readLocal)
  | "InnerClasses" => ignoring (Reader.table (Reader.skip 8))
  | "EnclosingMethod" => ignoring (Reader.skip 4)
  | "Signature" => ignoring (Reader.skip 2)
  | "LocalVariableTypeTable" => ignoring (Reader.table (Reader.skip 10))
  | "RuntimeVisibleAnnotations" => ignoring do
      Reader.available length
      Metadata.entries depth
  | "RuntimeInvisibleAnnotations" => ignoring (Metadata.entries depth)
  | "RuntimeVisibleParameterAnnotations" => ignoring (Metadata.parameterEntries depth)
  | "RuntimeVisibleTypeAnnotations" => ignoring (Metadata.typeEntries depth)
  | "AnnotationDefault" => ignoring do
      Reader.available length
      Metadata.elementValue depth
  | "StackMapTable" => ignoring (Reader.table StackMap.frame)
  | "BootstrapMethods" => do return .bootstrapMethods (← Reader.table readBootstrap)
  | "MethodParameters" => ignoring do
      let parameters ← Reader.u1
      Reader.times parameters (Reader.skip 4)
  | "NestHost" => ignoring (Reader.skip 2)
  | "NestMembers" => ignoring Reader.numbers
  | "Record" => ignoring (Reader.table (readComponent nested))
  | "PermittedSubclasses" => ignoring Reader.numbers
  | _ => Reader.refuse

/-- An attribute, nested at most `depth` levels. -/
def read (pool : ConstantPool) : Nat → Reader Attribute
  | 0 => Reader.refuse
  | depth + 1 => do
    let nameIndex ← Reader.u2
    let length ← Reader.u4
    match pool.text? nameIndex with
    | none => Reader.refuse
    | some name => readBody depth (read pool depth) name length

/-- The entries of all `LineNumberTable`s, in order. -/
def lines (attributes : List Attribute) : List (Nat × Nat) :=
  attributes.flatMap fun
    | .lineNumbers entries => entries
    | _ => []

/-- The entries of all `LocalVariableTable`s, in order. -/
def localEntries (attributes : List Attribute) : List LocalVariableEntry :=
  attributes.flatMap fun
    | .localVariables entries => entries
    | _ => []

/-- There is a `Synthetic` attribute. -/
def marksSynthetic (attributes : List Attribute) : Bool :=
  attributes.any fun
    | .synthetic => true
    | _ => false

/-- There is a `ConstantValue` attribute. -/
def givesConstant (attributes : List Attribute) : Bool :=
  attributes.any fun
    | .constantValue _ => true
    | _ => false

/-- The handles of the first `BootstrapMethods` attribute, or none without one. -/
def bootstrapHandles (attributes : List Attribute) : List Nat :=
  (attributes.findSome? fun
    | .bootstrapMethods handles => some handles
    | _ => none).getD []

/-- The index in the first `SourceFile` attribute. -/
def sourceFile? (attributes : List Attribute) : Option Nat :=
  attributes.findSome? fun
    | .sourceFile name => some name
    | _ => none

/-- The `Code` attributes with their nested attributes, in order. -/
def bodies (attributes : List Attribute) : List (Bytes × List Attribute) :=
  attributes.filterMap fun
    | .code bytes nested => some (bytes, nested)
    | _ => none

end Attribute

end ClassAudit
