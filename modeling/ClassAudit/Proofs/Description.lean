import ClassAudit.Class.Basic
import ClassAudit.Proofs.Assembly
import ClassAudit.Proofs.Symbol

/-!
# Describing a class

What goes into a class file, said by names: a `ClassDescription` holds no index and no byte of the
layout.  From it two things are made independently of each other.  `write` lays it out as a class
file, with a pool that holds every constant the description needs.  `model` is the class that the
description means.

## Shape of the layout

An attribute is the slot of its name, the number of bytes of its body, and the body.  A table is the
number of its entries and the entries.  Members hold tables of attributes, and a body of code is an
attribute that holds a table of attributes itself.
-/

namespace ClassAudit

namespace Code

/-! ## References from instructions -/

/-- The target of a method call, and whether the pool lists it as an interface method. -/
structure MethodTarget where
  ofInterface : Bool
  ref : MemberRef

/-- The target of an `invokedynamic`. -/
structure DynamicTarget where
  bootstrap : UInt16
  name : String
  descriptor : String

/-- The operands of `Raw` instructions by what they refer to, without indices. -/
def Reference : Operand → Type
  | .field => MemberRef
  | .method => MethodTarget
  | .dynamicCall => DynamicTarget
  | .constant => Symbol
  | .narrowConstant => Symbol

namespace Reference

/-- The pool constant for the operand. -/
def symbol : (operand : Operand) → Reference operand → Symbol
  | .field, (ref : MemberRef) => .member .field ref
  | .method, (target : MethodTarget) =>
    .member (if target.ofInterface then .interfaceMethod else .method) target.ref
  | .dynamicCall, (target : DynamicTarget) =>
    .dynamicCall target.bootstrap target.name target.descriptor
  | .constant, (value : Symbol) => value
  | .narrowConstant, (value : Symbol) => value

/-- The `Operand.Value` that the operand resolves to. -/
def value : (operand : Operand) → Reference operand → operand.Value
  | .field, (ref : MemberRef) => ref
  | .method, (target : MethodTarget) => target.ref
  | .dynamicCall, (target : DynamicTarget) =>
    (⟨target.bootstrap.toNat, target.name, target.descriptor⟩ : DynamicRef)
  | .constant, (value : Symbol) => value.literal
  | .narrowConstant, (value : Symbol) => value.literal

end Reference

/-- The symbol of the constant operand, if the instruction has one. -/
def Raw.symbols : Raw Reference → List Symbol
  | field _ member => [Reference.symbol _ member]
  | call _ member => [Reference.symbol _ member]
  | interfaceCall member _ _ => [Reference.symbol _ member]
  | dynamicCall site _ => [Reference.symbol _ site]
  | constant value => [Reference.symbol _ value]
  | wideConstant value => [Reference.symbol _ value]
  | _ => []

end Code

/-! ## Parts of a description -/

/-- A field; it may be synthetic by its flags or by an attribute. -/
structure FieldDescription where
  flags : UInt16
  name : String
  descriptor : String
  constantValue : Option Symbol
  isMarkedSynthetic : Bool

/-- A row of a `LocalVariableTable`. -/
structure LocalDescription where
  startOffset : UInt16
  length : UInt16
  name : String
  descriptor : String
  slot : UInt16

/-- A debug attribute of a body. -/
inductive DebugTable where
  /-- Start offsets with line numbers. -/
  | lineNumbers (entries : List (UInt16 × UInt16))
  | localVariables (entries : List LocalDescription)

/-- The body of a method. -/
structure BodyDescription where
  maxStack : UInt16
  maxLocals : UInt16
  code : List (Code.Raw Code.Reference)
  tables : List DebugTable

/-- A method; it may be synthetic by its flags or by an attribute. -/
structure MethodDescription where
  flags : UInt16
  name : String
  descriptor : String
  body : Option BodyDescription
  isMarkedSynthetic : Bool

/-- An entry of the bootstrap table: a handle and its static arguments. -/
structure BootstrapDescription where
  action : UInt8
  kind : MemberKind
  ref : MemberRef
  arguments : List Symbol

/-- The content of a class file, without indices. -/
structure ClassDescription where
  minorVersion : UInt16
  majorVersion : UInt16
  /-- Symbols that come first in the pool, whether or not anything refers to them. -/
  constants : List Symbol
  flags : UInt16
  name : String
  /-- `none` for the root class. -/
  superName : Option String
  interfaces : List String
  fields : List FieldDescription
  methods : List MethodDescription
  sourceFile : Option String
  bootstrapMethods : Option (List BootstrapDescription)

/-- The attributes that `write` emits for members and classes. -/
inductive AttributeDescription where
  | constantValue (value : Symbol)
  | synthetic
  | code (body : BodyDescription)
  | sourceFile (name : String)
  | bootstrapMethods (methods : List BootstrapDescription)

/-- The `Synthetic` attribute, if `isMarked`. -/
def AttributeDescription.mark (isMarked : Bool) : List AttributeDescription :=
  if isMarked then [.synthetic] else []

def FieldDescription.attributes (field : FieldDescription) : List AttributeDescription :=
  field.constantValue.toList.map .constantValue ++
    AttributeDescription.mark field.isMarkedSynthetic

def MethodDescription.attributes (method : MethodDescription) : List AttributeDescription :=
  method.body.toList.map .code ++
    AttributeDescription.mark method.isMarkedSynthetic

def ClassDescription.attributes (description : ClassDescription) : List AttributeDescription :=
  description.sourceFile.toList.map .sourceFile ++
    description.bootstrapMethods.toList.map .bootstrapMethods

/-! ## Constants that are needed -/

def LocalDescription.symbols (entry : LocalDescription) : List Symbol :=
  [.text entry.name, .text entry.descriptor]

namespace DebugTable

def name : DebugTable → String
  | lineNumbers _ => "LineNumberTable"
  | localVariables _ => "LocalVariableTable"

def symbols (table : DebugTable) : List Symbol :=
  .text table.name :: match table with
    | lineNumbers _ => []
    | localVariables entries => entries.flatMap LocalDescription.symbols

end DebugTable

def BodyDescription.symbols (body : BodyDescription) : List Symbol :=
  body.code.flatMap Code.Raw.symbols ++ body.tables.flatMap DebugTable.symbols

namespace BootstrapDescription

/-- The handle as a symbol. -/
def handle (method : BootstrapDescription) : Symbol :=
  .handle method.action method.kind method.ref

def symbols (method : BootstrapDescription) : List Symbol :=
  method.handle :: method.arguments

end BootstrapDescription

namespace AttributeDescription

def name : AttributeDescription → String
  | constantValue _ => "ConstantValue"
  | synthetic => "Synthetic"
  | code _ => "Code"
  | sourceFile _ => "SourceFile"
  | bootstrapMethods _ => "BootstrapMethods"

def symbols (attr : AttributeDescription) : List Symbol :=
  .text attr.name :: match attr with
    | constantValue value => [value]
    | synthetic => []
    | code body => body.symbols
    | sourceFile name => [.text name]
    | bootstrapMethods methods => methods.flatMap BootstrapDescription.symbols

end AttributeDescription

def FieldDescription.symbols (field : FieldDescription) : List Symbol :=
  [.text field.name, .text field.descriptor] ++
    field.attributes.flatMap AttributeDescription.symbols

def MethodDescription.symbols (method : MethodDescription) : List Symbol :=
  [.text method.name, .text method.descriptor] ++
    method.attributes.flatMap AttributeDescription.symbols

/-- All symbols of the pool: `constants` first, then those that the rest of the description refers
to. -/
def ClassDescription.symbols (description : ClassDescription) : Symbols :=
  .collect (description.constants ++ .type description.name ::
    (description.superName.toList.map .type ++ description.interfaces.map .type ++
      description.fields.flatMap FieldDescription.symbols ++
      description.methods.flatMap MethodDescription.symbols ++
      description.attributes.flatMap AttributeDescription.symbols))

/-! ## The layout -/

section Layout

variable (slot : Symbol → Nat)

/-- An attribute with its name, its length and `body`. -/
def attributeBytes (name : String) (body : Bytes) : Bytes :=
  bytes2 (slot (.text name)) ++ bytes4 body.length ++ body

def LocalDescription.bytes (entry : LocalDescription) : Bytes :=
  bytes2 entry.startOffset.toNat ++ bytes2 entry.length.toNat ++ bytes2 (slot (.text entry.name)) ++
    bytes2 (slot (.text entry.descriptor)) ++ bytes2 entry.slot.toNat

/-- The entries of the table. -/
def DebugTable.body : DebugTable → Bytes
  | lineNumbers entries =>
    tableBytes (fun entry => bytes2 entry.1.toNat ++ bytes2 entry.2.toNat) entries
  | localVariables entries => tableBytes (LocalDescription.bytes slot) entries

namespace BodyDescription

/-- The code of `body`, with the operands replaced by their slots. -/
def codeBytes (body : BodyDescription) : Bytes :=
  Code.assembleFrom (fun operand reference => slot (Code.Reference.symbol operand reference)) 0
    body.code

/-- The content of a `Code` attribute, with an empty exception table. -/
def bytes (body : BodyDescription) : Bytes :=
  bytes2 body.maxStack.toNat ++ bytes2 body.maxLocals.toNat ++
    bytes4 (body.codeBytes slot).length ++ body.codeBytes slot ++ bytes2 0 ++
    tableBytes (fun table => attributeBytes slot table.name (table.body slot)) body.tables

end BodyDescription

def BootstrapDescription.bytes (method : BootstrapDescription) : Bytes :=
  bytes2 (slot method.handle) ++ tableBytes (fun argument => bytes2 (slot argument)) method.arguments

namespace AttributeDescription

/-- The content of the attribute behind its name and length. -/
def body : AttributeDescription → Bytes
  | constantValue value => bytes2 (slot value)
  | synthetic => []
  | code body => body.bytes slot
  | sourceFile name => bytes2 (slot (.text name))
  | bootstrapMethods methods => tableBytes (BootstrapDescription.bytes slot) methods

def bytes (attr : AttributeDescription) : Bytes :=
  attributeBytes slot attr.name (attr.body slot)

end AttributeDescription

/-- A `field_info` or `method_info` structure. -/
def memberBytes (flags : UInt16) (name descriptor : String)
    (attributes : List AttributeDescription) : Bytes :=
  bytes2 flags.toNat ++ bytes2 (slot (.text name)) ++ bytes2 (slot (.text descriptor)) ++
    tableBytes (AttributeDescription.bytes slot) attributes

def FieldDescription.bytes (field : FieldDescription) : Bytes :=
  memberBytes slot field.flags field.name field.descriptor field.attributes

def MethodDescription.bytes (method : MethodDescription) : Bytes :=
  memberBytes slot method.flags method.name method.descriptor method.attributes

end Layout

namespace ClassDescription

/-- The index of the superclass, 0 for the root class. -/
def superSlot (description : ClassDescription) : Nat :=
  match description.superName with
  | none => 0
  | some name => description.symbols.slot (.type name)

/-- The class file of the description. -/
def write (description : ClassDescription) : Bytes :=
  let slot := description.symbols.slot
  bytes4 0xCAFEBABE ++ (bytes2 description.minorVersion.toNat ++
    bytes2 description.majorVersion.toNat) ++
    ConstantPool.bytes description.symbols.constants ++ bytes2 description.flags.toNat ++
    bytes2 (slot (.type description.name)) ++ bytes2 description.superSlot ++
    tableBytes (fun name => bytes2 (slot (.type name))) description.interfaces ++
    tableBytes (FieldDescription.bytes slot) description.fields ++
    tableBytes (MethodDescription.bytes slot) description.methods ++
    tableBytes (AttributeDescription.bytes slot) description.attributes

end ClassDescription

/-! ## What is described -/

/-- `bit` is set in `flags`. -/
def hasFlag (flags bit : UInt16) : Bool :=
  flags &&& bit != 0

/-- The visibility that `flags` give; `pub` takes precedence over `priv`, and `priv` over `prot`. -/
def flagVisibility (flags : UInt16) : Visibility :=
  if hasFlag flags 0x0001 then .pub
  else if hasFlag flags 0x0002 then .priv
  else if hasFlag flags 0x0004 then .prot
  else .pkg

def FieldDescription.model (field : FieldDescription) : Field :=
  { name := field.name
    descriptor := field.descriptor
    access := {
      visibility := flagVisibility field.flags
      isStatic := hasFlag field.flags 0x0008
      isFinal := hasFlag field.flags 0x0010
      isSynthetic := hasFlag field.flags 0x1000 || field.isMarkedSynthetic }
    hasConstantValue := field.constantValue.isSome }

def LocalDescription.model (entry : LocalDescription) : LocalVariable :=
  { name := entry.name
    descriptor := entry.descriptor
    slot := entry.slot.toNat
    startOffset := entry.startOffset.toNat
    length := entry.length.toNat }

namespace DebugTable

/-- The entries of a line number table. -/
def lines : DebugTable → List (Nat × Nat)
  | lineNumbers entries => entries.map fun entry => (entry.1.toNat, entry.2.toNat)
  | localVariables _ => []

/-- The entries of a local variable table. -/
def locals : DebugTable → List LocalDescription
  | lineNumbers _ => []
  | localVariables entries => entries

end DebugTable

namespace BodyDescription

/-- The `LineTable` of all tables of the body. -/
def lineTable (body : BodyDescription) : LineTable :=
  .ofEntries (body.tables.flatMap DebugTable.lines)

/-- The `Instruction`s of the body, as `Code.listFrom` gives them. -/
def instructions (body : BodyDescription) (methods : List BootstrapMethod) : List Instruction :=
  Code.listFrom Code.Reference.value methods body.lineTable 0 body.code

/-- The `LocalVariable`s of all tables, in order. -/
def locals (body : BodyDescription) : List LocalVariable :=
  (body.tables.flatMap DebugTable.locals).map LocalDescription.model

end BodyDescription

def MethodDescription.model (methods : List BootstrapMethod) (method : MethodDescription) :
    Method :=
  { name := method.name
    descriptor := method.descriptor
    access := {
      visibility := flagVisibility method.flags
      isStatic := hasFlag method.flags 0x0008
      isFinal := hasFlag method.flags 0x0010
      isAbstract := hasFlag method.flags 0x0400
      isSynthetic := hasFlag method.flags 0x1000 || method.isMarkedSynthetic
      isBridge := hasFlag method.flags 0x0040 }
    instructions := match method.body with
      | some body => body.instructions methods
      | none => []
    locals := match method.body with
      | some body => body.locals
      | none => [] }

/-- The owner and the name behind the handle; `none` for the handle of a field. -/
def BootstrapDescription.model (method : BootstrapDescription) : BootstrapMethod :=
  if method.kind = .field then { owner := none, name := none }
  else { owner := some method.ref.owner, name := some method.ref.name }

/-- The `Class` that the description stands for. -/
def ClassDescription.model (description : ClassDescription) : Class :=
  { name := description.name
    superName := description.superName
    interfaces := description.interfaces
    access := {
      isPublic := hasFlag description.flags 0x0001
      isFinal := hasFlag description.flags 0x0010
      isInterface := hasFlag description.flags 0x0200
      isAbstract := hasFlag description.flags 0x0400
      isSynthetic := hasFlag description.flags 0x1000
      isAnnotation := hasFlag description.flags 0x2000
      isEnum := hasFlag description.flags 0x4000 }
    sourceFile := description.sourceFile
    fields := description.fields.map FieldDescription.model
    methods := description.methods.map (MethodDescription.model
      ((description.bootstrapMethods.getD []).map BootstrapDescription.model)) }

/-! ## Limits of the format -/

namespace DebugTable

/-- The number of entries fits two bytes. -/
def Fits : DebugTable → Prop
  | lineNumbers entries => entries.length < 65536
  | localVariables entries => entries.length < 65536

end DebugTable

/-- The lengths and operands of `body` fit their fields. -/
structure BodyDescription.Fits (slot : Symbol → Nat) (body : BodyDescription) : Prop where
  code : (body.codeBytes slot).length < 4294967296
  /-- The slot of every operand is below its `limit`. -/
  operands : ∀ raw ∈ body.code, raw.All fun operand reference =>
    slot (Code.Reference.symbol operand reference) < operand.limit
  tables : body.tables.length < 65536
  entries : ∀ table ∈ body.tables, table.Fits

/-- The description is within the limits of the class file format. -/
structure ClassDescription.Fits (description : ClassDescription) : Prop where
  pool : description.symbols.slotCount < 65536
  texts : ∀ symbol ∈ description.symbols, symbol.Short
  interfaces : description.interfaces.length < 65536
  fields : description.fields.length < 65536
  methods : description.methods.length < 65536
  bodies : ∀ method ∈ description.methods, ∀ body ∈ method.body,
    body.Fits description.symbols.slot
  bootstrapMethods : ∀ methods ∈ description.bootstrapMethods, methods.length < 65536
  arguments : ∀ methods ∈ description.bootstrapMethods, ∀ method ∈ methods,
    method.arguments.length < 65536

/-! The limits can be checked. -/

instance {ρ : Code.Operand → Type} (P : (operand : Code.Operand) → ρ operand → Prop)
    [∀ operand reference, Decidable (P operand reference)] (raw : Code.Raw ρ) :
    Decidable (raw.All P) :=
  match raw with
  | .field _ _ | .call _ _ | .interfaceCall _ _ _ | .dynamicCall _ _ | .constant _
  | .wideConstant _ => inferInstanceAs (Decidable (P _ _))
  | .plain _ _ _ _ | .shortLoad _ _ | .load _ _ | .wideLoad _ _ | .shortStore _ _ | .store _ _
  | .wideStore _ _ | .increment _ _ | .wideIncrement _ _ | .wideRet _ | .branch _ _ _
  | .tableSwitch _ _ _ _ _ _ | .lookupSwitch _ _ _ => isTrue trivial

instance (table : DebugTable) : Decidable table.Fits :=
  match table with
  | .lineNumbers _ => inferInstanceAs (Decidable (_ < _))
  | .localVariables _ => inferInstanceAs (Decidable (_ < _))

instance (slot : Symbol → Nat) (body : BodyDescription) : Decidable (body.Fits slot) :=
  decidable_of_iff (_ ∧ _ ∧ _ ∧ _)
    ⟨fun ⟨code, operands, tables, entries⟩ => ⟨code, operands, tables, entries⟩,
      fun fits => ⟨fits.code, fits.operands, fits.tables, fits.entries⟩⟩

instance (description : ClassDescription) : Decidable description.Fits :=
  decidable_of_iff (_ ∧ _ ∧ _ ∧ _ ∧ _ ∧ _ ∧ _ ∧ _)
    ⟨fun ⟨pool, texts, interfaces, fields, methods, bodies, bootstrapMethods, arguments⟩ =>
        ⟨pool, texts, interfaces, fields, methods, bodies, bootstrapMethods, arguments⟩,
      fun fits => ⟨fits.pool, fits.texts, fits.interfaces, fits.fields, fits.methods, fits.bodies,
        fits.bootstrapMethods, fits.arguments⟩⟩

end ClassAudit
