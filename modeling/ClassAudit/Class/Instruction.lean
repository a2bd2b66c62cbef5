import ClassAudit.Class.Descriptor

/-!
# Instructions

What the analyses see of a method body: one operation per instruction, with the names it refers to.
An operation says what is done; where it stands (offset, opcode, line) is kept beside it.
-/

namespace ClassAudit

/-- The field of a `getfield`, `putfield`, `getstatic` or `putstatic`. -/
structure FieldRef where
  owner : String
  name : String
  descriptor : String
  isStatic : Bool
  deriving DecidableEq, Repr

/-- The kind of an invocation, by its opcode. -/
inductive CallKind where
  | virtual
  | interface
  | special
  | static
  deriving DecidableEq, Repr

/-- A call of a method, at an offset of the code. -/
structure CallSite where
  owner : String
  name : String
  descriptor : String
  kind : CallKind
  offset : Nat
  deriving DecidableEq, Repr

/-- A call by `invokedynamic`.  The bootstrap method is `none` if it cannot be resolved. -/
structure DynamicCall where
  name : String
  descriptor : String
  bootstrapOwner : Option String
  bootstrapName : Option String
  deriving DecidableEq, Repr

/-- The effect of an instruction, as far as a check depends on it. -/
inductive Operation where
  | load (slot : Nat)
  | store (slot : Nat)
  | increment (slot : Nat)
  | readField (field : FieldRef)
  | writeField (field : FieldRef)
  | call (site : CallSite)
  | dynamicCall (site : DynamicCall)
  /-- A conditional jump. -/
  | branch
  | switch
  /-- Loads a string constant. -/
  | text (value : String)
  | other
  deriving DecidableEq, Repr

structure Instruction where
  offset : Nat
  opcode : UInt8
  operation : Operation
  /-- The source line, if there is a `LineNumberTable`. -/
  line : Option Nat
  deriving DecidableEq, Repr

namespace CallSite

/-- The result type of the call; `none` for `void` or a descriptor that does not parse. -/
def resultType? (site : CallSite) : Option TypeDescriptor :=
  match MethodDescriptor.ofText? site.descriptor with
  | none => none
  | some method => if method.result = .simple .void then none else some method.result

end CallSite

namespace DynamicCall

/-- The bootstrap method is one of `StringConcatFactory`. -/
def isStringConcat (site : DynamicCall) : Bool :=
  site.bootstrapOwner = some "java/lang/invoke/StringConcatFactory" &&
    (site.bootstrapName = some "makeConcatWithConstants" || site.bootstrapName = some "makeConcat")

end DynamicCall

namespace Operation

def call? : Operation → Option CallSite
  | .call site => some site
  | _ => none

def dynamicCall? : Operation → Option DynamicCall
  | .dynamicCall site => some site
  | _ => none

def readField? : Operation → Option FieldRef
  | .readField field => some field
  | _ => none

/-- The field that is read or written. -/
def field? : Operation → Option FieldRef
  | .readField field => some field
  | .writeField field => some field
  | _ => none

/-- The slot that a `load` or an `increment` reads. -/
def usedSlot? : Operation → Option Nat
  | .load slot => some slot
  | .increment slot => some slot
  | _ => none

def isBranching : Operation → Bool
  | .branch => true
  | .switch => true
  | _ => false

variable {operation : Operation}

theorem call?_eq_some_iff {site : CallSite} :
    operation.call? = some site ↔ operation = .call site := by
  cases operation <;> simp [call?]

theorem readField?_eq_some_iff {field : FieldRef} :
    operation.readField? = some field ↔ operation = .readField field := by
  cases operation <;> simp [readField?]

theorem usedSlot?_eq_some_iff {slot : Nat} :
    operation.usedSlot? = some slot ↔ operation = .load slot ∨ operation = .increment slot := by
  cases operation <;> simp [usedSlot?]

end Operation

end ClassAudit
