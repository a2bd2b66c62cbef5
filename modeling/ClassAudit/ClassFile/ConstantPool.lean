import ClassAudit.ClassFile.Fault
import ClassAudit.ClassFile.Reader

/-!
# The constant pool

The numbered constants of a class file, and the typed look-ups that follow an index to the text it
stands for.  Slot 0 and the slot after a `long` or `double` are empty.

A look-up that meets a constant of another kind names the index at which it stood, which may be an
index found inside another constant.
-/

namespace ClassAudit

/-- A slot of the constant pool; numbers are indices of other slots or bits.  `empty` is slot 0 and
the second slot of a wide constant. -/
inductive Constant where
  | empty
  | utf8 (text : String)
  | integer (bits : Nat)
  | float (bits : Nat)
  | long (bits : Nat)
  | double (bits : Nat)
  | classInfo (name : Nat)
  | string (text : Nat)
  | fieldRef (owner nameAndType : Nat)
  | methodRef (owner nameAndType : Nat)
  | interfaceMethodRef (owner nameAndType : Nat)
  | nameAndType (name descriptor : Nat)
  | methodHandle (kind reference : Nat)
  | methodType (descriptor : Nat)
  | dynamic (bootstrap nameAndType : Nat)
  | invokeDynamic (bootstrap nameAndType : Nat)
  | module (name : Nat)
  | package (name : Nat)
  deriving DecidableEq, Repr

structure ConstantPool where
  entries : Array Constant
  deriving Repr

/-- A field or method reference, resolved. -/
structure MemberRef where
  owner : String
  name : String
  descriptor : String
  deriving DecidableEq, Repr

namespace Constant

/-- `long` and `double` take two slots. -/
def isWide : Constant → Bool
  | .long _ => true
  | .double _ => true
  | _ => false

/-- Reads a constant, tag first. -/
def read : Reader Constant := do
  match (← Reader.u1) with
  | 1 =>
    let length ← Reader.u2
    let bytes ← Reader.take length
    match Text.ofClassFileBytes bytes with
    | some text => return .utf8 text
    | none => Reader.refuse
  | 3 => return .integer (← Reader.u4)
  | 4 => return .float (← Reader.u4)
  | 5 =>
    let high ← Reader.u4
    return .long (high * 4294967296 + (← Reader.u4))
  | 6 =>
    let high ← Reader.u4
    return .double (high * 4294967296 + (← Reader.u4))
  | 7 => return .classInfo (← Reader.u2)
  | 8 => return .string (← Reader.u2)
  | 9 =>
    let owner ← Reader.u2
    return .fieldRef owner (← Reader.u2)
  | 10 =>
    let owner ← Reader.u2
    return .methodRef owner (← Reader.u2)
  | 11 =>
    let owner ← Reader.u2
    return .interfaceMethodRef owner (← Reader.u2)
  | 12 =>
    let name ← Reader.u2
    return .nameAndType name (← Reader.u2)
  | 15 =>
    let kind ← Reader.u1
    return .methodHandle kind (← Reader.u2)
  | 16 => return .methodType (← Reader.u2)
  | 17 =>
    let bootstrap ← Reader.u2
    return .dynamic bootstrap (← Reader.u2)
  | 18 =>
    let bootstrap ← Reader.u2
    return .invokeDynamic bootstrap (← Reader.u2)
  | 19 => return .module (← Reader.u2)
  | 20 => return .package (← Reader.u2)
  | _ => Reader.refuse

end Constant

namespace ConstantPool

/-- Reads the constants that fill `slots` slots. -/
def readSlots : Nat → Reader (List Constant)
  | 0 => pure []
  | 1 => do
    let c ← Constant.read
    return if c.isWide then [c, .empty] else [c]
  | slots + 2 => do
    let c ← Constant.read
    if c.isWide then
      let rest ← readSlots slots
      return c :: .empty :: rest
    else
      let rest ← readSlots (slots + 1)
      return c :: rest

/-- Reads the pool.  The count in front includes slot 0, which has no bytes. -/
def read : Reader ConstantPool := do
  match (← Reader.u2) with
  | 0 => return { entries := #[] }
  | slots + 1 =>
    let constants ← readSlots slots
    return { entries := (Constant.empty :: constants).toArray }

def get? (pool : ConstantPool) (index : Nat) : Option Constant :=
  pool.entries[index]?

/-- The text of the `utf8` constant at `index`. -/
def text? (pool : ConstantPool) (index : Nat) : Option String :=
  match pool.get? index with
  | some (.utf8 text) => some text
  | _ => none

/-- `text?`, with a fault in place of `none`. -/
def text (pool : ConstantPool) (index : Nat) : Except Fault String :=
  match pool.text? index with
  | some text => .ok text
  | none => .error (.badConstant index .utf8)

/-- The name of the `classInfo` constant at `index`. -/
def className (pool : ConstantPool) (index : Nat) : Except Fault String :=
  match pool.get? index with
  | some (.classInfo name) => pool.text name
  | _ => .error (.badConstant index .classInfo)

/-- The name and the descriptor of the `nameAndType` constant at `index`. -/
def nameAndType (pool : ConstantPool) (index : Nat) : Except Fault (String × String) :=
  match pool.get? index with
  | some (.nameAndType name descriptor) => do
    let name ← pool.text name
    let descriptor ← pool.text descriptor
    return (name, descriptor)
  | _ => .error (.badConstant index .nameAndType)

/-- The reference with the given indices of owner and `nameAndType`. -/
def member (pool : ConstantPool) (owner nameAndType : Nat) : Except Fault MemberRef := do
  let owner ← pool.className owner
  let (name, descriptor) ← pool.nameAndType nameAndType
  return { owner, name, descriptor }

/-- The `fieldRef` constant at `index`, resolved. -/
def fieldRef (pool : ConstantPool) (index : Nat) : Except Fault MemberRef :=
  match pool.get? index with
  | some (.fieldRef owner nameAndType) => pool.member owner nameAndType
  | _ => .error (.badConstant index .fieldRef)

/-- The `methodRef` or `interfaceMethodRef` constant at `index`, resolved. -/
def methodRef (pool : ConstantPool) (index : Nat) : Except Fault MemberRef :=
  match pool.get? index with
  | some (.methodRef owner nameAndType) => pool.member owner nameAndType
  | some (.interfaceMethodRef owner nameAndType) => pool.member owner nameAndType
  | _ => .error (.badConstant index .methodRef)

/-- The text of the `string` constant at `index`; `none` for any other constant, and a fault for an
empty slot. -/
def stringLiteral (pool : ConstantPool) (index : Nat) : Except Fault (Option String) :=
  match pool.get? index with
  | some (.string text) => some <$> pool.text text
  | some .empty => .error (.badConstant index .loadable)
  | none => .error (.badConstant index .loadable)
  | some _ => .ok none

/-- The bootstrap index, the name and the descriptor of the `invokeDynamic` constant at `index`. -/
def invokeDynamic (pool : ConstantPool) (index : Nat) : Except Fault (Nat × String × String) :=
  match pool.get? index with
  | some (.invokeDynamic bootstrap nameAndType) => do
    let (name, descriptor) ← pool.nameAndType nameAndType
    return (bootstrap, name, descriptor)
  | _ => .error (.badConstant index .invokeDynamic)

/-- The method of the `methodHandle` constant at `index`, resolved. -/
def methodHandle (pool : ConstantPool) (index : Nat) : Except Fault MemberRef :=
  match pool.get? index with
  | some (.methodHandle _ reference) => pool.methodRef reference
  | _ => .error (.badConstant index .methodHandle)

end ConstantPool

end ClassAudit
