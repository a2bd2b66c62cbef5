import ClassAudit.Code.LineTable
import ClassAudit.Code.Opcode
import ClassAudit.Class.Instruction
import ClassAudit.ClassFile.ConstantPool

/-!
# Decoding bytecode

The body of a method as a list of instructions.  Instructions lie one after the other; how many
bytes one takes depends on its opcode, on a `wide` before it, and for the switches on its offset,
since their tables start at a multiple of four.

## Shape of the decoder

`decodeOne` looks at the bytes from one offset on and says what the instruction there does and how
many bytes it takes.  It reads the operands first, follows them into the constant pool next, and
does not yet ask whether the bytes behind the operands are there; `decodeFrom` does that and goes
on behind the instruction.  A fault names the first operand that could not be read, or else the
instruction.

`decodeFrom` walks over the bytes one at a time and counts those that belong to the instruction
under way, so it is a recursion on the bytes themselves.
-/

namespace ClassAudit

/-- The bootstrap method of an `invokedynamic`, `none` where it cannot be resolved. -/
structure BootstrapMethod where
  owner : Option String
  name : Option String
  deriving DecidableEq, Repr

namespace Code

/-- The constants and bootstrap methods that code refers to. -/
structure Context where
  pool : ConstantPool
  bootstrapMethods : List BootstrapMethod

/-! ## Operands

The readers take the bytes from the instruction on, the offset of the instruction, and the
distance of the operand from it. -/

/-- The byte at `distance` from the opcode at `offset`. -/
def operand1 (code : Bytes) (offset distance : Nat) : Except Fault Nat :=
  match code.drop distance with
  | a :: _ => .ok a.toNat
  | _ => .error (.truncated (offset + distance))

/-- The two-byte number at `distance` from the opcode at `offset`. -/
def operand2 (code : Bytes) (offset distance : Nat) : Except Fault Nat :=
  match code.drop distance with
  | a :: b :: _ => .ok (a.toNat * 256 + b.toNat)
  | _ => .error (.truncated (offset + distance))

/-- The signed four-byte number at `distance` from the opcode at `offset`. -/
def operand4 (code : Bytes) (offset distance : Nat) : Except Fault Int :=
  match code.drop distance with
  | a :: b :: c :: d :: _ =>
    let n := ((a.toNat * 256 + b.toNat) * 256 + c.toNat) * 256 + d.toNat
    .ok (if n < 2147483648 then n else (n : Int) - 4294967296)
  | _ => .error (.truncated (offset + distance))

/-! ## Single instructions -/

/-- The number of bytes between the opcode of a switch and the next multiple of four. -/
def padding (offset : Nat) : Nat :=
  (4 - (offset + 1) % 4) % 4

/-- The width of a `tableswitch`: opcode, padding, default, bounds, and one target per value between
the bounds. -/
def tableSwitchWidth (code : Bytes) (offset : Nat) : Except Fault Nat := do
  let base := 1 + padding offset
  let low ← operand4 code offset (base + 4)
  let high ← operand4 code offset (base + 8)
  let count := high - low + 1
  if count < 0 then throw (.badSwitch offset)
  return base + 12 + 4 * count.toNat

/-- The width of a `lookupswitch`: opcode, padding, default, number of pairs, and the pairs. -/
def lookupSwitchWidth (code : Bytes) (offset : Nat) : Except Fault Nat := do
  let base := 1 + padding offset
  let pairs ← operand4 code offset (base + 4)
  if pairs < 0 then throw (.badSwitch offset)
  return base + 8 + 8 * pairs.toNat

/-- The instruction behind a `wide`, which has a two-byte slot. -/
def decodeWide (code : Bytes) (offset : Nat) : Except Fault (Operation × Nat) := do
  let inner := (← operand1 code offset 1).toUInt8
  let slot ← operand2 code offset 2
  if inner = Opcode.iinc then return (.increment slot, 6)
  else if Opcode.between Opcode.iload Opcode.aload inner then return (.load slot, 4)
  else if Opcode.between Opcode.istore Opcode.astore inner then return (.store slot, 4)
  else if inner = Opcode.ret then return (.other, 4)
  else throw (.unknownOpcode inner (offset + 1))

/-- The operation of an `ldc` with the given `index`. -/
def decodeConstant (context : Context) (index : Nat) : Except Fault Operation := do
  match (← context.pool.stringLiteral index) with
  | some value => return .text value
  | none => return .other

/-- The operation of a `getfield`, `putfield`, `getstatic` or `putstatic`. -/
def decodeField (context : Context) (op : UInt8) (index : Nat) : Except Fault Operation := do
  let member ← context.pool.fieldRef index
  let field : FieldRef :=
    { owner := member.owner
      name := member.name
      descriptor := member.descriptor
      isStatic := op = Opcode.getstatic || op = Opcode.putstatic }
  if op = Opcode.getstatic || op = Opcode.getfield then return .readField field
  else return .writeField field

/-- The `CallKind` of an opcode. -/
def callKind (op : UInt8) : CallKind :=
  if op = Opcode.invokevirtual then .virtual
  else if op = Opcode.invokespecial then .special
  else if op = Opcode.invokestatic then .static
  else .interface

/-- The operation of an `invokevirtual`, `invokespecial`, `invokestatic` or `invokeinterface`. -/
def decodeCall (context : Context) (op : UInt8) (offset index : Nat) : Except Fault Operation := do
  let member ← context.pool.methodRef index
  return .call
    { owner := member.owner
      name := member.name
      descriptor := member.descriptor
      kind := callKind op
      offset }

/-- The operation of an `invokedynamic`.  The bootstrap method is `none` for an index beyond the
table. -/
def decodeDynamicCall (context : Context) (index : Nat) : Except Fault Operation := do
  let (bootstrap, name, descriptor) ← context.pool.invokeDynamic index
  let method := context.bootstrapMethods[bootstrap]?
  return .dynamicCall
    { name
      descriptor
      bootstrapOwner := method.bind BootstrapMethod.owner
      bootstrapName := method.bind BootstrapMethod.name }

/-- The operation of the instruction at the front of `code`, and its width. -/
def decodeOne (context : Context) (offset : Nat) (op : UInt8) (code : Bytes) :
    Except Fault (Operation × Nat) := do
  if Opcode.between Opcode.iload Opcode.aload op then
    return (.load (← operand1 code offset 1), 2)
  else if Opcode.between Opcode.iload0 Opcode.aload3 op then
    return (.load ((op.toNat - Opcode.iload0.toNat) % 4), 1)
  else if Opcode.between Opcode.istore Opcode.astore op then
    return (.store (← operand1 code offset 1), 2)
  else if Opcode.between Opcode.istore0 Opcode.astore3 op then
    return (.store ((op.toNat - Opcode.istore0.toNat) % 4), 1)
  else if op = Opcode.iinc then
    return (.increment (← operand1 code offset 1), 3)
  else if op = Opcode.wide then
    decodeWide code offset
  else if Opcode.between Opcode.getstatic Opcode.putfield op then
    return (← decodeField context op (← operand2 code offset 1), 3)
  else if op = Opcode.invokeinterface then
    return (← decodeCall context op offset (← operand2 code offset 1), 5)
  else if Opcode.between Opcode.invokevirtual Opcode.invokestatic op then
    return (← decodeCall context op offset (← operand2 code offset 1), 3)
  else if op = Opcode.invokedynamic then
    return (← decodeDynamicCall context (← operand2 code offset 1), 5)
  else if op = Opcode.ldc then
    return (← decodeConstant context (← operand1 code offset 1), 2)
  else if op = Opcode.ldcWide then
    return (← decodeConstant context (← operand2 code offset 1), 3)
  else if Opcode.between Opcode.ifeq Opcode.ifAcmpne op || op = Opcode.ifnull
      || op = Opcode.ifnonnull then
    return (.branch, 3)
  else if op = Opcode.tableswitch then
    return (.switch, ← tableSwitchWidth code offset)
  else if op = Opcode.lookupswitch then
    return (.switch, ← lookupSwitchWidth code offset)
  else match Opcode.width? op with
    | some width => return (.other, width)
    | none => throw (.unknownOpcode op offset)

/-! ## Whole bodies -/

/-- The instructions of the bytes from `offset` on, of which the first `owed` bytes belong to the
instruction before. -/
def decodeFrom (context : Context) (lines : LineTable) :
    (offset owed : Nat) → Bytes → Except Fault (List Instruction)
  | _, _, [] => .ok []
  | offset, owed + 1, _ :: rest => decodeFrom context lines (offset + 1) owed rest
  | offset, 0, opcode :: rest => do
    let (operation, width) ← decodeOne context offset opcode (opcode :: rest)
    if ((opcode :: rest).drop (width - 1)).isEmpty then throw (.truncated offset)
    let instruction := { offset, opcode, operation, line := lines.lineAt offset }
    let others ← decodeFrom context lines (offset + 1) (width - 1) rest
    return instruction :: others

/-- The instructions of `code`. -/
def decode (context : Context) (lines : LineTable) (code : Bytes) :
    Except Fault (List Instruction) :=
  decodeFrom context lines 0 0 code

end Code

end ClassAudit
