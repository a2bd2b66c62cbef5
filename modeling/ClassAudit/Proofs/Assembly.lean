import ClassAudit.Proofs.BigEndian
import ClassAudit.Proofs.Decode

/-!
# Assembling bytecode

Every form of instruction, the bytes it is written as and the operation it stands for, and that
decoding undoes writing.

## Shape of an instruction

A `Raw` instruction is one form with its operands.  The number of its bytes depends on the form and,
for the two switches, on the offset: between the opcode and the jump table stand up to three bytes
of padding, of any value.  Operands that refer to constants are left open: they are whatever
`ρ` says, and are written by an index and read as a value.  With `Resolved` operands every index
leads to a constant of the right kind that has that value.

## Shape of the proof

`decodeOne_bytes` decodes one instruction in front of any bytes, form by form.  Since the width of
an instruction is the number of bytes it was written as, the walk over the body stays on the starts
of instructions, and `decodeFrom_assembleFrom` follows by induction on their list.
-/

namespace ClassAudit.Code

/-! ## Operands -/

/-- The kinds of constants that an instruction may refer to. -/
inductive Operand where
  | field
  | method
  | dynamicCall
  | constant
  /-- The operand of `ldc`, whose index is one byte. -/
  | narrowConstant
  deriving DecidableEq

/-- The constant behind an `invokedynamic`: its entry in the bootstrap table, and its name and
descriptor. -/
structure DynamicRef where
  bootstrap : Nat
  name : String
  descriptor : String
  deriving DecidableEq

namespace Operand

/-- The type of what an operand of each kind resolves to. -/
def Value : Operand → Type
  | field => MemberRef
  | method => MemberRef
  | dynamicCall => DynamicRef
  | constant => Option String
  | narrowConstant => Option String

/-- The number of indices that the operand can encode. -/
def limit : Operand → Nat
  | narrowConstant => 256
  | _ => 65536

end Operand

/-- The entry of `pool` at `index` is of the kind `operand` asks for and resolves to the given
value. -/
def Resolves (pool : ConstantPool) (index : Nat) : (operand : Operand) → operand.Value → Prop
  | .field, member => pool.HasField index member
  | .method, member => pool.HasMethod index member
  | .dynamicCall, call => pool.HasDynamicCall index call.bootstrap call.name call.descriptor
  | .constant, value => pool.HasLiteral index value
  | .narrowConstant, value => pool.HasLiteral index value

/-- An index below `operand.limit` together with the value that it `Resolves` to. -/
structure Resolved (pool : ConstantPool) (operand : Operand) where
  index : Nat
  value : operand.Value
  fits : index < operand.limit
  resolves : Resolves pool index operand value

/-! ## Instructions -/

/-- The value types that loads and stores distinguish. -/
inductive ValueType where
  | int
  | long
  | float
  | double
  | reference

/-- The position of the type in the opcode tables for loads and stores. -/
def ValueType.rank : ValueType → UInt8
  | int => 0
  | long => 1
  | float => 2
  | double => 3
  | reference => 4

/-- The four field instructions. -/
inductive FieldAction where
  | getStatic
  | putStatic
  | getField
  | putField

/-- The `invoke` instructions for named methods, `invokeinterface` excluded. -/
inductive DirectCall where
  | virtual
  | special
  | static

/-- The opcodes that decode to `Operation.other` with a fixed width. -/
def isPlain (op : UInt8) : Bool :=
  [(0x00, 0x11), (0x14, 0x14), (0x2e, 0x35), (0x4f, 0x83), (0x85, 0x98), (0xa7, 0xa9), (0xac, 0xb1),
    (0xbb, 0xc3), (0xc5, 0xc5), (0xc8, 0xc9)].any fun (low, high) => Opcode.between low high op

/-- The opcodes that decode to a conditional branch. -/
def isBranch (op : UInt8) : Bool :=
  [(0x99, 0xa6), (0xc6, 0xc7)].any fun (low, high) => Opcode.between low high op

/-- The bytes from which the padding of a switch is taken. -/
structure Filler where
  first : UInt8
  second : UInt8
  third : UInt8

def Filler.bytes (filler : Filler) : Bytes :=
  [filler.first, filler.second, filler.third]

/-- One instruction in any of its encodings; constant operands are of type `ρ`. -/
inductive Raw (ρ : Operand → Type) where
  | plain (op : UInt8) (operands : Bytes) (isPlain : isPlain op = true)
      (complete : Opcode.width? op = some (operands.length + 1))
  | shortLoad (type : ValueType) (slot : Fin 4)
  | load (type : ValueType) (slot : UInt8)
  | wideLoad (type : ValueType) (slot : UInt16)
  | shortStore (type : ValueType) (slot : Fin 4)
  | store (type : ValueType) (slot : UInt8)
  | wideStore (type : ValueType) (slot : UInt16)
  | increment (slot amount : UInt8)
  | wideIncrement (slot amount : UInt16)
  | wideRet (slot : UInt16)
  | field (action : FieldAction) (member : ρ .field)
  | call (kind : DirectCall) (member : ρ .method)
  | interfaceCall (member : ρ .method) (count zero : UInt8)
  | dynamicCall (site : ρ .dynamicCall) (zeros : UInt16)
  | constant (value : ρ .narrowConstant)
  | wideConstant (value : ρ .constant)
  | branch (op : UInt8) (target : UInt16) (isBranch : isBranch op = true)
  | tableSwitch (filler : Filler) (otherwise : UInt32) (low high : Int32) (targets : List UInt32)
      (complete : (targets.length : Int) = high.toInt - low.toInt + 1)
  | lookupSwitch (filler : Filler) (otherwise : UInt32) (pairs : List (UInt32 × UInt32))

namespace Raw

variable {ρ : Operand → Type}

/-- The first byte of the encoding. -/
def opcode : Raw ρ → UInt8
  | plain op _ _ _ => op
  | shortLoad type slot => 0x1a + 4 * type.rank + slot.val.toUInt8
  | load type _ => 0x15 + type.rank
  | wideLoad _ _ => 0xc4
  | shortStore type slot => 0x3b + 4 * type.rank + slot.val.toUInt8
  | store type _ => 0x36 + type.rank
  | wideStore _ _ => 0xc4
  | increment _ _ => 0x84
  | wideIncrement _ _ => 0xc4
  | wideRet _ => 0xc4
  | field .getStatic _ => 0xb2
  | field .putStatic _ => 0xb3
  | field .getField _ => 0xb4
  | field .putField _ => 0xb5
  | call .virtual _ => 0xb6
  | call .special _ => 0xb7
  | call .static _ => 0xb8
  | interfaceCall _ _ _ => 0xb9
  | dynamicCall _ _ => 0xba
  | constant _ => 0x12
  | wideConstant _ => 0x13
  | branch op _ _ => op
  | tableSwitch _ _ _ _ _ _ => 0xaa
  | lookupSwitch _ _ _ => 0xab

/-- The bytes behind `opcode`, for an instruction at `offset`. -/
def operands (index : (operand : Operand) → ρ operand → Nat) (offset : Nat) : Raw ρ → Bytes
  | plain _ operands _ _ => operands
  | shortLoad _ _ => []
  | load _ slot => [slot]
  | wideLoad type slot => (0x15 + type.rank) :: bytes2 slot.toNat
  | shortStore _ _ => []
  | store _ slot => [slot]
  | wideStore type slot => (0x36 + type.rank) :: bytes2 slot.toNat
  | increment slot amount => [slot, amount]
  | wideIncrement slot amount => 0x84 :: bytes2 slot.toNat ++ bytes2 amount.toNat
  | wideRet slot => 0xa9 :: bytes2 slot.toNat
  | field _ member => bytes2 (index _ member)
  | call _ member => bytes2 (index _ member)
  | interfaceCall member count zero => bytes2 (index _ member) ++ [count, zero]
  | dynamicCall site zeros => bytes2 (index _ site) ++ bytes2 zeros.toNat
  | constant value => [(index _ value).toUInt8]
  | wideConstant value => bytes2 (index _ value)
  | branch _ target _ => bytes2 target.toNat
  | tableSwitch filler otherwise low high targets _ =>
    filler.bytes.take (padding offset) ++ bytes4 otherwise.toNat ++ bytes4 low.toUInt32.toNat
      ++ bytes4 high.toUInt32.toNat ++ targets.flatMap fun target => bytes4 target.toNat
  | lookupSwitch filler otherwise pairs =>
    filler.bytes.take (padding offset) ++ bytes4 otherwise.toNat ++ bytes4 pairs.length
      ++ pairs.flatMap fun pair => bytes4 pair.1.toNat ++ bytes4 pair.2.toNat

/-- The whole encoding of an instruction at `offset`. -/
def bytes (index : (operand : Operand) → ρ operand → Nat) (offset : Nat) (raw : Raw ρ) : Bytes :=
  raw.opcode :: raw.operands index offset

/-- The length of `bytes` for an instruction at `offset`. -/
def width (offset : Nat) : Raw ρ → Nat
  | plain _ operands _ _ => operands.length + 1
  | shortLoad _ _ => 1
  | load _ _ => 2
  | wideLoad _ _ => 4
  | shortStore _ _ => 1
  | store _ _ => 2
  | wideStore _ _ => 4
  | increment _ _ => 3
  | wideIncrement _ _ => 6
  | wideRet _ => 4
  | field _ _ => 3
  | call _ _ => 3
  | interfaceCall _ _ _ => 5
  | dynamicCall _ _ => 5
  | constant _ => 2
  | wideConstant _ => 3
  | branch _ _ _ => 3
  | tableSwitch _ _ _ _ targets _ => 1 + padding offset + 12 + 4 * targets.length
  | lookupSwitch _ _ pairs => 1 + padding offset + 8 + 8 * pairs.length

/-- The `Operation` that the instruction at `offset` decodes to, with `methods` as the bootstrap
table. -/
def operation (value : (operand : Operand) → ρ operand → operand.Value)
    (methods : List BootstrapMethod) (offset : Nat) : Raw ρ → Operation
  | plain _ _ _ _ => .other
  | shortLoad _ slot => .load slot
  | load _ slot => .load slot.toNat
  | wideLoad _ slot => .load slot.toNat
  | shortStore _ slot => .store slot
  | store _ slot => .store slot.toNat
  | wideStore _ slot => .store slot.toNat
  | increment slot _ => .increment slot.toNat
  | wideIncrement slot _ => .increment slot.toNat
  | wideRet _ => .other
  | field action member =>
    let ref : MemberRef := value _ member
    match action with
    | .getStatic => .readField ⟨ref.owner, ref.name, ref.descriptor, true⟩
    | .putStatic => .writeField ⟨ref.owner, ref.name, ref.descriptor, true⟩
    | .getField => .readField ⟨ref.owner, ref.name, ref.descriptor, false⟩
    | .putField => .writeField ⟨ref.owner, ref.name, ref.descriptor, false⟩
  | call kind member =>
    let ref : MemberRef := value _ member
    match kind with
    | .virtual => .call ⟨ref.owner, ref.name, ref.descriptor, .virtual, offset⟩
    | .special => .call ⟨ref.owner, ref.name, ref.descriptor, .special, offset⟩
    | .static => .call ⟨ref.owner, ref.name, ref.descriptor, .static, offset⟩
  | interfaceCall member _ _ =>
    let ref : MemberRef := value _ member
    .call ⟨ref.owner, ref.name, ref.descriptor, .interface, offset⟩
  | dynamicCall site _ =>
    let ref : DynamicRef := value _ site
    let method := methods[ref.bootstrap]?
    .dynamicCall ⟨ref.name, ref.descriptor, method.bind (·.owner), method.bind (·.name)⟩
  | constant literal =>
    let text : Option String := value _ literal
    match text with
    | some text => .text text
    | none => .other
  | wideConstant literal =>
    let text : Option String := value _ literal
    match text with
    | some text => .text text
    | none => .other
  | branch _ _ _ => .branch
  | tableSwitch _ _ _ _ _ _ => .switch
  | lookupSwitch _ _ _ => .switch

/-- `P` holds of the constant operand, if the instruction has one. -/
def All (P : (operand : Operand) → ρ operand → Prop) : Raw ρ → Prop
  | field _ member => P _ member
  | call _ member => P _ member
  | interfaceCall member _ _ => P _ member
  | dynamicCall site _ => P _ site
  | constant value => P _ value
  | wideConstant value => P _ value
  | _ => True

end Raw

/-! ## Bodies -/

section Bodies

variable {ρ : Operand → Type}

/-- The `bytes` of consecutive instructions, the first one at the given offset. -/
def assembleFrom (index : (operand : Operand) → ρ operand → Nat) : Nat → List (Raw ρ) → Bytes
  | _, [] => []
  | offset, raw :: rest =>
    raw.bytes index offset ++ assembleFrom index (offset + raw.width offset) rest

/-- The `Instruction`s that consecutive instructions decode to, the first one at the given offset.
-/
def listFrom (value : (operand : Operand) → ρ operand → operand.Value)
    (methods : List BootstrapMethod) (lines : LineTable) : Nat → List (Raw ρ) → List Instruction
  | _, [] => []
  | offset, raw :: rest =>
    { offset
      opcode := raw.opcode
      operation := raw.operation value methods offset
      line := lines.lineAt offset } ::
        listFrom value methods lines (offset + raw.width offset) rest

end Bodies

/-- The code of a body with resolved operands, from offset 0 on. -/
def assemble {pool : ConstantPool} (code : List (Raw (Resolved pool))) : Bytes :=
  assembleFrom (fun _ operand => operand.index) 0 code

/-- The `Instruction`s of `code`: one per element, with its offset, opcode, operation and `lineAt`.
-/
def listing (context : Context) (lines : LineTable) (code : List (Raw (Resolved context.pool))) :
    List Instruction :=
  listFrom (fun _ operand => operand.value) context.bootstrapMethods lines 0 code

/-! ## Reading operands back -/

theorem operand2_bytes2 {n : Nat} (hn : n < 65536) (before rest : Bytes) (offset : Nat) :
    operand2 (before ++ (bytes2 n ++ rest)) offset before.length = .ok n := by
  rw [operand2, List.drop_left]
  simp only [bytes2, List.cons_append, bytes2_value hn]

/-- `signed4?` reads back `bytes4` as a signed number. -/
theorem signed4?_bytes4 {n : Nat} (hn : n < 4294967296) (before rest : Bytes) :
    signed4? (before ++ (bytes4 n ++ rest)) before.length =
      some (if n < 2147483648 then (n : Int) else (n : Int) - 4294967296) := by
  have hdrop : signed4? (before ++ (bytes4 n ++ rest)) before.length
      = signed4? (bytes4 n ++ rest) 0 := by
    have h := signed4?_drop (before ++ (bytes4 n ++ rest)) before.length 0
    rw [List.drop_left, Nat.add_zero] at h
    exact h.symm
  rw [hdrop]
  simp only [signed4?, bytes4, bytes2, List.cons_append, List.nil_append, List.getElem?_cons_zero,
    List.getElem?_cons_succ, Nat.zero_add, Option.bind_eq_bind, Option.bind_some, toInt_append4,
    toNat_toUInt8]
  have hvalue : ((n / 65536 / 256 % 256 * 256 + n / 65536 % 256) * 256 + n / 256 % 256) * 256
      + n % 256 = n := by omega
  rw [hvalue]
  rfl

theorem signed4?_int32 (x : Int32) (before rest : Bytes) :
    signed4? (before ++ (bytes4 x.toUInt32.toNat ++ rest)) before.length = some x.toInt := by
  rw [signed4?_bytes4 x.toUInt32.toNat_lt]
  have htoInt : x.toInt = x.toUInt32.toBitVec.toInt := rfl
  rw [htoInt, BitVec.toInt_eq_toNat_cond, UInt32.toNat_toBitVec]
  split_ifs <;> first | rfl | omega

theorem length_take_filler (filler : Filler) (offset : Nat) :
    (filler.bytes.take (padding offset)).length = padding offset := by
  have hpad := (padding_spec offset).1
  rw [List.length_take, Filler.bytes]
  simp
  omega

/-- `width` is the length of `bytes`. -/
theorem Raw.length_bytes {ρ : Operand → Type} (index : (operand : Operand) → ρ operand → Nat)
    (offset : Nat) (raw : Raw ρ) : (raw.bytes index offset).length = raw.width offset := by
  cases raw with
  | tableSwitch filler otherwise low high targets _ =>
    have htargets := length_flatMap_const 4 targets fun target => length_bytes4 target.toNat
    simp only [Raw.bytes, Raw.operands, Raw.width, List.length_cons, List.length_append,
      length_take_filler, length_bytes4, htargets]
    omega
  | lookupSwitch filler otherwise pairs =>
    have hpairs := length_flatMap_const 8 pairs
      (f := fun pair => bytes4 pair.1.toNat ++ bytes4 pair.2.toNat) (fun _ => rfl)
    simp only [Raw.bytes, Raw.operands, Raw.width, List.length_cons, List.length_append,
      length_take_filler, length_bytes4, hpairs]
    omega
  | _ => rfl

/-! ## One instruction -/

theorem shape_of_isPlain {op : UInt8} {width : Nat} (h : isPlain op = true)
    (hwidth : Opcode.width? op = some width) : shape op = .plain width := by
  have hall : ∀ op : UInt8, isPlain op = true →
      shape op = (Opcode.width? op).elim .unknown .plain :=
    forall_byte (by decide +kernel)
  rw [hall op h, hwidth, Option.elim_some]

theorem shape_of_isBranch {op : UInt8} (h : isBranch op = true) : shape op = .branch := by
  have hall : ∀ op : UInt8, isBranch op = true → shape op = .branch :=
    forall_byte (by decide +kernel)
  exact hall op h

/-- The opcode of a `shortLoad` encodes the slot in its two lowest bits, counted from `iload0`. -/
theorem shape_shortLoad (type : ValueType) (slot : Fin 4) :
    let op : UInt8 := 0x1a + 4 * type.rank + slot.val.toUInt8
    shape op = .shortLoad ∧ (op.toNat - Opcode.iload0.toNat) % 4 = slot := by
  cases type <;> revert slot <;> decide

/-- The opcode of a `shortStore` encodes the slot in its two lowest bits, counted from `istore0`. -/
theorem shape_shortStore (type : ValueType) (slot : Fin 4) :
    let op : UInt8 := 0x3b + 4 * type.rank + slot.val.toUInt8
    shape op = .shortStore ∧ (op.toNat - Opcode.istore0.toNat) % 4 = slot := by
  cases type <;> revert slot <;> decide

/-- The position of the first number behind the padding and the default of a switch. -/
theorem length_switch_head (op : UInt8) (filler : Filler) (otherwise : UInt32) (offset : Nat) :
    (op :: filler.bytes.take (padding offset) ++ bytes4 otherwise.toNat).length
      = 1 + padding offset + 4 := by
  simp only [List.length_append, List.length_cons, length_take_filler, length_bytes4]
  omega

/-- `tableSwitchWidth` reads the bounds behind the padding and the default, and counts the targets
by them. -/
theorem tableSwitchWidth_bytes (op : UInt8) (filler : Filler) (otherwise : UInt32)
    (low high : Int32) (targets : List UInt32)
    (hcomplete : (targets.length : Int) = high.toInt - low.toInt + 1) (offset : Nat)
    (rest : Bytes) :
    tableSwitchWidth (op :: (filler.bytes.take (padding offset) ++ bytes4 otherwise.toNat
      ++ bytes4 low.toUInt32.toNat ++ bytes4 high.toUInt32.toNat ++ rest)) offset
      = .ok (1 + padding offset + 12 + 4 * targets.length) := by
  refine tableSwitchWidth_eq_ok.mpr
    ⟨low.toInt, high.toInt, targets.length, ?_, ?_, hcomplete, rfl⟩
  · have hlow := signed4?_int32 low (op :: filler.bytes.take (padding offset)
      ++ bytes4 otherwise.toNat) (bytes4 high.toUInt32.toNat ++ rest)
    rw [length_switch_head] at hlow
    simpa using hlow
  · have hhigh := signed4?_int32 high (op :: filler.bytes.take (padding offset)
      ++ bytes4 otherwise.toNat ++ bytes4 low.toUInt32.toNat) rest
    rw [List.length_append, length_switch_head, length_bytes4] at hhigh
    simpa using hhigh

/-- `lookupSwitchWidth` reads the number of pairs behind the padding and the default. -/
theorem lookupSwitchWidth_bytes (op : UInt8) (filler : Filler) (otherwise : UInt32) (count : Nat)
    (hcount : count < 2147483648) (offset : Nat) (rest : Bytes) :
    lookupSwitchWidth (op :: (filler.bytes.take (padding offset) ++ bytes4 otherwise.toNat
      ++ bytes4 count ++ rest)) offset = .ok (1 + padding offset + 8 + 8 * count) := by
  refine lookupSwitchWidth_eq_ok.mpr ⟨count, ?_, rfl⟩
  have hpairs := signed4?_bytes4 (n := count) (by omega) (op :: filler.bytes.take (padding offset)
    ++ bytes4 otherwise.toNat) rest
  rw [length_switch_head, if_pos hcount] at hpairs
  simpa using hpairs

section Instruction

variable {ρ : Operand → Type} {context : Context} {index : (operand : Operand) → ρ operand → Nat}
  {value : (operand : Operand) → ρ operand → operand.Value}

/-- `decodeOne` on the instructions that follow a `wide`. -/
theorem decodeWide_bytes {inner : UInt8} {slot : UInt16} {width : Nat} {operation : Operation}
    (rest : Bytes) (offset : Nat)
    (h : (inner = Opcode.iinc ∧ operation = .increment slot.toNat ∧ width = 6) ∨
      (inner ≠ Opcode.iinc ∧ width = 4 ∧
        (Opcode.between Opcode.iload Opcode.aload inner = true ∧ operation = .load slot.toNat ∨
          Opcode.between Opcode.istore Opcode.astore inner = true ∧ operation = .store slot.toNat ∨
          inner = Opcode.ret ∧ operation = .other))) :
    decodeOne context offset 0xc4 ([0xc4, inner] ++ (bytes2 slot.toNat ++ rest))
      = .ok (operation, width) := by
  rw [decodeOne_eq]
  refine decodeWide_eq_ok.mpr ⟨inner, slot.toNat, rfl, ?_, h⟩
  exact operand2_bytes2 slot.toNat_lt [0xc4, inner] rest offset

/-- `decodeOne` inverts `Raw.bytes`, whatever bytes follow, and returns the `width`. -/
theorem decodeOne_bytes (raw : Raw ρ) (offset : Nat) (rest : Bytes)
    (hoperand : raw.All fun operand x => index operand x < operand.limit ∧
      Resolves context.pool (index operand x) operand (value operand x))
    (hsize : raw.width offset < 4294967296) :
    decodeOne context offset raw.opcode (raw.bytes index offset ++ rest) =
      .ok (raw.operation value context.bootstrapMethods offset, raw.width offset) := by
  cases raw with
  | plain op operands hplain hcomplete =>
    rw [decodeOne_eq]
    simp only [Raw.opcode, shape_of_isPlain hplain hcomplete]
    rfl
  | shortLoad type slot =>
    obtain ⟨hshape, hslot⟩ := shape_shortLoad type slot
    rw [decodeOne_eq, Raw.opcode, hshape, Shape.decode, hslot]
    rfl
  | load type slot =>
    rw [decodeOne_eq]
    cases type <;> rfl
  | wideLoad type slot =>
    refine decodeWide_bytes rest offset (Or.inr ⟨?_, rfl, Or.inl ⟨?_, rfl⟩⟩) <;>
      cases type <;> decide
  | shortStore type slot =>
    obtain ⟨hshape, hslot⟩ := shape_shortStore type slot
    rw [decodeOne_eq, Raw.opcode, hshape, Shape.decode, hslot]
    rfl
  | store type slot =>
    rw [decodeOne_eq]
    cases type <;> rfl
  | wideStore type slot =>
    refine decodeWide_bytes rest offset (Or.inr ⟨?_, rfl, Or.inr (Or.inl ⟨?_, rfl⟩)⟩) <;>
      cases type <;> decide
  | increment slot amount =>
    rw [decodeOne_eq]
    rfl
  | wideIncrement slot amount =>
    exact decodeWide_bytes (bytes2 amount.toNat ++ rest) offset (Or.inl ⟨rfl, rfl, rfl⟩)
  | wideRet slot =>
    exact decodeWide_bytes rest offset
      (Or.inr ⟨by decide, rfl, Or.inr (Or.inr ⟨rfl, rfl⟩)⟩)
  | field action member =>
    obtain ⟨hfits, hmember⟩ := hoperand
    have hindex := operand2_bytes2 hfits [(Raw.field action member).opcode] rest offset
    have hfield : decodeField context (Raw.field action member).opcode (index _ member) = .ok _ :=
      decodeField_eq_ok.mpr ⟨value _ member, hmember, rfl⟩
    rw [decodeOne_eq]
    cases action <;> exact bind_eq_ok.mpr ⟨_, hindex, bind_eq_ok.mpr ⟨_, hfield, rfl⟩⟩
  | call kind member =>
    obtain ⟨hfits, hmember⟩ := hoperand
    have hindex := operand2_bytes2 hfits [(Raw.call kind member).opcode] rest offset
    have hcall : decodeCall context (Raw.call kind member).opcode offset (index _ member) = .ok _ :=
      decodeCall_eq_ok.mpr ⟨value _ member, hmember, rfl⟩
    rw [decodeOne_eq]
    cases kind <;> exact bind_eq_ok.mpr ⟨_, hindex, bind_eq_ok.mpr ⟨_, hcall, rfl⟩⟩
  | interfaceCall member count zero =>
    obtain ⟨hfits, hmember⟩ := hoperand
    have hindex := operand2_bytes2 hfits [0xb9] ([count, zero] ++ rest) offset
    have hcall : decodeCall context 0xb9 offset (index _ member) = .ok _ :=
      decodeCall_eq_ok.mpr ⟨value _ member, hmember, rfl⟩
    rw [decodeOne_eq]
    exact bind_eq_ok.mpr ⟨_, hindex, bind_eq_ok.mpr ⟨_, hcall, rfl⟩⟩
  | dynamicCall site zeros =>
    obtain ⟨hfits, hsite⟩ := hoperand
    have hindex := operand2_bytes2 hfits [0xba] (bytes2 zeros.toNat ++ rest) offset
    have hcall := decodeDynamicCall_eq_ok.mpr ⟨_, _, _, hsite, rfl⟩
    rw [decodeOne_eq]
    exact bind_eq_ok.mpr ⟨_, hindex, bind_eq_ok.mpr ⟨_, hcall, rfl⟩⟩
  | constant literal =>
    obtain ⟨hfits, hliteral⟩ := hoperand
    have hindex : (index _ literal).toUInt8.toNat = index _ literal := by
      rw [toNat_toUInt8]
      exact Nat.mod_eq_of_lt hfits
    have hconstant := decodeConstant_eq_ok.mpr ⟨_, hliteral, rfl⟩
    rw [decodeOne_eq]
    refine bind_eq_ok.mpr ⟨_, rfl, bind_eq_ok.mpr ⟨_, by rw [hindex]; exact hconstant, ?_⟩⟩
    simp only [Raw.operation]
    cases value .narrowConstant literal <;> rfl
  | wideConstant literal =>
    obtain ⟨hfits, hliteral⟩ := hoperand
    have hindex := operand2_bytes2 hfits [0x13] rest offset
    have hconstant := decodeConstant_eq_ok.mpr ⟨_, hliteral, rfl⟩
    rw [decodeOne_eq]
    refine bind_eq_ok.mpr ⟨_, hindex, bind_eq_ok.mpr ⟨_, hconstant, ?_⟩⟩
    simp only [Raw.operation]
    cases value .constant literal <;> rfl
  | branch op target hbranch =>
    rw [decodeOne_eq]
    simp only [Raw.opcode, shape_of_isBranch hbranch]
    rfl
  | tableSwitch filler otherwise low high targets hcomplete =>
    have hwidth := tableSwitchWidth_bytes 0xaa filler otherwise low high targets hcomplete offset
      ((targets.flatMap fun target => bytes4 target.toNat) ++ rest)
    rw [decodeOne_eq]
    refine bind_eq_ok.mpr ⟨_, ?_, rfl⟩
    simpa [Raw.bytes, Raw.operands, Raw.opcode, Raw.width] using hwidth
  | lookupSwitch filler otherwise pairs =>
    rw [Raw.width] at hsize
    have hwidth := lookupSwitchWidth_bytes 0xab filler otherwise pairs.length (by omega) offset
      ((pairs.flatMap fun pair => bytes4 pair.1.toNat ++ bytes4 pair.2.toNat) ++ rest)
    rw [decodeOne_eq]
    refine bind_eq_ok.mpr ⟨_, ?_, rfl⟩
    simpa [Raw.bytes, Raw.operands, Raw.opcode, Raw.width] using hwidth

/-! ## Bodies and their listings -/

/-- `decodeFrom` inverts `assembleFrom`, at every starting offset. -/
theorem decodeFrom_assembleFrom {lines : LineTable} (code : List (Raw ρ)) (offset : Nat)
    (hoperands : ∀ raw ∈ code, raw.All fun operand x => index operand x < operand.limit ∧
      Resolves context.pool (index operand x) operand (value operand x))
    (hsize : (assembleFrom index offset code).length < 4294967296) :
    decodeFrom context lines offset 0 (assembleFrom index offset code) =
      .ok (listFrom value context.bootstrapMethods lines offset code) := by
  induction code generalizing offset with
  | nil => exact decodeFrom_nil offset
  | cons raw rest ih =>
    rw [assembleFrom] at hsize ⊢
    rw [List.length_append, raw.length_bytes] at hsize
    set tail := assembleFrom index (offset + raw.width offset) rest with htail
    have hone : decodeOne context offset raw.opcode (raw.bytes index offset ++ tail) = .ok _ :=
      decodeOne_bytes raw offset tail (hoperands raw List.mem_cons_self) (by omega)
    have hrest : decodeFrom context lines (offset + raw.width offset) 0 tail = .ok _ :=
      ih _ (fun other hother => hoperands other (List.mem_cons_of_mem _ hother))
        (by rw [← htail]; omega)
    have hbytes : raw.bytes index offset ++ tail
        = raw.opcode :: (raw.operands index offset ++ tail) := rfl
    rw [hbytes] at hone ⊢
    refine decodeFrom_cons_eq_ok.mpr ⟨_, _, _, hone, ?_, ?_, rfl⟩
    · rw [← hbytes, List.length_append, raw.length_bytes]
      omega
    · rw [← hbytes, ← raw.length_bytes index offset, List.drop_left, raw.length_bytes]
      exact hrest

end Instruction

/-- **`decode` inverts `assemble`.**  A body of any instructions whose operands are `Resolved`
decodes to its `listing`: one `Instruction` per element, with its offset, opcode, operation and
line. -/
theorem decode_assemble (context : Context) (lines : LineTable)
    (code : List (Raw (Resolved context.pool))) (hsize : (assemble code).length < 4294967296) :
    decode context lines (assemble code) = .ok (listing context lines code) := by
  refine decodeFrom_assembleFrom code 0 (fun raw _ => ?_) hsize
  cases raw <;> first | trivial | exact ⟨Resolved.fits _, Resolved.resolves _⟩

/-- A pool with a field and a string constant. -/
def accountPool : ConstantPool :=
  { entries := #[.empty, .utf8 "com/example/Account", .classInfo 1, .utf8 "balance", .utf8 "I",
      .nameAndType 3 4, .fieldRef 2 5, .utf8 "token=abc123", .string 7] }

/-- A body with a `getfield`, a padded `tableswitch`, an `ldc_w` and a `wide`. -/
def accountCode : List (Raw (Resolved accountPool)) :=
  [.shortLoad .reference 0,
    .field .getField ⟨6, ⟨"com/example/Account", "balance", "I"⟩, by decide,
      2, 5, rfl, ⟨1, rfl, rfl⟩, ⟨3, 4, rfl, rfl, rfl⟩⟩,
    .tableSwitch ⟨0, 1, 2⟩ 28 (-1) 0 [28, 28] (by decide),
    .constant ⟨8, some "token=abc123", by decide, 7, rfl, rfl⟩,
    .wideIncrement 257 5,
    .plain 0xb1 [] rfl rfl]

theorem decode_assemble_account :
    (assemble accountCode).length < 4294967296 ∧
      decode ⟨accountPool, []⟩ ⟨[(0, 10), (4, 11)]⟩ (assemble accountCode) = .ok
        [⟨0, 0x2a, .load 0, some 10⟩,
          ⟨1, 0xb4, .readField ⟨"com/example/Account", "balance", "I", false⟩, some 10⟩,
          ⟨4, 0xaa, .switch, some 11⟩, ⟨28, 0x12, .text "token=abc123", some 11⟩,
          ⟨30, 0xc4, .increment 257, some 11⟩, ⟨36, 0xb1, .other, some 11⟩] := by
  have hsize : (assemble accountCode).length < 4294967296 := by decide
  exact ⟨hsize, decode_assemble ⟨accountPool, []⟩ ⟨[(0, 10), (4, 11)]⟩ accountCode hsize⟩

end ClassAudit.Code
