import ClassAudit.Code.Decode
import ClassAudit.Proofs.ConstantPool
import Mathlib.Data.Fintype.Basic
import Mathlib.Tactic.SplitIfs

/-!
# Steps of the decoder

How many bytes an instruction takes is said in two places: in the table of widths, and in the
decoder next to what the instruction does.  Here the opcodes are sorted into shapes, one for each
way in which the decoder reads operands, and both places are stated as functions of the shape.

## Shape of the development

`decodeOne_eq` is the decoder by shapes and `width?_eq` the table by shapes; from these two every
fact about single instructions follows by looking at each shape once.  `decodeFrom_cons` is the step
of the walk over a body: it replaces the count of bytes owed by a jump behind the instruction, and
is the only place where that count is looked at.
-/

namespace ClassAudit

/-- A property of all bytes follows from its 256 instances. -/
theorem forall_byte {P : UInt8 → Prop} (h : ∀ n : Fin 256, P (UInt8.ofFin n)) (b : UInt8) : P b :=
  h b.toFin

namespace Code

/-! ## Shapes of instructions -/

/-- The cases of `decodeOne`: how the operands of an instruction are read. -/
inductive Shape where
  | load
  | shortLoad
  | store
  | shortStore
  | increment
  | wide
  | field
  | interfaceCall
  | call
  | dynamicCall
  | constant
  | wideConstant
  | branch
  | tableSwitch
  | lookupSwitch
  /-- `width` bytes that the decoder skips. -/
  | plain (width : Nat)
  | unknown
  deriving DecidableEq

/-- The case of `decodeOne` that an opcode falls under. -/
def shape (op : UInt8) : Shape :=
  if Opcode.between Opcode.iload Opcode.aload op then .load
  else if Opcode.between Opcode.iload0 Opcode.aload3 op then .shortLoad
  else if Opcode.between Opcode.istore Opcode.astore op then .store
  else if Opcode.between Opcode.istore0 Opcode.astore3 op then .shortStore
  else if op = Opcode.iinc then .increment
  else if op = Opcode.wide then .wide
  else if Opcode.between Opcode.getstatic Opcode.putfield op then .field
  else if op = Opcode.invokeinterface then .interfaceCall
  else if Opcode.between Opcode.invokevirtual Opcode.invokestatic op then .call
  else if op = Opcode.invokedynamic then .dynamicCall
  else if op = Opcode.ldc then .constant
  else if op = Opcode.ldcWide then .wideConstant
  else if Opcode.between Opcode.ifeq Opcode.ifAcmpne op || op = Opcode.ifnull
      || op = Opcode.ifnonnull then .branch
  else if op = Opcode.tableswitch then .tableSwitch
  else if op = Opcode.lookupswitch then .lookupSwitch
  else match Opcode.width? op with
    | some width => .plain width
    | none => .unknown

namespace Shape

/-- The number of bytes of an instruction, for the shapes of fixed width. -/
def width? : Shape → Option Nat
  | load => some 2
  | shortLoad => some 1
  | store => some 2
  | shortStore => some 1
  | increment => some 3
  | wide => none
  | field => some 3
  | interfaceCall => some 5
  | call => some 3
  | dynamicCall => some 5
  | constant => some 2
  | wideConstant => some 3
  | branch => some 3
  | tableSwitch => none
  | lookupSwitch => none
  | plain width => some width
  | unknown => none

/-- The branch of `decodeOne` for each shape: the operation and the number of bytes. -/
def decode (context : Context) (offset : Nat) (op : UInt8) (code : Bytes) :
    Shape → Except Fault (Operation × Nat)
  | load => do return (.load (← operand1 code offset 1), 2)
  | shortLoad => return (.load ((op.toNat - Opcode.iload0.toNat) % 4), 1)
  | store => do return (.store (← operand1 code offset 1), 2)
  | shortStore => return (.store ((op.toNat - Opcode.istore0.toNat) % 4), 1)
  | increment => do return (.increment (← operand1 code offset 1), 3)
  | wide => decodeWide code offset
  | field => do return (← decodeField context op (← operand2 code offset 1), 3)
  | interfaceCall => do return (← decodeCall context op offset (← operand2 code offset 1), 5)
  | call => do return (← decodeCall context op offset (← operand2 code offset 1), 3)
  | dynamicCall => do return (← decodeDynamicCall context (← operand2 code offset 1), 5)
  | constant => do return (← decodeConstant context (← operand1 code offset 1), 2)
  | wideConstant => do return (← decodeConstant context (← operand2 code offset 1), 3)
  | branch => return (.branch, 3)
  | tableSwitch => do return (.switch, ← tableSwitchWidth code offset)
  | lookupSwitch => do return (.switch, ← lookupSwitchWidth code offset)
  | plain width => return (.other, width)
  | unknown => throw (.unknownOpcode op offset)

end Shape

/-- Pushes a function into the branches of an `if`. -/
private theorem ite_eq_map_ite {α β : Type} {c : Prop} [Decidable c] {f : α → β} {x y : β}
    {s t : α} (hpos : x = f s) (hneg : y = f t) :
    (if c then x else y) = f (if c then s else t) := by
  split_ifs
  · exact hpos
  · exact hneg

/-- `decodeOne` factors through `shape`. -/
theorem decodeOne_eq (context : Context) (offset : Nat) (op : UInt8) (code : Bytes) :
    decodeOne context offset op code = (shape op).decode context offset op code := by
  unfold decodeOne shape
  iterate 15 refine ite_eq_map_ite rfl ?_
  cases Opcode.width? op <;> rfl

/-- `Opcode.width?` agrees with the widths of the shapes, for every opcode. -/
theorem width?_eq (op : UInt8) : Opcode.width? op = (shape op).width? := by
  revert op
  exact forall_byte (by decide +kernel)

/-- `Opcode.width?` is positive. -/
theorem pos_of_width? {op : UInt8} {width : Nat} (h : Opcode.width? op = some width) :
    0 < width := by
  have hall : ∀ op : UInt8, ∀ width ∈ Opcode.width? op, 0 < width :=
    forall_byte (by decide +kernel)
  exact hall op width h

/-- The shapes of variable width belong to `wide`, `tableswitch` and `lookupswitch` only. -/
theorem shape_variable (op : UInt8) :
    (shape op = .wide ↔ op = Opcode.wide) ∧ (shape op = .tableSwitch ↔ op = Opcode.tableswitch) ∧
      (shape op = .lookupSwitch ↔ op = Opcode.lookupswitch) := by
  revert op
  exact forall_byte (by decide +kernel)

/-! ## Operands -/

theorem operand1_eq_ok {code : Bytes} {offset distance n : Nat} :
    operand1 code offset distance = .ok n ↔ ∃ a, code[distance]? = some a ∧ n = a.toNat := by
  rw [operand1, ← List.head?_drop]
  cases code.drop distance with
  | nil => simp
  | cons a rest => simp [eq_comm]

theorem operand2_eq_ok {code : Bytes} {offset distance n : Nat} :
    operand2 code offset distance = .ok n ↔
      ∃ a b, code[distance]? = some a ∧ code[distance + 1]? = some b ∧
        n = a.toNat * 256 + b.toNat := by
  rw [operand2, ← List.getElem?_drop, ← List.head?_drop]
  match code.drop distance with
  | [] => simp
  | [_] => simp
  | a :: b :: rest => simp [eq_comm]

/-- The signed four-byte number at `position`, high byte first. -/
def signed4? (code : Bytes) (position : Nat) : Option Int := do
  let a ← code[position]?
  let b ← code[position + 1]?
  let c ← code[position + 2]?
  let d ← code[position + 3]?
  return (a.toBitVec ++ b.toBitVec ++ c.toBitVec ++ d.toBitVec).toInt

/-- Four appended bytes as a signed number, in terms of the unsigned one. -/
theorem toInt_append4 (a b c d : UInt8) :
    (a.toBitVec ++ b.toBitVec ++ c.toBitVec ++ d.toBitVec).toInt =
      let n := ((a.toNat * 256 + b.toNat) * 256 + c.toNat) * 256 + d.toNat
      if n < 2147483648 then (n : Int) else (n : Int) - 4294967296 := by
  have ha := a.toNat_lt
  have hb := b.toNat_lt
  have hc := c.toNat_lt
  have hd := d.toNat_lt
  rw [BitVec.toInt_eq_toNat_cond]
  simp only [BitVec.toNat_append, UInt8.toNat_toBitVec]
  rw [← Nat.shiftLeft_add_eq_or_of_lt hb, ← Nat.shiftLeft_add_eq_or_of_lt hc,
    ← Nat.shiftLeft_add_eq_or_of_lt hd]
  simp only [Nat.shiftLeft_eq]
  split_ifs <;> omega

theorem operand4_eq_ok {code : Bytes} {offset distance : Nat} {n : Int} :
    operand4 code offset distance = .ok n ↔ signed4? code distance = some n := by
  have hget : ∀ i, code[distance + i]? = (code.drop distance)[i]? := fun i =>
    List.getElem?_drop.symm
  rw [operand4, signed4?, hget 1, hget 2, hget 3, ← List.head?_drop]
  match code.drop distance with
  | [] => simp
  | [_] => simp
  | [_, _] => simp
  | [_, _, _] => simp
  | a :: b :: c :: d :: rest => simp [toInt_append4]

/-- `signed4?` commutes with `List.drop`. -/
theorem signed4?_drop (code : Bytes) (offset distance : Nat) :
    signed4? (code.drop offset) distance = signed4? code (offset + distance) := by
  simp only [signed4?, List.getElem?_drop, Nat.add_assoc]

/-! ## References -/

/-- The `readField` or `writeField` that `op` stands for on `member`. -/
def fieldOperation (op : UInt8) (member : MemberRef) : Operation :=
  let field : FieldRef :=
    { owner := member.owner
      name := member.name
      descriptor := member.descriptor
      isStatic := op = Opcode.getstatic || op = Opcode.putstatic }
  if op = Opcode.getstatic || op = Opcode.getfield then .readField field else .writeField field

theorem decodeField_eq_ok {context : Context} {op : UInt8} {index : Nat} {operation : Operation} :
    decodeField context op index = .ok operation ↔
      ∃ member, context.pool.HasField index member ∧ operation = fieldOperation op member := by
  unfold decodeField fieldOperation
  simp only [bind_eq_ok, ConstantPool.fieldRef_eq_ok]
  refine exists_congr fun member => and_congr_right fun _ => ?_
  split_ifs <;> simp [pure, Except.pure, eq_comm]

theorem decodeCall_eq_ok {context : Context} {op : UInt8} {offset index : Nat}
    {operation : Operation} :
    decodeCall context op offset index = .ok operation ↔
      ∃ member, context.pool.HasMethod index member ∧ operation = .call
        { owner := member.owner
          name := member.name
          descriptor := member.descriptor
          kind := callKind op
          offset } := by
  unfold decodeCall
  simp only [bind_eq_ok, ConstantPool.methodRef_eq_ok]
  refine exists_congr fun member => and_congr_right fun _ => ?_
  simp [pure, Except.pure, eq_comm]

theorem decodeDynamicCall_eq_ok {context : Context} {index : Nat} {operation : Operation} :
    decodeDynamicCall context index = .ok operation ↔
      ∃ bootstrap name descriptor,
        context.pool.HasDynamicCall index bootstrap name descriptor ∧ operation = .dynamicCall
          { name
            descriptor
            bootstrapOwner := (context.bootstrapMethods[bootstrap]?).bind BootstrapMethod.owner
            bootstrapName := (context.bootstrapMethods[bootstrap]?).bind BootstrapMethod.name } := by
  unfold decodeDynamicCall
  simp only [bind_eq_ok, Prod.exists, ConstantPool.invokeDynamic_eq_ok]
  refine exists_congr fun bootstrap => exists_congr fun name => exists_congr fun descriptor =>
    and_congr_right fun _ => ?_
  simp [pure, Except.pure, eq_comm]

theorem decodeConstant_eq_ok {context : Context} {index : Nat} {operation : Operation} :
    decodeConstant context index = .ok operation ↔
      ∃ value, context.pool.HasLiteral index value ∧
        operation = value.elim .other Operation.text := by
  unfold decodeConstant
  simp only [bind_eq_ok, ConstantPool.stringLiteral_eq_ok]
  refine exists_congr fun value => and_congr_right fun _ => ?_
  cases value <;> simp [pure, Except.pure, eq_comm]

/-! ## The bytes of one instruction -/

/-- The instruction at an offset takes this many bytes: what its opcode fixes, six or four behind a
`wide`, and the whole jump table of a switch, whose operands start at a multiple of four. -/
inductive Spans (code : Bytes) (offset : Nat) : Nat → Prop
  | fixed {op : UInt8} {width : Nat} (opcode : code[offset]? = some op)
      (fixed : Opcode.width? op = some width) : Spans code offset width
  | wideIncrement (opcode : code[offset]? = some Opcode.wide)
      (inner : code[offset + 1]? = some Opcode.iinc) : Spans code offset 6
  | wide {op : UInt8} (opcode : code[offset]? = some Opcode.wide)
      (inner : code[offset + 1]? = some op) (other : op ≠ Opcode.iinc) : Spans code offset 4
  | tableSwitch {pad count : Nat} {low high : Int} (opcode : code[offset]? = some Opcode.tableswitch)
      (short : pad < 4) (aligned : 4 ∣ offset + 1 + pad)
      (lower : signed4? code (offset + 1 + pad + 4) = some low)
      (upper : signed4? code (offset + 1 + pad + 8) = some high)
      (targets : (count : Int) = high - low + 1) : Spans code offset (1 + pad + 12 + 4 * count)
  | lookupSwitch {pad count : Nat} (opcode : code[offset]? = some Opcode.lookupswitch)
      (short : pad < 4) (aligned : 4 ∣ offset + 1 + pad)
      (pairs : signed4? code (offset + 1 + pad + 4) = some (count : Int)) :
      Spans code offset (1 + pad + 8 + 8 * count)

/-- `padding` is the number of bytes up to the next multiple of four. -/
theorem padding_spec (offset : Nat) : padding offset < 4 ∧ 4 ∣ offset + 1 + padding offset := by
  unfold padding
  omega

/-- `Spans` determines the width. -/
theorem Spans.unique {code : Bytes} {offset width width' : Nat} (h : Spans code offset width)
    (h' : Spans code offset width') : width = width' := by
  have hwide : Opcode.width? Opcode.wide = none := rfl
  have htable : Opcode.width? Opcode.tableswitch = none := rfl
  have hlookup : Opcode.width? Opcode.lookupswitch = none := rfl
  have hop : Opcode.wide ≠ Opcode.tableswitch ∧ Opcode.wide ≠ Opcode.lookupswitch ∧
    Opcode.tableswitch ≠ Opcode.lookupswitch := by decide
  cases h <;> cases h' <;> grind

theorem Spans.pos {code : Bytes} {offset width : Nat} (h : Spans code offset width) :
    0 < width := by
  cases h with
  | fixed _ hfixed => exact pos_of_width? hfixed
  | wideIncrement _ _ => omega
  | wide _ _ _ => omega
  | tableSwitch _ _ _ _ _ _ => omega
  | lookupSwitch _ _ _ _ => omega

/-- What stands behind a `wide`: its opcode, its slot, and six bytes for an increment or four for
anything else. -/
theorem decodeWide_eq_ok {code : Bytes} {offset width : Nat} {operation : Operation} :
    decodeWide code offset = .ok (operation, width) ↔
      ∃ inner slot, code[1]? = some inner ∧ operand2 code offset 2 = .ok slot ∧
        ((inner = Opcode.iinc ∧ operation = .increment slot ∧ width = 6) ∨
          (inner ≠ Opcode.iinc ∧ width = 4 ∧
            (Opcode.between Opcode.iload Opcode.aload inner = true ∧ operation = .load slot ∨
              Opcode.between Opcode.istore Opcode.astore inner = true ∧ operation = .store slot ∨
              inner = Opcode.ret ∧ operation = .other))) := by
  have hdisjoint : ∀ op : UInt8,
      ¬ (Opcode.between Opcode.iload Opcode.aload op = true ∧
          Opcode.between Opcode.istore Opcode.astore op = true) ∧
      Opcode.between Opcode.iload Opcode.aload Opcode.ret = false ∧
      Opcode.between Opcode.istore Opcode.astore Opcode.ret = false :=
    forall_byte (by decide +kernel)
  have hbyte : ∀ b : UInt8, b.toNat.toUInt8 = b := fun b => UInt8.ofNat_toNat
  unfold decodeWide
  simp only [bind_eq_ok, operand1_eq_ok]
  constructor
  · rintro ⟨_, ⟨inner, hinner, rfl⟩, slot, hslot, h⟩
    refine ⟨inner, slot, hinner, hslot, ?_⟩
    rw [hbyte] at h
    split_ifs at h with hinc hload hstore hret <;> cases h
    · exact Or.inl ⟨hinc, rfl, rfl⟩
    · exact Or.inr ⟨hinc, rfl, Or.inl ⟨hload, rfl⟩⟩
    · exact Or.inr ⟨hinc, rfl, Or.inr (Or.inl ⟨hstore, rfl⟩)⟩
    · exact Or.inr ⟨hinc, rfl, Or.inr (Or.inr ⟨hret, rfl⟩)⟩
  · rintro ⟨inner, slot, hinner, hslot, h⟩
    refine ⟨inner.toNat, ⟨inner, hinner, rfl⟩, slot, hslot, ?_⟩
    rw [hbyte]
    have hd := hdisjoint inner
    rcases h with ⟨hinc, rfl, rfl⟩ | ⟨hinc, rfl, ⟨hload, rfl⟩ | ⟨hstore, rfl⟩ | ⟨rfl, rfl⟩⟩
    · rw [if_pos hinc]
      rfl
    · rw [if_neg hinc, if_pos hload]
      rfl
    · rw [if_neg hinc, if_neg (fun hload => hd.1 ⟨hload, hstore⟩), if_pos hstore]
      rfl
    · rw [if_neg hinc, hd.2.1, hd.2.2]
      rfl

/-- `tableSwitchWidth` succeeds iff both bounds are there and `high - low + 1` is not negative. -/
theorem tableSwitchWidth_eq_ok {code : Bytes} {offset width : Nat} :
    tableSwitchWidth code offset = .ok width ↔
      ∃ (low high : Int) (count : Nat), signed4? code (1 + padding offset + 4) = some low ∧
        signed4? code (1 + padding offset + 8) = some high ∧ (count : Int) = high - low + 1 ∧
        width = 1 + padding offset + 12 + 4 * count := by
  unfold tableSwitchWidth
  simp only [bind_eq_ok, operand4_eq_ok]
  constructor
  · rintro ⟨low, hlow, high, hhigh, h⟩
    split_ifs at h with hcount <;> cases h
    exact ⟨low, high, (high - low + 1).toNat, hlow, hhigh, by omega, rfl⟩
  · rintro ⟨low, high, count, hlow, hhigh, hcount, rfl⟩
    refine ⟨low, hlow, high, hhigh, ?_⟩
    rw [if_neg (by omega), ← hcount]
    rfl

/-- `lookupSwitchWidth` succeeds iff the number of pairs is there and not negative. -/
theorem lookupSwitchWidth_eq_ok {code : Bytes} {offset width : Nat} :
    lookupSwitchWidth code offset = .ok width ↔
      ∃ count : Nat, signed4? code (1 + padding offset + 4) = some (count : Int) ∧
        width = 1 + padding offset + 8 + 8 * count := by
  unfold lookupSwitchWidth
  simp only [bind_eq_ok, operand4_eq_ok]
  constructor
  · rintro ⟨pairs, hpairs, h⟩
    split_ifs at h with hcount <;> cases h
    exact ⟨pairs.toNat, by rw [hpairs, Int.toNat_of_nonneg (by omega)], rfl⟩
  · rintro ⟨count, hpairs, rfl⟩
    refine ⟨count, hpairs, ?_⟩
    rw [if_neg (by omega)]
    rfl

/-- `Shape.decode` returns the width that `Shape.width?` fixes. -/
theorem Shape.decode_width {context : Context} {code : Bytes} {offset width n : Nat} {op : UInt8}
    {operation : Operation} {s : Shape} (hn : s.width? = some n)
    (h : s.decode context offset op code = .ok (operation, width)) : width = n := by
  cases s <;> simp only [Shape.width?, reduceCtorEq, Option.some.injEq] at hn <;> subst hn <;>
    simp only [Shape.decode, bind_eq_ok] at h
  case shortLoad | shortStore | branch | plain => exact (Prod.mk.inj (Except.ok.inj h)).2.symm
  case load | store | increment =>
    obtain ⟨_, -, h⟩ := h
    exact (Prod.mk.inj (Except.ok.inj h)).2.symm
  all_goals
    obtain ⟨_, -, _, -, h⟩ := h
    exact (Prod.mk.inj (Except.ok.inj h)).2.symm

/-- A decoded call carries its own offset, and only the shape `dynamicCall` decodes to a dynamic
call. -/
theorem Shape.decode_call {context : Context} {code : Bytes} {offset width : Nat} {op : UInt8}
    {operation : Operation} {s : Shape}
    (h : s.decode context offset op code = .ok (operation, width)) :
    (∀ site, operation = .call site → site.offset = offset) ∧
      ∀ site, operation = .dynamicCall site → s = .dynamicCall := by
  have hpair : ∀ {operation' : Operation} {n : Nat},
      (pure (operation', n) : Except Fault (Operation × Nat)) = .ok (operation, width) →
        operation' = operation := fun h => (Prod.mk.inj (Except.ok.inj h)).1
  cases s <;> simp only [Shape.decode, bind_eq_ok] at h
  case shortLoad | shortStore | branch | plain =>
    obtain rfl := hpair h
    simp
  case load | store | increment | tableSwitch | lookupSwitch =>
    obtain ⟨_, -, h⟩ := h
    obtain rfl := hpair h
    simp
  case wide =>
    obtain ⟨_, _, -, -, ⟨-, rfl, -⟩ | ⟨-, -, ⟨-, rfl⟩ | ⟨-, rfl⟩ | ⟨-, rfl⟩⟩⟩ :=
      decodeWide_eq_ok.mp h <;> simp
  case unknown => cases h
  all_goals
    obtain ⟨_, -, operation, hoperation, h⟩ := h
    obtain rfl := hpair h
  case field =>
    obtain ⟨member, -, rfl⟩ := decodeField_eq_ok.mp hoperation
    unfold fieldOperation
    dsimp only
    split_ifs <;> simp
  case interfaceCall | call =>
    obtain ⟨member, -, rfl⟩ := decodeCall_eq_ok.mp hoperation
    simp
  case dynamicCall =>
    obtain ⟨_, _, _, -, rfl⟩ := decodeDynamicCall_eq_ok.mp hoperation
    simp
  case constant | wideConstant =>
    obtain ⟨_ | _, -, rfl⟩ := decodeConstant_eq_ok.mp hoperation <;> simp

/-- The width that `decodeOne` returns is the one that the instruction `Spans`. -/
theorem decodeOne_spans {context : Context} {code : Bytes} {offset width : Nat} {op : UInt8}
    {operation : Operation} (hop : code[offset]? = some op)
    (h : decodeOne context offset op (code.drop offset) = .ok (operation, width)) :
    Spans code offset width := by
  rw [decodeOne_eq] at h
  obtain ⟨hwide, htable, hlookup⟩ := shape_variable op
  cases hwidth : (shape op).width? with
  | some n =>
    obtain rfl := Shape.decode_width hwidth h
    exact .fixed hop (by rw [width?_eq, hwidth])
  | none =>
    cases hshape : shape op with
    | wide =>
      obtain rfl := hwide.mp hshape
      rw [hshape] at h
      obtain ⟨inner, slot, hinner, -, hcases⟩ := decodeWide_eq_ok.mp h
      rw [List.getElem?_drop] at hinner
      rcases hcases with ⟨rfl, -, rfl⟩ | ⟨hother, rfl, -⟩
      · exact .wideIncrement hop hinner
      · exact .wide hop hinner hother
    | tableSwitch =>
      obtain rfl := htable.mp hshape
      rw [hshape] at h
      obtain ⟨n, hn, h⟩ := bind_eq_ok.mp h
      obtain ⟨-, rfl⟩ := Prod.mk.inj (Except.ok.inj h)
      obtain ⟨low, high, count, hlow, hhigh, hcount, rfl⟩ := tableSwitchWidth_eq_ok.mp hn
      rw [signed4?_drop, ← Nat.add_assoc, ← Nat.add_assoc] at hlow hhigh
      obtain ⟨hshort, haligned⟩ := padding_spec offset
      exact .tableSwitch hop hshort haligned hlow hhigh hcount
    | lookupSwitch =>
      obtain rfl := hlookup.mp hshape
      rw [hshape] at h
      obtain ⟨n, hn, h⟩ := bind_eq_ok.mp h
      obtain ⟨-, rfl⟩ := Prod.mk.inj (Except.ok.inj h)
      obtain ⟨count, hpairs, rfl⟩ := lookupSwitchWidth_eq_ok.mp hn
      rw [signed4?_drop, ← Nat.add_assoc, ← Nat.add_assoc] at hpairs
      obtain ⟨hshort, haligned⟩ := padding_spec offset
      exact .lookupSwitch hop hshort haligned hpairs
    | unknown =>
      rw [hshape] at h
      cases h
    | _ => simp [hshape, Shape.width?] at hwidth

/-! ## The walk over a body -/

section Walk

variable {context : Context} {lines : LineTable}

/-- `decodeFrom` skips the bytes that are `owed`. -/
theorem decodeFrom_owed {owed : Nat} {bytes : Bytes} (h : owed ≤ bytes.length) (offset : Nat) :
    decodeFrom context lines offset owed bytes =
      decodeFrom context lines (offset + owed) 0 (bytes.drop owed) := by
  induction owed generalizing bytes offset with
  | zero => rfl
  | succ owed ih =>
    cases bytes with
    | nil => simp at h
    | cons b rest =>
      rw [decodeFrom, ih (by simpa using h), List.drop_succ_cons, Nat.add_assoc,
        Nat.add_comm 1 owed]

theorem decodeFrom_nil (offset : Nat) : decodeFrom context lines offset 0 [] = .ok [] := by
  rw [decodeFrom]

/-- `decodeOne` returns a positive width. -/
theorem pos_of_decodeOne {offset width : Nat} {op : UInt8} {rest : Bytes} {operation : Operation}
    (h : decodeOne context offset op (op :: rest) = .ok (operation, width)) : 0 < width := by
  -- what stands in front of the instruction does not matter
  have hop : (List.replicate offset 0 ++ op :: rest)[offset]? = some op := by simp
  have hat : decodeOne context offset op ((List.replicate offset 0 ++ op :: rest).drop offset)
      = .ok (operation, width) := by
    rw [List.drop_left' List.length_replicate, h]
  exact (decodeOne_spans hop hat).pos

/-- The step of `decodeFrom`: the first instruction, if all of its bytes are there, and then the
rest behind it. -/
theorem decodeFrom_cons (offset : Nat) (op : UInt8) (rest : Bytes) :
    decodeFrom context lines offset 0 (op :: rest) =
      match decodeOne context offset op (op :: rest) with
      | .error fault => .error fault
      | .ok (operation, width) =>
        if (op :: rest).length < width then .error (.truncated offset)
        else
          ({ offset, opcode := op, operation, line := lines.lineAt offset } :: ·) <$>
            decodeFrom context lines (offset + width) 0 ((op :: rest).drop width) := by
  rw [decodeFrom]
  cases h : decodeOne context offset op (op :: rest) with
  | error fault => rfl
  | ok result =>
    obtain ⟨operation, width⟩ := result
    have hpos := pos_of_decodeOne h
    obtain ⟨n, rfl⟩ : ∃ n, width = n + 1 := ⟨width - 1, by omega⟩
    simp only [bind, Except.bind, Nat.add_sub_cancel, List.isEmpty_iff, List.drop_eq_nil_iff]
    by_cases hlen : (op :: rest).length ≤ n
    · rw [if_pos hlen, if_pos (by omega)]
      rfl
    · rw [if_neg hlen, if_neg (by omega), decodeFrom_owed (by simp at hlen; omega),
        List.drop_succ_cons, Nat.add_assoc, Nat.add_comm 1 n]
      cases decodeFrom context lines (offset + (n + 1)) 0 (rest.drop n) <;> rfl

/-- Inversion of `decodeFrom_cons`. -/
theorem decodeFrom_cons_eq_ok {offset : Nat} {op : UInt8} {rest : Bytes}
    {instructions : List Instruction} :
    decodeFrom context lines offset 0 (op :: rest) = .ok instructions ↔
      ∃ operation width others, decodeOne context offset op (op :: rest) = .ok (operation, width) ∧
        width ≤ (op :: rest).length ∧
        decodeFrom context lines (offset + width) 0 ((op :: rest).drop width) = .ok others ∧
        instructions =
          { offset, opcode := op, operation, line := lines.lineAt offset } :: others := by
  rw [decodeFrom_cons]
  cases h : decodeOne context offset op (op :: rest) with
  | error fault => simp
  | ok result =>
    obtain ⟨operation, width⟩ := result
    dsimp only
    split_ifs with hlen
    · constructor
      · intro h
        cases h
      · rintro ⟨_, _, _, h, hle, -⟩
        obtain ⟨rfl, rfl⟩ := Prod.mk.inj (Except.ok.inj h)
        omega
    · rw [map_eq_ok]
      constructor
      · rintro ⟨others, hothers, rfl⟩
        exact ⟨operation, width, others, rfl, by omega, hothers, rfl⟩
      · rintro ⟨_, _, others, h, -, hothers, rfl⟩
        obtain ⟨rfl, rfl⟩ := Prod.mk.inj (Except.ok.inj h)
        exact ⟨others, hothers, rfl⟩

end Walk

end Code

end ClassAudit
