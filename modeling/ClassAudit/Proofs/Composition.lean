import ClassAudit.Proofs.Truncation

/-!
# Joining two bodies

Two bodies of code one behind the other.  The first decodes as it does alone, since nothing reads
past the end of an instruction.  The second decodes as it does alone, moved by the length of the
first one: offsets move, and with them the faults that name an offset, while faults that name a
constant stay.  Only the padding of a switch depends on where the switch stands, so the second body
may be moved by any multiple of four, and by any number of bytes where it decodes without a switch.

## Shape of the proof

`movedBy` is a result that has been moved.  Every reader of operands moves, what is made of parts
that move moves, and what comes from the constant pool names no offset.
-/

namespace ClassAudit

/-! ## Moving by a number of bytes -/

/-- The fault when the code stands `n` bytes further on. -/
def Fault.moved (n : Nat) : Fault → Fault
  | truncated offset => .truncated (offset + n)
  | badConstant index expected => .badConstant index expected
  | unknownOpcode opcode offset => .unknownOpcode opcode (offset + n)
  | badSwitch offset => .badSwitch (offset + n)

/-- The operation of an instruction that stands `n` bytes further on.  A call knows its offset. -/
def Operation.moved (n : Nat) : Operation → Operation
  | call site => .call { site with offset := site.offset + n }
  | operation => operation

/-- The instruction when it stands `n` bytes further on. -/
def Instruction.moved (n : Nat) (instruction : Instruction) : Instruction :=
  { instruction with
    offset := instruction.offset + n
    operation := instruction.operation.moved n }

namespace Code

section Moving

variable {α β γ δ : Type} {n : Nat}

/-- What is read when the code stands `n` bytes further on: a fault moves with the code, and a value
as `f` says. -/
def movedBy (n : Nat) (f : α → β) : Except Fault α → Except Fault β
  | .ok a => .ok (f a)
  | .error fault => .error (fault.moved n)

theorem movedBy_bind {f : α → γ} {g : β → δ} {x : Except Fault α} {y : Except Fault γ}
    {next : α → Except Fault β} {next' : γ → Except Fault δ} (h : y = movedBy n f x)
    (hnext : ∀ a, next' (f a) = movedBy n g (next a)) :
    (y >>= next') = movedBy n g (x >>= next) := by
  subst h
  cases x with
  | error fault => rfl
  | ok a => exact hnext a

/-! ## Faults of the constant pool -/

/-- A fault in `x`, if there is one, names no offset. -/
def Unmoved (x : Except Fault α) : Prop :=
  ∀ n, movedBy n id x = x

namespace Unmoved

theorem ok (a : α) : Unmoved (.ok a) :=
  fun _ => rfl

theorem badConstant (index : Nat) (expected : ConstantKind) :
    Unmoved (.error (.badConstant index expected) : Except Fault α) :=
  fun _ => rfl

theorem bind {x : Except Fault α} {f : α → Except Fault β} (hx : Unmoved x)
    (hf : ∀ a, Unmoved (f a)) : Unmoved (x >>= f) :=
  fun n => (movedBy_bind (hx n).symm fun a => (hf a n).symm).symm

end Unmoved

variable (pool : ConstantPool) (index : Nat)

theorem unmoved_text : Unmoved (pool.text index) := by
  unfold ConstantPool.text
  split
  · exact .ok _
  · exact .badConstant _ _

theorem unmoved_className : Unmoved (pool.className index) := by
  unfold ConstantPool.className
  split
  · exact unmoved_text pool _
  · exact .badConstant _ _

theorem unmoved_nameAndType : Unmoved (pool.nameAndType index) := by
  unfold ConstantPool.nameAndType
  split
  · exact (unmoved_text pool _).bind fun name => (unmoved_text pool _).bind fun _ => .ok _
  · exact .badConstant _ _

theorem unmoved_member (owner signature : Nat) : Unmoved (pool.member owner signature) :=
  (unmoved_className pool owner).bind fun _ =>
    (unmoved_nameAndType pool signature).bind fun _ => .ok _

theorem unmoved_fieldRef : Unmoved (pool.fieldRef index) := by
  unfold ConstantPool.fieldRef
  split
  · exact unmoved_member pool _ _
  · exact .badConstant _ _

theorem unmoved_methodRef : Unmoved (pool.methodRef index) := by
  unfold ConstantPool.methodRef
  split
  · exact unmoved_member pool _ _
  · exact unmoved_member pool _ _
  · exact .badConstant _ _

theorem unmoved_stringLiteral : Unmoved (pool.stringLiteral index) := by
  unfold ConstantPool.stringLiteral
  split
  · exact (unmoved_text pool _).bind fun _ => .ok _
  · exact .badConstant _ _
  · exact .badConstant _ _
  · exact .ok _

theorem unmoved_invokeDynamic : Unmoved (pool.invokeDynamic index) := by
  unfold ConstantPool.invokeDynamic
  split
  · exact (unmoved_nameAndType pool _).bind fun _ => .ok _
  · exact .badConstant _ _

end Moving

/-! ## Operands -/

section Operands

variable (code : Bytes) (offset distance n : Nat)

theorem operand1_moved :
    operand1 code (offset + n) distance = movedBy n id (operand1 code offset distance) := by
  unfold operand1
  cases code.drop distance with
  | nil => simp only [movedBy, Fault.moved, Nat.add_right_comm]
  | cons a rest => rfl

theorem operand2_moved :
    operand2 code (offset + n) distance = movedBy n id (operand2 code offset distance) := by
  unfold operand2
  match code.drop distance with
  | [] | [_] => simp only [movedBy, Fault.moved, Nat.add_right_comm]
  | a :: b :: rest => rfl

theorem operand4_moved :
    operand4 code (offset + n) distance = movedBy n id (operand4 code offset distance) := by
  unfold operand4
  match code.drop distance with
  | [] | [_] | [_, _] | [_, _, _] => simp only [movedBy, Fault.moved, Nat.add_right_comm]
  | a :: b :: c :: d :: rest => rfl

end Operands

/-! ## Single instructions -/

section Instructions

variable {context : Context} {code : Bytes} {offset n : Nat} {op : UInt8}

theorem padding_moved (h : 4 ∣ n) : padding (offset + n) = padding offset := by
  unfold padding
  omega

theorem tableSwitchWidth_moved (h : 4 ∣ n) :
    tableSwitchWidth code (offset + n) = movedBy n id (tableSwitchWidth code offset) := by
  unfold tableSwitchWidth
  rw [padding_moved h]
  refine movedBy_bind (operand4_moved code offset _ n) fun low => ?_
  refine movedBy_bind (operand4_moved code offset _ n) fun high => ?_
  simp only [id]
  split_ifs <;> rfl

theorem lookupSwitchWidth_moved (h : 4 ∣ n) :
    lookupSwitchWidth code (offset + n) = movedBy n id (lookupSwitchWidth code offset) := by
  unfold lookupSwitchWidth
  rw [padding_moved h]
  refine movedBy_bind (operand4_moved code offset _ n) fun pairs => ?_
  simp only [id]
  split_ifs <;> rfl

theorem decodeWide_moved :
    decodeWide code (offset + n)
      = movedBy n (Prod.map (Operation.moved n) id) (decodeWide code offset) := by
  unfold decodeWide
  refine movedBy_bind (operand1_moved code offset 1 n) fun inner => ?_
  refine movedBy_bind (operand2_moved code offset 2 n) fun slot => ?_
  simp only [id]
  split_ifs
  case neg => rw [Nat.add_right_comm]; rfl
  all_goals rfl

theorem decodeField_moved (index : Nat) :
    decodeField context op index
      = movedBy n (Operation.moved n) (decodeField context op index) := by
  refine movedBy_bind (unmoved_fieldRef context.pool index n).symm fun member => ?_
  simp only [id]
  split_ifs <;> rfl

theorem decodeCall_moved (index : Nat) :
    decodeCall context op (offset + n) index
      = movedBy n (Operation.moved n) (decodeCall context op offset index) :=
  movedBy_bind (unmoved_methodRef context.pool index n).symm fun _ => rfl

theorem decodeDynamicCall_moved (index : Nat) :
    decodeDynamicCall context index
      = movedBy n (Operation.moved n) (decodeDynamicCall context index) :=
  movedBy_bind (unmoved_invokeDynamic context.pool index n).symm fun _ => rfl

theorem decodeConstant_moved (index : Nat) :
    decodeConstant context index
      = movedBy n (Operation.moved n) (decodeConstant context index) := by
  refine movedBy_bind (unmoved_stringLiteral context.pool index n).symm fun value => ?_
  cases value <;> rfl

/-- `Shape.decode` commutes with a move by a multiple of four bytes, and by any number of bytes for
a shape that is no switch. -/
theorem Shape.decode_moved (s : Shape) (h : 4 ∣ n ∨ s ≠ .tableSwitch ∧ s ≠ .lookupSwitch) :
    s.decode context (offset + n) op code
      = movedBy n (Prod.map (Operation.moved n) id) (s.decode context offset op code) := by
  cases s with
  | shortLoad | shortStore | branch | plain | unknown => rfl
  | load | store | increment => exact movedBy_bind (operand1_moved code offset 1 n) fun _ => rfl
  | wide => exact decodeWide_moved
  | field =>
    refine movedBy_bind (operand2_moved code offset 1 n) fun index => ?_
    exact movedBy_bind (decodeField_moved index) fun _ => rfl
  | interfaceCall | call =>
    refine movedBy_bind (operand2_moved code offset 1 n) fun index => ?_
    exact movedBy_bind (decodeCall_moved index) fun _ => rfl
  | dynamicCall =>
    refine movedBy_bind (operand2_moved code offset 1 n) fun index => ?_
    exact movedBy_bind (decodeDynamicCall_moved index) fun _ => rfl
  | constant =>
    refine movedBy_bind (operand1_moved code offset 1 n) fun index => ?_
    exact movedBy_bind (decodeConstant_moved index) fun _ => rfl
  | wideConstant =>
    refine movedBy_bind (operand2_moved code offset 1 n) fun index => ?_
    exact movedBy_bind (decodeConstant_moved index) fun _ => rfl
  | tableSwitch =>
    have hn : 4 ∣ n := h.resolve_right fun hnot => hnot.1 rfl
    exact movedBy_bind (tableSwitchWidth_moved hn) fun _ => rfl
  | lookupSwitch =>
    have hn : 4 ∣ n := h.resolve_right fun hnot => hnot.2 rfl
    exact movedBy_bind (lookupSwitchWidth_moved hn) fun _ => rfl

theorem decodeOne_moved (h : 4 ∣ n ∨ shape op ≠ .tableSwitch ∧ shape op ≠ .lookupSwitch) :
    decodeOne context (offset + n) op code
      = movedBy n (Prod.map (Operation.moved n) id) (decodeOne context offset op code) := by
  rw [decodeOne_eq, decodeOne_eq]
  exact (shape op).decode_moved h

/-- Where `decodeOne` returns an operation other than `switch`, the opcode has no switch shape. -/
theorem shape_ne_switch {operation : Operation} {width : Nat}
    (h : decodeOne context offset op code = .ok (operation, width)) (hno : operation ≠ .switch) :
    shape op ≠ .tableSwitch ∧ shape op ≠ .lookupSwitch := by
  rw [decodeOne_eq] at h
  constructor
  · intro hshape
    rw [hshape] at h
    obtain ⟨_, -, h⟩ := bind_eq_ok.mp h
    exact hno (Prod.mk.inj (Except.ok.inj h)).1.symm
  · intro hshape
    rw [hshape] at h
    obtain ⟨_, -, h⟩ := bind_eq_ok.mp h
    exact hno (Prod.mk.inj (Except.ok.inj h)).1.symm

end Instructions

/-! ## Moving a body -/

section Bodies

variable {context : Context} {n : Nat}

/-- A body with this result may be moved by `n` bytes: by a multiple of four, or else because it
decodes without a switch. -/
def Movable (n : Nat) (result : Except Fault (List Instruction)) : Prop :=
  4 ∣ n ∨ ∃ instructions, result = .ok instructions ∧
    ∀ instruction ∈ instructions, instruction.operation ≠ .switch

/-- `Movable` passes from a body to its first instruction and to the rest behind it. -/
theorem Movable.step {lines : LineTable} {offset : Nat} {op : UInt8} {rest : Bytes}
    (h : Movable n (decodeFrom context lines offset 0 (op :: rest))) :
    (4 ∣ n ∨ shape op ≠ .tableSwitch ∧ shape op ≠ .lookupSwitch) ∧
      ∀ operation width, decodeOne context offset op (op :: rest) = .ok (operation, width) →
        Movable n (decodeFrom context lines (offset + width) 0 ((op :: rest).drop width)) := by
  rcases h with hn | ⟨instructions, hok, hno⟩
  · exact ⟨Or.inl hn, fun _ _ _ => Or.inl hn⟩
  · obtain ⟨operation, width, others, hone, -, hothers, rfl⟩ := decodeFrom_cons_eq_ok.mp hok
    have hfirst : operation ≠ .switch := hno _ List.mem_cons_self
    refine ⟨Or.inr (shape_ne_switch hone hfirst), fun operation' width' hone' => Or.inr ?_⟩
    obtain ⟨rfl, rfl⟩ := Prod.mk.inj (Except.ok.inj (hone.symm.trans hone'))
    exact ⟨others, hothers, fun other hother => hno other (List.mem_cons_of_mem _ hother)⟩

/-- `decodeFrom` without line numbers commutes with the move of a `Movable` body. -/
theorem decodeFrom_moved {code : Bytes} {offset : Nat}
    (h : Movable n (decodeFrom context ⟨[]⟩ offset 0 code)) :
    decodeFrom context ⟨[]⟩ (offset + n) 0 code
      = movedBy n (List.map (Instruction.moved n)) (decodeFrom context ⟨[]⟩ offset 0 code) := by
  -- Every step takes bytes off the front, so the induction is on their number.
  induction hlength : code.length using Nat.strong_induction_on generalizing code offset with
  | _ length ih =>
    cases code with
    | nil => rw [decodeFrom_nil, decodeFrom_nil]; rfl
    | cons op rest =>
      obtain ⟨hfirst, hothers⟩ := h.step
      rw [decodeFrom_cons, decodeFrom_cons, decodeOne_moved hfirst]
      cases hone : decodeOne context offset op (op :: rest) with
      | error fault => rfl
      | ok result =>
        obtain ⟨operation, width⟩ := result
        have hpos := pos_of_decodeOne hone
        simp only [movedBy, Prod.map, id]
        split_ifs with hshort
        · rfl
        · have hrest := ih _ (by rw [List.length_drop]; omega) (hothers operation width hone) rfl
          rw [Nat.add_right_comm offset n width, hrest]
          cases decodeFrom context ⟨[]⟩ (offset + width) 0 ((op :: rest).drop width) <;> rfl

/-! ## Joining bodies -/

/-- `decodeFrom` over `front ++ back` goes on in `back` where `front` decodes. -/
theorem decodeFrom_append {lines : LineTable} {front : Bytes} {offset : Nat}
    {instructions : List Instruction}
    (h : decodeFrom context lines offset 0 front = .ok instructions) (back : Bytes) :
    decodeFrom context lines offset 0 (front ++ back) =
      (instructions ++ ·) <$> decodeFrom context lines (offset + front.length) 0 back := by
  induction instructions generalizing offset front with
  | nil =>
    cases front with
    | nil => cases hback : decodeFrom context lines offset 0 back <;> simp [hback]
    | cons op rest =>
      obtain ⟨_, _, _, -, -, -, hlist⟩ := decodeFrom_cons_eq_ok.mp h
      cases hlist
  | cons instruction others ih =>
    cases front with
    | nil =>
      rw [decodeFrom_nil] at h
      cases h
    | cons op rest =>
      obtain ⟨operation, width, _, hone, hwidth, hothers, hlist⟩ := decodeFrom_cons_eq_ok.mp h
      obtain ⟨rfl, rfl⟩ := List.cons.inj hlist
      have hlonger := decodeOne_of_front ⟨back, rfl⟩ hone
      have hend : offset + width + ((op :: rest).drop width).length
          = offset + (op :: rest).length := by
        rw [List.length_drop]
        omega
      rw [List.cons_append] at hlonger ⊢
      rw [decodeFrom_cons_of_ok hlonger (by simp at hwidth ⊢; omega), ← List.cons_append,
        List.drop_append_of_le_length hwidth, ih hothers, hend]
      cases decodeFrom context lines (offset + (op :: rest).length) 0 back <;> rfl

end Bodies

/-- **Decoding is compositional.**  Let `front` decode.  If its length is a multiple of four, then
`back` decodes behind it to what it decodes to alone, `moved` by the length of `front`, and fails
with its own fault `moved` likewise.  A `back` that decodes without a switch may follow at any
offset. -/
theorem decode_append (context : Context) (front back : Bytes) (instructions : List Instruction)
    (h : decode context ⟨[]⟩ front = .ok instructions) :
    (4 ∣ front.length →
      (∀ others, decode context ⟨[]⟩ back = .ok others →
        decode context ⟨[]⟩ (front ++ back)
          = .ok (instructions ++ others.map (Instruction.moved front.length))) ∧
      (∀ fault, decode context ⟨[]⟩ back = .error fault →
        decode context ⟨[]⟩ (front ++ back) = .error (fault.moved front.length))) ∧
    (∀ others, decode context ⟨[]⟩ back = .ok others →
      (∀ instruction ∈ others, instruction.operation ≠ .switch) →
        decode context ⟨[]⟩ (front ++ back)
          = .ok (instructions ++ others.map (Instruction.moved front.length))) := by
  have hjoin : Movable front.length (decode context ⟨[]⟩ back) →
      decode context ⟨[]⟩ (front ++ back) = (instructions ++ ·) <$>
        movedBy front.length (List.map (Instruction.moved front.length))
          (decode context ⟨[]⟩ back) := by
    intro hmovable
    rw [decode, decode, decodeFrom_append h back, decodeFrom_moved hmovable]
  refine ⟨fun hlength => ⟨fun others hback => ?_, fun fault hback => ?_⟩,
    fun others hback hno => ?_⟩
  · rw [hjoin (Or.inl hlength), hback]
    rfl
  · rw [hjoin (Or.inl hlength), hback]
    rfl
  · rw [hjoin (Or.inr ⟨others, hback, hno⟩), hback]
    rfl

/-- `switchBody` behind four bytes keeps its padding. -/
theorem decode_append_switchBody :
    decode ⟨⟨#[]⟩, []⟩ ⟨[]⟩ [0x11, 0, 7, 0x57]
        = .ok [⟨0, 0x11, .other, none⟩, ⟨3, 0x57, .other, none⟩] ∧
      decode ⟨⟨#[]⟩, []⟩ ⟨[]⟩ ([0x11, 0, 7, 0x57] ++ switchBody)
        = .ok [⟨0, 0x11, .other, none⟩, ⟨3, 0x57, .other, none⟩, ⟨4, 0x1a, .load 0, none⟩,
          ⟨5, 0xaa, .switch, none⟩, ⟨28, 0xb1, .other, none⟩] := by
  have hfront : decode ⟨⟨#[]⟩, []⟩ ⟨[]⟩ [0x11, 0, 7, 0x57]
      = .ok [⟨0, 0x11, .other, none⟩, ⟨3, 0x57, .other, none⟩] := rfl
  obtain ⟨haligned, -⟩ := decode_append _ _ switchBody _ hfront
  exact ⟨hfront, (haligned (by decide)).1 _ rfl⟩

end Code

end ClassAudit
