import ClassAudit.Proofs.Composition

/-!
# The bounds of table switches

A table switch names the least and the greatest value of its table.  A table has at least one value,
so the greatest must not be below the least.  The decoder does not compare the two: it works out how
many targets there are and refuses a number below zero.  Bounds that are inverted by more than one
are refused this way, at the offset of the switch.  Bounds that are inverted by exactly one give
zero targets, and the walk goes on behind them.

## Shape of the proof

`Reaches` is the walk over a body up to an offset; what decoding gives is decided by the bytes from
there on (`Reaches.exists_decode_eq`).  The fault of a switch can be told from all later ones since
no fault names an offset before its instruction (`Behind`).
-/

namespace ClassAudit

/-- The offset in the fault. -/
def Fault.position? : Fault → Option Nat
  | truncated offset => some offset
  | badConstant _ _ => none
  | unknownOpcode _ offset => some offset
  | badSwitch offset => some offset

namespace Code

/-! ## Faults do not point back -/

section Faults

variable {α β : Type} {offset : Nat}

/-- A fault of `x`, if there is one, names no offset before `offset`. -/
def Behind (offset : Nat) (x : Except Fault α) : Prop :=
  ∀ fault, x = .error fault → ∀ position ∈ fault.position?, offset ≤ position

namespace Behind

theorem ok (a : α) : Behind offset (.ok a) := by
  intro fault h
  cases h

theorem error {fault : Fault} (h : ∀ position ∈ fault.position?, offset ≤ position) :
    Behind offset (.error fault : Except Fault α) := by
  intro _ heq
  cases heq
  exact h

theorem bind {x : Except Fault α} {f : α → Except Fault β} (hx : Behind offset x)
    (hf : ∀ a, Behind offset (f a)) : Behind offset (x >>= f) := by
  cases x with
  | ok a => exact hf a
  | error fault => exact .error (hx fault rfl)

theorem map {x : Except Fault α} (f : α → β) (hx : Behind offset x) : Behind offset (f <$> x) := by
  cases x with
  | ok a => exact .ok (f a)
  | error fault => exact .error (hx fault rfl)

theorem mono {later : Nat} {x : Except Fault α} (hle : offset ≤ later) (hx : Behind later x) :
    Behind offset x :=
  fun fault h position hposition => hle.trans (hx fault h position hposition)

/-- What is read `n` bytes further on names no place before these bytes. -/
theorem movedBy (n : Nat) (f : α → β) (x : Except Fault α) : Behind n (movedBy n f x) := by
  cases x with
  | ok a => exact .ok (f a)
  | error fault => exact .error (by cases fault <;> simp [Fault.moved, Fault.position?])

end Behind

variable {context : Context} {code : Bytes} {op : UInt8}

theorem behind_operand4 (distance : Nat) : Behind offset (operand4 code offset distance) := by
  have hmoved := operand4_moved code 0 distance offset
  rw [Nat.zero_add] at hmoved
  rw [hmoved]
  exact .movedBy offset id _

theorem behind_tableSwitchWidth : Behind offset (tableSwitchWidth code offset) := by
  refine (behind_operand4 _).bind fun low => (behind_operand4 _).bind fun high => ?_
  dsimp only
  split_ifs
  · exact .error (by simp [Fault.position?])
  · exact .ok _

theorem behind_lookupSwitchWidth : Behind offset (lookupSwitchWidth code offset) := by
  refine (behind_operand4 _).bind fun pairs => ?_
  split_ifs
  · exact .error (by simp [Fault.position?])
  · exact .ok _

/-- `Shape.decode` faults at or behind the instruction. -/
theorem Shape.behind_decode (s : Shape) : Behind offset (s.decode context offset op code) := by
  by_cases hswitch : s = .tableSwitch ∨ s = .lookupSwitch
  · rcases hswitch with rfl | rfl
    · exact behind_tableSwitchWidth.bind fun _ => .ok _
    · exact behind_lookupSwitchWidth.bind fun _ => .ok _
  · -- anything but a switch reads what it would read at the start of the code, moved
    have hmoved : s.decode context (0 + offset) op code = Code.movedBy offset _ _ :=
      s.decode_moved (Or.inr (not_or.mp hswitch))
    rw [Nat.zero_add] at hmoved
    rw [hmoved]
    exact .movedBy offset _ _

theorem behind_decodeOne : Behind offset (decodeOne context offset op code) := by
  rw [decodeOne_eq]
  exact (shape op).behind_decode

/-- `decodeFrom` faults at or behind its starting offset. -/
theorem behind_decodeFrom (lines : LineTable) :
    Behind offset (decodeFrom context lines offset 0 code) := by
  -- Every step takes bytes off the front, so the induction is on their number.
  induction hlength : code.length using Nat.strong_induction_on generalizing code offset with
  | _ length ih =>
    cases code with
    | nil =>
      rw [decodeFrom_nil]
      exact .ok _
    | cons op rest =>
      rw [decodeFrom_cons]
      cases hone : decodeOne context offset op (op :: rest) with
      | error fault => exact .error (behind_decodeOne fault hone)
      | ok result =>
        obtain ⟨operation, width⟩ := result
        have hpos := pos_of_decodeOne hone
        dsimp only
        split_ifs with hshort
        · exact .error (by simp [Fault.position?])
        · refine .map _ (.mono (Nat.le_add_right offset width) ?_)
          exact ih _ (by rw [List.length_drop]; omega) rfl

end Faults

/-! ## The walk up to an offset -/

/-- `decode` gets to `offset`: every instruction before it decodes. -/
inductive Reaches (context : Context) (code : Bytes) : Nat → Prop
  | start : Reaches context code 0
  | step {offset width : Nat} {op : UInt8} {operation : Operation}
      (before : Reaches context code offset) (opcode : code[offset]? = some op)
      (decoded : decodeOne context offset op (code.drop offset) = .ok (operation, width))
      (inside : offset + width ≤ code.length) : Reaches context code (offset + width)

section Walk

variable {context : Context} {lines : LineTable} {code : Bytes} {offset : Nat} {op : UInt8}

/-- The step of `decodeFrom` at `offset` of `code`. -/
theorem decodeFrom_drop (h : code[offset]? = some op) :
    decodeFrom context lines offset 0 (code.drop offset) =
      match decodeOne context offset op (code.drop offset) with
      | .error fault => .error fault
      | .ok (operation, width) =>
        if code.length < offset + width then .error (.truncated offset)
        else
          ({ offset, opcode := op, operation, line := lines.lineAt offset } :: ·) <$>
            decodeFrom context lines (offset + width) 0 (code.drop (offset + width)) := by
  obtain ⟨hlt, hop⟩ := List.getElem?_eq_some_iff.mp h
  have hbytes : code.drop offset = op :: code.drop (offset + 1) := by
    rw [List.drop_eq_getElem_cons hlt, hop]
  have hlength : (op :: code.drop (offset + 1)).length = code.length - offset := by
    rw [← hbytes, List.length_drop]
  rw [hbytes, decodeFrom_cons, hlength]
  cases decodeOne context offset op (op :: code.drop (offset + 1)) with
  | error fault => rfl
  | ok result =>
    obtain ⟨operation, width⟩ := result
    dsimp only
    rw [← hbytes, List.drop_drop]
    exact if_congr (by omega) rfl rfl

/-- `decode` in terms of `decodeFrom` at an offset that it `Reaches`. -/
theorem Reaches.exists_decode_eq (h : Reaches context code offset) (lines : LineTable) :
    ∃ earlier, decode context lines code
      = (earlier ++ ·) <$> decodeFrom context lines offset 0 (code.drop offset) := by
  induction h with
  | start =>
    refine ⟨[], ?_⟩
    show decodeFrom context lines 0 0 code = _
    cases h : decodeFrom context lines 0 0 code <;> simp [h]
  | @step offset width op operation before opcode decoded inside ih =>
    obtain ⟨earlier, hearlier⟩ := ih
    refine ⟨earlier ++ [{ offset, opcode := op, operation, line := lines.lineAt offset }], ?_⟩
    rw [hearlier, decodeFrom_drop opcode, decoded]
    dsimp only
    rw [if_neg (Nat.not_lt.mpr inside)]
    cases decodeFrom context lines (offset + width) 0 (code.drop (offset + width)) <;> simp

/-- `decode` fails iff `decodeFrom` does at an offset that it `Reaches`, with the same fault. -/
theorem Reaches.decode_eq_error_iff (h : Reaches context code offset) {fault : Fault} :
    decode context lines code = .error fault
      ↔ decodeFrom context lines offset 0 (code.drop offset) = .error fault := by
  obtain ⟨earlier, hearlier⟩ := h.exists_decode_eq lines
  rw [hearlier]
  cases decodeFrom context lines offset 0 (code.drop offset) <;> simp

/-- `decode` `Reaches` every instruction that it returns. -/
theorem reaches_of_decodeFrom {instructions : List Instruction}
    (hreaches : Reaches context code offset)
    (h : decodeFrom context lines offset 0 (code.drop offset) = .ok instructions)
    {instruction : Instruction} (hmem : instruction ∈ instructions) :
    Reaches context code instruction.offset := by
  induction instructions generalizing offset with
  | nil => cases hmem
  | cons first others ih =>
    obtain ⟨op, operation, width, hop, hone, hinside, hothers, rfl⟩ := exists_of_decodeFrom_drop h
    rcases List.mem_cons.mp hmem with rfl | hmem
    · exact hreaches
    · exact ih (.step hreaches hop hone hinside) hothers hmem

end Walk

/-! ## Bounds -/

/-- A `tableswitch` at `offset` with bounds `low` and `high`, which stand behind the padding and the
default. -/
structure TableBounds (code : Bytes) (offset : Nat) (low high : Int) : Prop where
  opcode : code[offset]? = some Opcode.tableswitch
  lower : signed4? code (offset + 1 + padding offset + 4) = some low
  upper : signed4? code (offset + 1 + padding offset + 8) = some high

section Bounds

variable {context : Context} {lines : LineTable} {code : Bytes} {offset : Nat} {low high : Int}

/-- `decodeOne` on a `tableswitch` with bounds: a fault iff `high + 1 < low`. -/
theorem TableBounds.decodeOne_eq (h : TableBounds code offset low high) :
    decodeOne context offset Opcode.tableswitch (code.drop offset) =
      if high + 1 < low then .error (.badSwitch offset)
      else .ok (.switch, 1 + padding offset + 12 + 4 * (high - low + 1).toNat) := by
  have hshape : shape Opcode.tableswitch = .tableSwitch := by decide
  have hlow : operand4 (code.drop offset) offset (1 + padding offset + 4) = .ok low := by
    rw [operand4_eq_ok, signed4?_drop, ← Nat.add_assoc, ← Nat.add_assoc, h.lower]
  have hhigh : operand4 (code.drop offset) offset (1 + padding offset + 8) = .ok high := by
    rw [operand4_eq_ok, signed4?_drop, ← Nat.add_assoc, ← Nat.add_assoc, h.upper]
  have hwidth : tableSwitchWidth (code.drop offset) offset =
      if high - low + 1 < 0 then .error (.badSwitch offset)
      else .ok (1 + padding offset + 12 + 4 * (high - low + 1).toNat) := by
    unfold tableSwitchWidth
    dsimp only
    rw [hlow, hhigh]
    rfl
  rw [Code.decodeOne_eq, hshape, Shape.decode, hwidth]
  split_ifs with hcount hinverted hinverted
  · rfl
  · omega
  · omega
  · rfl

/-- A `tableswitch` in a decoded body has bounds with `low ≤ high + 1`. -/
theorem exists_tableBounds_of_mem {instructions : List Instruction}
    (h : decode context lines code = .ok instructions) {instruction : Instruction}
    (hmem : instruction ∈ instructions) (hop : instruction.opcode = Opcode.tableswitch) :
    ∃ low high, TableBounds code instruction.offset low high ∧ low ≤ high + 1 := by
  obtain ⟨hopcode, width, hone⟩ := decodeOne_of_mem (Nat.zero_le _) h instruction hmem
  have hshape : shape Opcode.tableswitch = .tableSwitch := by decide
  rw [hop] at hopcode hone
  rw [Code.decodeOne_eq, hshape] at hone
  obtain ⟨n, hn, -⟩ := bind_eq_ok.mp hone
  obtain ⟨low, high, count, hlow, hhigh, hcount, -⟩ := tableSwitchWidth_eq_ok.mp hn
  rw [signed4?_drop, ← Nat.add_assoc, ← Nat.add_assoc] at hlow hhigh
  exact ⟨low, high, ⟨hopcode, hlow, hhigh⟩, by omega⟩

/-- A `tableswitch` that `decode` `Reaches` faults iff `high + 1 < low`. -/
theorem TableBounds.decode_eq_badSwitch_iff (h : TableBounds code offset low high)
    (hreaches : Reaches context code offset) :
    decode context lines code = .error (.badSwitch offset) ↔ high + 1 < low := by
  rw [hreaches.decode_eq_error_iff, decodeFrom_drop h.opcode, h.decodeOne_eq]
  split_ifs with hinverted
  · simp [hinverted]
  · dsimp only
    simp only [hinverted, iff_false]
    split_ifs with hshort
    · simp
    · -- A fault of what follows names a place behind the switch.
      intro herror
      have hbehind := ((behind_decodeFrom lines).map _) _ herror offset rfl
      omega

end Bounds

/-- Every `tableswitch` in a decoded body has `low ≤ high`, and `decode` faults at one that it
`Reaches` with `high < low`. -/
structure OrderedBounds (context : Context) (lines : LineTable) (code : Bytes) : Prop where
  accepted : ∀ instructions, decode context lines code = .ok instructions →
    ∀ instruction ∈ instructions, instruction.opcode = Opcode.tableswitch →
      ∃ low high, TableBounds code instruction.offset low high ∧ low ≤ high
  refused : ∀ offset low high, Reaches context code offset → TableBounds code offset low high →
    high < low → decode context lines code = .error (.badSwitch offset)

/-- **A `tableswitch` is refused iff `high + 1 < low`.**  In a decoded body every `tableswitch` has
`low ≤ high + 1`.  So `OrderedBounds` holds of exactly the bodies in which `decode` `Reaches` no
switch with `low = high + 1`. -/
theorem decode_tableBounds (context : Context) (lines : LineTable) (code : Bytes) :
    (∀ instructions, decode context lines code = .ok instructions →
      ∀ instruction ∈ instructions, instruction.opcode = Opcode.tableswitch →
        ∃ low high, TableBounds code instruction.offset low high ∧ low ≤ high + 1) ∧
    (∀ offset low high, Reaches context code offset → TableBounds code offset low high →
      (decode context lines code = .error (.badSwitch offset) ↔ high + 1 < low)) ∧
    (OrderedBounds context lines code ↔
      ∀ offset low high, Reaches context code offset → TableBounds code offset low high →
        low ≠ high + 1) := by
  refine ⟨fun instructions h instruction hmem hop => exists_tableBounds_of_mem h hmem hop,
    fun offset low high hreaches hbounds => hbounds.decode_eq_badSwitch_iff hreaches, ?_, ?_⟩
  · intro hordered offset low high hreaches hbounds hempty
    have hrefused := hordered.refused offset low high hreaches hbounds (by omega)
    have hinverted := (hbounds.decode_eq_badSwitch_iff hreaches).mp hrefused
    omega
  · intro hfilled
    refine ⟨fun instructions h instruction hmem hop => ?_,
      fun offset low high hreaches hbounds hinverted => ?_⟩
    · obtain ⟨low, high, hbounds, hle⟩ := exists_tableBounds_of_mem h hmem hop
      have hne := hfilled _ low high (reaches_of_decodeFrom .start h hmem) hbounds
      exact ⟨low, high, hbounds, by omega⟩
    · have hne := hfilled offset low high hreaches hbounds
      exact (hbounds.decode_eq_badSwitch_iff hreaches).mpr (by omega)

/-- A load, a table switch for the values from `low` to 0 without any targets, and a return. -/
def bareTable (low : UInt8) : Bytes :=
  [0x1a, 0xaa, 0, 0, 0, 0, 0, 0x0f, 0, 0, 0, low, 0, 0, 0, 0, 0xb1]

/-- The bounds 2 and 0 are refused. -/
theorem decode_tableBounds_inverted :
    Reaches ⟨⟨#[]⟩, []⟩ (bareTable 2) 1 ∧ TableBounds (bareTable 2) 1 2 0 ∧
      decode ⟨⟨#[]⟩, []⟩ ⟨[]⟩ (bareTable 2) = .error (.badSwitch 1) := by
  have hreaches : Reaches ⟨⟨#[]⟩, []⟩ (bareTable 2) 1 :=
    .step .start (show (bareTable 2)[0]? = some 0x1a from rfl) rfl (by decide)
  have hbounds : TableBounds (bareTable 2) 1 2 0 := ⟨rfl, rfl, rfl⟩
  exact ⟨hreaches, hbounds,
    ((decode_tableBounds _ _ _).2.1 1 2 0 hreaches hbounds).mpr (by decide)⟩

/-- The bounds 1 and 0, which have no values between them, are accepted. -/
theorem decode_bareTable_empty :
    decode ⟨⟨#[]⟩, []⟩ ⟨[]⟩ (bareTable 1)
        = .ok [⟨0, 0x1a, .load 0, none⟩, ⟨1, 0xaa, .switch, none⟩, ⟨16, 0xb1, .other, none⟩] ∧
      TableBounds (bareTable 1) 1 1 0 ∧ ¬ OrderedBounds ⟨⟨#[]⟩, []⟩ ⟨[]⟩ (bareTable 1) := by
  have hdecode : decode ⟨⟨#[]⟩, []⟩ ⟨[]⟩ (bareTable 1)
      = .ok [⟨0, 0x1a, .load 0, none⟩, ⟨1, 0xaa, .switch, none⟩, ⟨16, 0xb1, .other, none⟩] := rfl
  have hbounds : TableBounds (bareTable 1) 1 1 0 := ⟨rfl, rfl, rfl⟩
  refine ⟨hdecode, hbounds, fun hordered => ?_⟩
  obtain ⟨low, high, hread, hle⟩ :=
    hordered.accepted _ hdecode ⟨1, 0xaa, .switch, none⟩ (by simp) rfl
  obtain rfl : low = 1 := Option.some.inj (hread.lower.symm.trans hbounds.lower)
  obtain rfl : high = 0 := Option.some.inj (hread.upper.symm.trans hbounds.upper)
  omega

end Code

end ClassAudit
