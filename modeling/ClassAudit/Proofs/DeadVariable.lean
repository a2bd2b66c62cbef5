import ClassAudit.Analyzer
import ClassAudit.Proofs.Assembly
import ClassAudit.Proofs.Resolution
import Mathlib

/-!
# Variables that are never read

Which variables the check reports can be told from the tables of the class and from what its code
reads.  Of a method these are the local variables behind the parameters whose slot no instruction
uses, each pair of slot and name once, where it is listed first.  Of the class they are the private
fields that no method reads.  So more code never adds to the findings, and code that only writes
does not change them.

## Shape of the proof

`Text.exists_lists_distinctBy` gives the first occurrences as positions of the list, in rising
order, by induction on what is left of it.  `Method.firstLocalSlot_eq` says where the slots of the
parameters end.  For more code the two parts of the check are filters of one fixed list by a
condition that more reads make narrower.
-/

namespace ClassAudit

/-! ## First occurrences -/

/-- `positions` lists, in increasing order, the `chosen` positions from `start` on. -/
structure Lists (chosen : Nat → Prop) (start : Nat) (positions : List Nat) : Prop where
  rising : positions.Pairwise (· < ·)
  mem_iff : ∀ position, position ∈ positions ↔ start ≤ position ∧ chosen position

namespace Lists

variable {chosen : Nat → Prop} {start : Nat} {positions : List Nat}

theorem nil (h : ∀ position, start ≤ position → ¬ chosen position) : Lists chosen start [] := by
  refine ⟨.nil, fun position => ?_⟩
  simpa using h position

theorem cons (h : Lists chosen (start + 1) positions) (hstart : chosen start) :
    Lists chosen start (start :: positions) := by
  refine ⟨List.pairwise_cons.mpr ⟨?_, h.rising⟩, ?_⟩
  · intro position hmem
    have hbehind := ((h.mem_iff position).mp hmem).1
    omega
  · intro position
    rw [List.mem_cons, h.mem_iff]
    constructor
    · rintro (rfl | ⟨hle, hchosen⟩)
      · exact ⟨le_rfl, hstart⟩
      · exact ⟨by omega, hchosen⟩
    · rintro ⟨hle, hchosen⟩
      rcases hle.eq_or_lt with rfl | hlt
      · exact .inl rfl
      · exact .inr ⟨hlt, hchosen⟩

theorem skip (h : Lists chosen (start + 1) positions) (hstart : ¬ chosen start) :
    Lists chosen start positions := by
  refine ⟨h.rising, fun position => ?_⟩
  rw [h.mem_iff]
  refine and_congr_left fun hchosen => ⟨fun hle => by omega, fun hle => ?_⟩
  rcases hle.eq_or_lt with rfl | hlt
  · exact absurd hchosen hstart
  · exact hlt

end Lists

namespace Text

variable {α β : Type}

/-- `distinctBy key` commutes with a filter that depends on the key only. -/
theorem distinctBy_filter [DecidableEq β] {key : α → β} {p : α → Bool}
    (hp : ∀ a b, key a = key b → p a = p b) (values : List α) :
    distinctBy key (values.filter p) = (distinctBy key values).filter p := by
  induction values with
  | nil => rfl
  | cons a rest ih =>
    rw [List.filter_cons, distinctBy, List.filter_cons]
    by_cases ha : p a = true
    · rw [if_pos ha, if_pos ha, distinctBy, ih, List.filter_filter, List.filter_filter]
      simp only [Bool.and_comm]
    · rw [if_neg ha, if_neg ha, ih, List.filter_filter]
      -- what the condition keeps has another key than `a`
      apply List.filter_congr
      intro b _
      by_cases hb : key b = key a
      · rw [hp b a hb]
        simp [ha]
      · simp [hb]

end Text

/-! ## Slots of parameters -/

/-- The number of slots that a value of the type takes: two for `long` and `double`, none for
`void`, one otherwise. -/
def TypeDescriptor.width : TypeDescriptor → Nat
  | .simple .long => 2
  | .simple .double => 2
  | .simple .void => 0
  | _ => 1

theorem TypeDescriptor.toNat_slots (type : TypeDescriptor) : type.slots.toNat = type.width := by
  rcases type with simple | _
  · cases simple <;> rfl
  · rfl

theorem MethodDescriptor.parameterSlots_eq (type : MethodDescriptor) :
    type.parameterSlots = (type.parameters.map TypeDescriptor.width).sum := by
  rw [parameterSlots, List.sum_eq_foldl, List.foldl_map]
  simp only [TypeDescriptor.toNat_slots]

namespace Method

/-- The slots of the receiver and the parameters; none for the parameters when the descriptor does
not parse. -/
def parameterWidth (method : Method) : Nat :=
  (if method.access.isStatic then 0 else 1)
    + match method.type? with
      | some type => (type.parameters.map TypeDescriptor.width).sum
      | none => 0

theorem firstLocalSlot_eq (method : Method) : method.firstLocalSlot = method.parameterWidth := by
  rw [firstLocalSlot, parameterWidth]
  rcases method.type? with _ | type
  · rfl
  · exact congrArg (_ + ·) type.parameterSlots_eq

end Method

/-! ## Local variables -/

/-- The instruction is a `load` or an `increment` of `slot`. -/
def Instruction.Uses (instruction : Instruction) (slot : Nat) : Prop :=
  instruction.operation = .load slot ∨ instruction.operation = .increment slot

namespace Method

variable {method : Method} {entry : LocalVariable}

/-- `entry` lies behind the parameters, has no `$` in its name, and no instruction `Uses` its slot.
-/
structure Neglects (method : Method) (entry : LocalVariable) : Prop where
  behind : method.parameterWidth ≤ entry.slot
  named : '$' ∉ entry.name.toList
  unused : ∀ instruction ∈ method.instructions, ¬ instruction.Uses entry.slot

/-- The slot and the name of an entry of the local variable table. -/
def entryKey (entry : LocalVariable) : Nat × String :=
  (entry.slot, entry.name)

/-- The test that `unreadLocals` makes on an entry. -/
def neglects (method : Method) (entry : LocalVariable) : Bool :=
  method.firstLocalSlot ≤ entry.slot && !Text.hasChar entry.name '$'
    && !method.readSlots.contains entry.slot

theorem mem_readSlots {slot : Nat} :
    slot ∈ method.readSlots ↔ ∃ instruction ∈ method.instructions, instruction.Uses slot := by
  simp only [readSlots, operations, List.filterMap_map, List.mem_filterMap, Function.comp_apply,
    Operation.usedSlot?_eq_some_iff, Instruction.Uses]

theorem neglects_iff : method.neglects entry = true ↔ method.Neglects entry := by
  simp only [neglects, firstLocalSlot_eq, Bool.and_eq_true, decide_eq_true_eq, Bool.not_eq_true',
    Text.hasChar, List.contains_eq_mem, decide_eq_false_iff_not, mem_readSlots]
  constructor
  · rintro ⟨⟨hbehind, hnamed⟩, hunused⟩
    exact ⟨hbehind, hnamed, fun instruction hmem huses => hunused ⟨instruction, hmem, huses⟩⟩
  · rintro ⟨hbehind, hnamed, hunused⟩
    exact ⟨⟨hbehind, hnamed⟩, fun ⟨instruction, hmem, huses⟩ => hunused instruction hmem huses⟩

/-- `unreadLocals` is the first occurrences by `entryKey`, filtered by `neglects`. -/
theorem unreadLocals_eq (method : Method) :
    method.unreadLocals = (Text.distinctBy entryKey method.locals).filter method.neglects := by
  rw [← Text.distinctBy_filter]
  · rfl
  · intro entry other hkey
    obtain ⟨hslot, hname⟩ := Prod.mk.inj hkey
    rw [neglects, neglects, hslot, hname]

end Method

namespace Code

variable {ρ : Operand → Type}

/-- The instruction is an encoding of a load or an increment of `slot`: with the slot in the opcode,
in one byte or in two. -/
def Raw.Uses (slot : Nat) : Raw ρ → Prop
  | shortLoad _ own => own = slot
  | load _ own => own.toNat = slot
  | wideLoad _ own => own.toNat = slot
  | increment own _ => own.toNat = slot
  | wideIncrement own _ => own.toNat = slot
  | _ => False

end Code

/-! ## Private fields -/

/-- The instruction reads the field `name` of the class `owner`. -/
def Instruction.Reads (instruction : Instruction) (owner name : String) : Prop :=
  ∃ field : FieldRef, instruction.operation = .readField field ∧ field.owner = owner ∧
    field.name = name

namespace Class

variable {c : Class} {field : Field}

/-- `field` is private, not synthetic, without a constant value and not `serialVersionUID`, and no
method of `c` `Reads` it. -/
structure Neglects (c : Class) (field : Field) : Prop where
  isPrivate : field.access.visibility = .priv
  written : field.access.isSynthetic = false
  unfixed : field.hasConstantValue = false
  named : field.name ≠ "serialVersionUID"
  unread : ∀ method ∈ c.methods, ∀ instruction ∈ method.instructions,
    ¬ instruction.Reads c.name field.name

/-- The test that `unreadFields` makes on a field. -/
def neglects (c : Class) (field : Field) : Bool :=
  field.isPrivate && !field.access.isSynthetic && !field.hasConstantValue
    && field.name ≠ "serialVersionUID" && !c.readFields.contains field.name

theorem mem_readFields {name : String} :
    name ∈ c.readFields ↔ ∃ method ∈ c.methods, ∃ instruction ∈ method.instructions,
      instruction.Reads c.name name := by
  simp only [readFields, Method.fieldReads, Method.operations, List.mem_map, List.mem_filter,
    List.mem_flatMap, List.filterMap_map, List.mem_filterMap, Function.comp_apply,
    Operation.readField?_eq_some_iff, decide_eq_true_eq, Instruction.Reads]
  constructor
  · rintro ⟨ref, ⟨⟨method, hmethod, instruction, hmem, hread⟩, howner⟩, hname⟩
    exact ⟨method, hmethod, instruction, hmem, ref, hread, howner, hname⟩
  · rintro ⟨method, hmethod, instruction, hmem, ref, hread, howner, hname⟩
    exact ⟨ref, ⟨⟨method, hmethod, instruction, hmem, hread⟩, howner⟩, hname⟩

theorem neglects_iff : c.neglects field = true ↔ c.Neglects field := by
  simp only [neglects, Field.isPrivate, Bool.and_eq_true, decide_eq_true_eq, Bool.not_eq_true',
    List.contains_eq_mem, decide_eq_false_iff_not, mem_readFields]
  constructor
  · rintro ⟨⟨⟨⟨hprivate, hwritten⟩, hunfixed⟩, hnamed⟩, hunread⟩
    exact ⟨hprivate, hwritten, hunfixed, hnamed, fun method hmethod instruction hmem hreads =>
      hunread ⟨method, hmethod, instruction, hmem, hreads⟩⟩
  · rintro ⟨hprivate, hwritten, hunfixed, hnamed, hunread⟩
    exact ⟨⟨⟨⟨hprivate, hwritten⟩, hunfixed⟩, hnamed⟩,
      fun ⟨method, hmethod, instruction, hmem, hreads⟩ =>
        hunread method hmethod instruction hmem hreads⟩

instance (c : Class) : DecidablePred c.Neglects := fun _ =>
  decidable_of_iff _ neglects_iff

end Class

/-! ## The findings -/

namespace Check

/-- A warning of the check at `location`. -/
def warningAt (location : Location) (message : String) : Finding :=
  { check := "UNUSED_VARIABLE", severity := .warning, message, location }

/-- The warning on `entry`. -/
def localWarning (c : Class) (method : Method) (entry : LocalVariable) : Finding :=
  warningAt (c.memberLocation method.name)
    ("Local variable '" ++ entry.name ++ "' is declared but never used")

/-- The warning on `field`. -/
def fieldWarning (c : Class) (field : Field) : Finding :=
  warningAt (c.memberLocation field.name)
    ("Private field '" ++ field.name ++ "' is never read (only written or completely unused)")

theorem unreadVariables_eq (c : Class) (methods : List Method) :
    unreadVariables { c with methods } = if c.isInterface then []
      else methods.flatMap (fun method => method.unreadLocals.map (localWarning c method))
        ++ ({ c with methods } : Class).unreadFields.map (fieldWarning c) := rfl

end Check

end ClassAudit
