import ClassAudit.Proofs.ConstantPool
import ClassAudit.Proofs.Ordered
import ClassAudit.Proofs.WrittenPool

/-!
# Constants by what they stand for

A `Symbol` is a constant by its meaning: it holds names where the constant holds indices.

## Shape of the pool

A list of symbols becomes a pool by giving each symbol the slots behind those of the symbols before
it, from slot 1 on.  A symbol that refers to others, its `parts`, is written with their slots.
Where the list holds the parts of all its symbols, the slot of a symbol leads to what the symbol
stands for: `Closed` lists are those, and the list that `Symbols.collect` makes is one.
-/

namespace ClassAudit

/-- The kinds of member references. -/
inductive MemberKind where
  | field
  | method
  | interfaceMethod
  deriving DecidableEq

/-- A pool constant by content, without indices. -/
inductive Symbol where
  | text (value : String)
  | integer (bits : UInt32)
  | float (bits : UInt32)
  | long (bits : UInt64)
  | double (bits : UInt64)
  | type (name : String)
  | string (value : String)
  | member (kind : MemberKind) (ref : MemberRef)
  | signature (name descriptor : String)
  | handle (action : UInt8) (kind : MemberKind) (ref : MemberRef)
  | methodType (descriptor : String)
  | dynamic (bootstrap : UInt16) (name descriptor : String)
  | dynamicCall (bootstrap : UInt16) (name descriptor : String)
  | module (name : String)
  | package (name : String)
  deriving DecidableEq

namespace Symbol

/-- The symbols that the constant of a symbol refers to. -/
def parts : Symbol → List Symbol
  | type name => [text name]
  | string value => [text value]
  | member _ ref => [type ref.owner, signature ref.name ref.descriptor]
  | signature name descriptor => [text name, text descriptor]
  | handle _ kind ref => [member kind ref]
  | methodType descriptor => [text descriptor]
  | dynamic _ name descriptor => [signature name descriptor]
  | dynamicCall _ name descriptor => [signature name descriptor]
  | module name => [text name]
  | package name => [text name]
  | _ => []

/-- The constant of a symbol, with `slot` giving the indices of its `parts`. -/
def constant (slot : Symbol → Nat) : Symbol → Constant
  | text value => .utf8 value
  | integer bits => .integer bits.toNat
  | float bits => .float bits.toNat
  | long bits => .long bits.toNat
  | double bits => .double bits.toNat
  | type name => .classInfo (slot (text name))
  | string value => .string (slot (text value))
  | member .field ref =>
    .fieldRef (slot (type ref.owner)) (slot (signature ref.name ref.descriptor))
  | member .method ref =>
    .methodRef (slot (type ref.owner)) (slot (signature ref.name ref.descriptor))
  | member .interfaceMethod ref =>
    .interfaceMethodRef (slot (type ref.owner)) (slot (signature ref.name ref.descriptor))
  | signature name descriptor => .nameAndType (slot (text name)) (slot (text descriptor))
  | handle action kind ref => .methodHandle action.toNat (slot (member kind ref))
  | methodType descriptor => .methodType (slot (text descriptor))
  | dynamic bootstrap name descriptor =>
    .dynamic bootstrap.toNat (slot (signature name descriptor))
  | dynamicCall bootstrap name descriptor =>
    .invokeDynamic bootstrap.toNat (slot (signature name descriptor))
  | module name => .module (slot (text name))
  | package name => .package (slot (text name))

/-- The text of a string constant, `none` for any other symbol. -/
def literal : Symbol → Option String
  | string value => some value
  | _ => none

/-- The modified UTF-8 of a text fits the two-byte length field. -/
def Short : Symbol → Prop
  | text value => (Text.encodeModified value.toList).length < 65536
  | _ => True

instance (symbol : Symbol) : Decidable symbol.Short :=
  match symbol with
  | text _ => inferInstanceAs (Decidable (_ < _))
  | integer _ | float _ | long _ | double _ | type _ | string _ | member _ _ | signature _ _
  | handle _ _ _ | methodType _ | dynamic _ _ _ | dynamicCall _ _ _ | module _ | package _ =>
    isTrue trivial

/-- `constant` satisfies `Constant.Fits` for a `Short` symbol whose parts have slots below 65536. -/
theorem constant_fits {slot : Symbol → Nat} {symbol : Symbol} (hshort : symbol.Short)
    (hparts : ∀ part ∈ symbol.parts, slot part < 65536) : (symbol.constant slot).Fits := by
  cases symbol with
  | text value => exact hshort
  | integer bits => exact bits.toNat_lt
  | float bits => exact bits.toNat_lt
  | long bits => exact bits.toNat_lt
  | double bits => exact bits.toNat_lt
  | type name => exact hparts _ (by simp [parts])
  | string value => exact hparts _ (by simp [parts])
  | member kind ref =>
    have howner : slot (type ref.owner) < 65536 := hparts _ (by simp [parts])
    have hsignature : slot (signature ref.name ref.descriptor) < 65536 :=
      hparts _ (by simp [parts])
    cases kind <;> exact ⟨howner, hsignature⟩
  | signature name descriptor => exact ⟨hparts _ (by simp [parts]), hparts _ (by simp [parts])⟩
  | handle action kind ref => exact ⟨action.toNat_lt, hparts _ (by simp [parts])⟩
  | methodType descriptor => exact hparts _ (by simp [parts])
  | dynamic bootstrap name descriptor => exact ⟨bootstrap.toNat_lt, hparts _ (by simp [parts])⟩
  | dynamicCall bootstrap name descriptor =>
    exact ⟨bootstrap.toNat_lt, hparts _ (by simp [parts])⟩
  | module name => exact hparts _ (by simp [parts])
  | package name => exact hparts _ (by simp [parts])

/-! ## Slots -/

/-- The number of slots that the constant takes. -/
def slots : Symbol → Nat
  | long _ => 2
  | double _ => 2
  | _ => 1

theorem slots_constant (slot : Symbol → Nat) (symbol : Symbol) :
    (symbol.constant slot).slots = symbol.slots := by
  cases symbol with
  | member kind ref => cases kind <;> rfl
  | _ => rfl

/-- The slot of the symbol in a list whose first slot is given. -/
def slotFrom (symbol : Symbol) : Nat → List Symbol → Nat
  | first, [] => first
  | first, other :: rest =>
    if other = symbol then first else symbol.slotFrom (first + other.slots) rest

end Symbol

/-- The symbols of a pool, in the order of their slots. -/
abbrev Symbols := List Symbol

namespace Symbols

/-- The slot of `symbol`, counted from 1. -/
def slot (symbols : Symbols) (symbol : Symbol) : Nat :=
  symbol.slotFrom 1 symbols

/-- The constants of the pool. -/
def constants (symbols : Symbols) : List Constant :=
  symbols.map (Symbol.constant symbols.slot)

/-- The number of slots, slot 0 included. -/
def slotCount (symbols : Symbols) : Nat :=
  (ConstantPool.slotsOf symbols.constants).length + 1

/-- The pool of the symbols. -/
def pool (symbols : Symbols) : ConstantPool :=
  .ofConstants symbols.constants

/-- The `parts` of every symbol are in the list. -/
def Closed (symbols : Symbols) : Prop :=
  ∀ symbol ∈ symbols, ∀ part ∈ symbol.parts, part ∈ symbols

variable {symbols : Symbols}

/-- `slotFrom` points to the constant of the symbol in `slotsOf`. -/
theorem getElem?_slotsOf {symbol : Symbol} (constant : Symbol → Constant)
    (hslots : ∀ other, (constant other).slots = other.slots) (first : Nat)
    (h : symbol ∈ symbols) :
    ∃ k, symbol.slotFrom first symbols = first + k ∧
      (ConstantPool.slotsOf (symbols.map constant))[k]? = some (constant symbol) := by
  induction symbols generalizing first with
  | nil => simp at h
  | cons other rest ih =>
    rw [Symbol.slotFrom, List.map_cons, ConstantPool.slotsOf, List.flatMap_cons]
    by_cases hother : other = symbol
    · refine ⟨0, by rw [if_pos hother]; rfl, ?_⟩
      rw [← hother, Constant.fill]
      split <;> rfl
    · -- The slots of `other`, one or two, lie in front of all that follow.
      have hrest : symbol ∈ rest := (List.mem_cons.mp h).resolve_left (Ne.symm hother)
      obtain ⟨k, hk, hget⟩ := ih (first + other.slots) hrest
      refine ⟨other.slots + k, by rw [if_neg hother, hk, Nat.add_assoc], ?_⟩
      rw [List.getElem?_append_right (by rw [Constant.length_fill, hslots]; omega),
        Constant.length_fill, hslots, Nat.add_sub_cancel_left]
      exact hget

/-- `slot` points to the constant of the symbol in `slotsOf`, shifted by one. -/
theorem getElem?_slot {symbol : Symbol} (h : symbol ∈ symbols) :
    ∃ k, symbols.slot symbol = k + 1 ∧
      (ConstantPool.slotsOf symbols.constants)[k]? = some (symbol.constant symbols.slot) := by
  obtain ⟨k, hk, hget⟩ := getElem?_slotsOf (Symbol.constant symbols.slot)
    (Symbol.slots_constant symbols.slot) 1 h
  exact ⟨k, by rw [slot, hk, Nat.add_comm], hget⟩

theorem get?_slot {symbol : Symbol} (h : symbol ∈ symbols) :
    symbols.pool.get? (symbols.slot symbol) = some (symbol.constant symbols.slot) := by
  obtain ⟨k, hk, hget⟩ := getElem?_slot h
  rw [hk, pool, ConstantPool.get?_ofConstants]
  exact hget

/-- `slot` is positive. -/
theorem slot_pos {symbol : Symbol} (h : symbol ∈ symbols) : 0 < symbols.slot symbol := by
  obtain ⟨k, hk, -⟩ := getElem?_slot h
  omega

/-- `slot` is below `slotCount`. -/
theorem slot_lt {symbol : Symbol} (h : symbol ∈ symbols) :
    symbols.slot symbol < symbols.slotCount := by
  obtain ⟨k, hk, hget⟩ := getElem?_slot h
  have hlt := (List.getElem?_eq_some_iff.mp hget).1
  rw [hk, slotCount]
  omega

/-- `ConstantPool.read` reads back the pool of `Closed` and `Short` symbols with fewer than 65536
slots. -/
theorem reads_pool (hclosed : symbols.Closed) (hshort : ∀ symbol ∈ symbols, symbol.Short)
    (hcount : symbols.slotCount < 65536) :
    Reads ConstantPool.read (ConstantPool.bytes symbols.constants) symbols.pool := by
  refine ConstantPool.reads_bytes ?_ hcount
  intro constant hconstant
  obtain ⟨symbol, hsymbol, rfl⟩ := List.mem_map.mp hconstant
  refine Symbol.constant_fits (hshort symbol hsymbol) fun part hpart => ?_
  exact (slot_lt (hclosed symbol hsymbol part hpart)).trans hcount

/-! ## What the slots stand for -/

section Meaning

variable (hclosed : symbols.Closed)

theorem hasText {value : String} (h : .text value ∈ symbols) :
    symbols.pool.HasText (symbols.slot (.text value)) value :=
  get?_slot h

include hclosed

theorem hasClass {name : String} (h : .type name ∈ symbols) :
    symbols.pool.HasClass (symbols.slot (.type name)) name :=
  ⟨_, get?_slot h, hasText (hclosed _ h _ (by simp [Symbol.parts]))⟩

theorem hasSignature {name descriptor : String} (h : .signature name descriptor ∈ symbols) :
    symbols.pool.HasSignature (symbols.slot (.signature name descriptor)) name descriptor :=
  ⟨_, _, get?_slot h, hasText (hclosed _ h _ (by simp [Symbol.parts])),
    hasText (hclosed _ h _ (by simp [Symbol.parts]))⟩

/-- The pool `HasMember` for every member symbol in it. -/
theorem hasMember {kind : MemberKind} {ref : MemberRef} (h : .member kind ref ∈ symbols) :
    symbols.pool.HasMember (symbols.slot (.type ref.owner))
      (symbols.slot (.signature ref.name ref.descriptor)) ref :=
  ⟨hasClass hclosed (hclosed _ h _ (by simp [Symbol.parts])),
    hasSignature hclosed (hclosed _ h _ (by simp [Symbol.parts]))⟩

theorem hasField {ref : MemberRef} (h : .member .field ref ∈ symbols) :
    symbols.pool.HasField (symbols.slot (.member .field ref)) ref :=
  ⟨_, _, get?_slot h, hasMember hclosed h⟩

theorem hasMethod {kind : MemberKind} (hkind : kind ≠ .field) {ref : MemberRef}
    (h : .member kind ref ∈ symbols) :
    symbols.pool.HasMethod (symbols.slot (.member kind ref)) ref := by
  cases kind with
  | field => exact absurd rfl hkind
  | method => exact ⟨_, _, Or.inl (get?_slot h), hasMember hclosed h⟩
  | interfaceMethod => exact ⟨_, _, Or.inr (get?_slot h), hasMember hclosed h⟩

theorem hasHandle {action : UInt8} {kind : MemberKind} (hkind : kind ≠ .field) {ref : MemberRef}
    (h : .handle action kind ref ∈ symbols) :
    symbols.pool.HasHandle (symbols.slot (.handle action kind ref)) ref :=
  ⟨_, _, get?_slot h, hasMethod hclosed hkind (hclosed _ h _ (by simp [Symbol.parts]))⟩

/-- The handle of a field satisfies `HasHandle` for no method. -/
theorem not_hasHandle {action : UInt8} {ref other : MemberRef}
    (h : .handle action .field ref ∈ symbols) :
    ¬ symbols.pool.HasHandle (symbols.slot (.handle action .field ref)) other := by
  rintro ⟨_, _, hget, _, _, hmethod, _⟩
  rw [get?_slot h] at hget
  obtain ⟨-, rfl⟩ := Constant.methodHandle.inj (Option.some.inj hget)
  have hfield := get?_slot (hclosed _ h (.member .field ref) (by simp [Symbol.parts]))
  rw [hfield] at hmethod
  simp [Symbol.constant] at hmethod

theorem hasDynamicCall {bootstrap : UInt16} {name descriptor : String}
    (h : .dynamicCall bootstrap name descriptor ∈ symbols) :
    symbols.pool.HasDynamicCall (symbols.slot (.dynamicCall bootstrap name descriptor))
      bootstrap.toNat name descriptor :=
  ⟨_, get?_slot h, hasSignature hclosed (hclosed _ h _ (by simp [Symbol.parts]))⟩

theorem hasLiteral {symbol : Symbol} (h : symbol ∈ symbols) :
    symbols.pool.HasLiteral (symbols.slot symbol) symbol.literal := by
  have hget := get?_slot h
  cases symbol with
  | string value => exact ⟨_, hget, hasText (hclosed _ h _ (by simp [Symbol.parts]))⟩
  | member kind ref => cases kind <;> exact ⟨_, hget, by simp [Symbol.constant]⟩
  | _ => exact ⟨_, hget, by simp [Symbol.constant]⟩

end Meaning

/-! ## Collecting symbols -/

end Symbols

namespace Symbol

/-- The symbol preceded by everything that it refers to, directly or not. -/
def family : Symbol → List Symbol
  | type name => [text name, type name]
  | string value => [text value, string value]
  | member kind ref => memberFamily kind ref
  | signature name descriptor => signatureFamily name descriptor
  | handle action kind ref => memberFamily kind ref ++ [handle action kind ref]
  | methodType descriptor => [text descriptor, methodType descriptor]
  | dynamic bootstrap name descriptor =>
    signatureFamily name descriptor ++ [dynamic bootstrap name descriptor]
  | dynamicCall bootstrap name descriptor =>
    signatureFamily name descriptor ++ [dynamicCall bootstrap name descriptor]
  | module name => [text name, module name]
  | package name => [text name, package name]
  | symbol => [symbol]
where
  /-- The `family` of a signature. -/
  signatureFamily (name descriptor : String) : List Symbol :=
    [text name, text descriptor, signature name descriptor]
  /-- The `family` of a member. -/
  memberFamily (kind : MemberKind) (ref : MemberRef) : List Symbol :=
    [text ref.owner, type ref.owner] ++ signatureFamily ref.name ref.descriptor
      ++ [member kind ref]

theorem mem_family (symbol : Symbol) : symbol ∈ symbol.family := by
  cases symbol <;> simp [family, family.memberFamily, family.signatureFamily]

theorem parts_mem_family {symbol other part : Symbol} (hother : other ∈ symbol.family)
    (hpart : part ∈ other.parts) : part ∈ symbol.family := by
  cases symbol <;> grind [parts, family, family.memberFamily, family.signatureFamily]

end Symbol

namespace Symbols

/-- The `family` of every symbol, without repetitions, in order of first occurrence. -/
def collect (symbols : List Symbol) : Symbols :=
  Text.distinct (symbols.flatMap Symbol.family)

theorem mem_collect {symbols : List Symbol} {symbol : Symbol} (h : symbol ∈ symbols) :
    symbol ∈ collect symbols :=
  Text.mem_distinct.mpr (List.mem_flatMap.mpr ⟨symbol, h, symbol.mem_family⟩)

theorem collect_closed (symbols : List Symbol) : (collect symbols).Closed := by
  intro symbol hsymbol part hpart
  obtain ⟨other, hother, hfamily⟩ := List.mem_flatMap.mp (Text.mem_distinct.mp hsymbol)
  exact Text.mem_distinct.mpr
    (List.mem_flatMap.mpr ⟨other, hother, Symbol.parts_mem_family hfamily hpart⟩)

end Symbols

end ClassAudit
