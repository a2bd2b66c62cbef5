import ClassAudit.ClassFile.ConstantPool
import ClassAudit.Proofs.ModifiedUtf8
import ClassAudit.Proofs.Reads

/-!
# Writing a constant pool

Constants as bytes, and that a written pool is read back.  A constant is its tag and what the tag
asks for.  A pool counts slots and not constants: a `long` or `double` takes two of them, of which
nothing is written for the second.
-/

namespace ClassAudit

/-! ## Constants as bytes -/

namespace Constant

/-- The bytes of a constant, tag first. -/
def bytes : Constant → Bytes
  | empty => []
  | utf8 text =>
    let encoded := Text.encodeModified text.toList
    1 :: (bytes2 encoded.length ++ encoded)
  | integer bits => 3 :: bytes4 bits
  | float bits => 4 :: bytes4 bits
  | long bits => 5 :: (bytes4 (bits / 4294967296) ++ bytes4 (bits % 4294967296))
  | double bits => 6 :: (bytes4 (bits / 4294967296) ++ bytes4 (bits % 4294967296))
  | classInfo name => 7 :: bytes2 name
  | string text => 8 :: bytes2 text
  | fieldRef owner signature => 9 :: (bytes2 owner ++ bytes2 signature)
  | methodRef owner signature => 10 :: (bytes2 owner ++ bytes2 signature)
  | interfaceMethodRef owner signature => 11 :: (bytes2 owner ++ bytes2 signature)
  | nameAndType name descriptor => 12 :: (bytes2 name ++ bytes2 descriptor)
  | methodHandle kind reference => 15 :: kind.toUInt8 :: bytes2 reference
  | methodType descriptor => 16 :: bytes2 descriptor
  | dynamic bootstrap signature => 17 :: (bytes2 bootstrap ++ bytes2 signature)
  | invokeDynamic bootstrap signature => 18 :: (bytes2 bootstrap ++ bytes2 signature)
  | module name => 19 :: bytes2 name
  | package name => 20 :: bytes2 name

/-- The values of the constant fit the bytes of the format. -/
def Fits : Constant → Prop
  | empty => False
  | utf8 text => (Text.encodeModified text.toList).length < 65536
  | integer bits => bits < 4294967296
  | float bits => bits < 4294967296
  | long bits => bits < 18446744073709551616
  | double bits => bits < 18446744073709551616
  | classInfo name => name < 65536
  | string text => text < 65536
  | fieldRef owner signature => owner < 65536 ∧ signature < 65536
  | methodRef owner signature => owner < 65536 ∧ signature < 65536
  | interfaceMethodRef owner signature => owner < 65536 ∧ signature < 65536
  | nameAndType name descriptor => name < 65536 ∧ descriptor < 65536
  | methodHandle kind reference => kind < 256 ∧ reference < 65536
  | methodType descriptor => descriptor < 65536
  | dynamic bootstrap signature => bootstrap < 65536 ∧ signature < 65536
  | invokeDynamic bootstrap signature => bootstrap < 65536 ∧ signature < 65536
  | module name => name < 65536
  | package name => name < 65536

/-- The number of slots that the constant takes. -/
def slots (constant : Constant) : Nat :=
  if constant.isWide then 2 else 1

/-- The slots that the constant takes: its own, followed by `empty` if it is wide. -/
def fill (constant : Constant) : List Constant :=
  if constant.isWide then [constant, .empty] else [constant]

theorem length_fill (constant : Constant) : constant.fill.length = constant.slots := by
  unfold fill slots
  split <;> rfl

theorem slots_pos (constant : Constant) : 0 < constant.slots := by
  unfold slots
  split <;> decide

/-- Two numbers of two bytes each. -/
theorem reads_pair {first second : Nat} (f : Nat → Nat → Constant)
    (h : first < 65536 ∧ second < 65536) :
    Reads (do
      let a ← Reader.u2
      return f a (← Reader.u2)) (bytes2 first ++ bytes2 second) (f first second) :=
  (Reads.u2 h.1).bind ((Reads.u2 h.2).map (f first))

/-- A number of eight bytes, read as two of four. -/
theorem reads_long {bits : Nat} (f : Nat → Constant) (h : bits < 18446744073709551616) :
    Reads (do
      let high ← Reader.u4
      return f (high * 4294967296 + (← Reader.u4)))
      (bytes4 (bits / 4294967296) ++ bytes4 (bits % 4294967296)) (f bits) := by
  refine Reads.bind (Reads.u4 (by omega)) ?_
  have hlow := (Reads.u4 (by omega : bits % 4294967296 < 4294967296)).map
    fun low => f (bits / 4294967296 * 4294967296 + low)
  rwa [Nat.div_add_mod'] at hlow

/-- A text with its length. -/
theorem reads_text {text : String} (h : (Text.encodeModified text.toList).length < 65536) :
    Reads (do
      let length ← Reader.u2
      let bytes ← Reader.take length
      match Text.ofClassFileBytes bytes with
      | some text => return .utf8 text
      | none => Reader.refuse)
      (bytes2 (Text.encodeModified text.toList).length ++ Text.encodeModified text.toList)
      (Constant.utf8 text) := by
  refine Reads.bind (Reads.u2 h) ?_
  intro rest
  show (Reader.take _ (Text.encodeModified text.toList ++ rest)).bind _ = _
  rw [Reads.take]
  simp only [Option.bind_some, Text.ofClassFileBytes_encodeModified]
  rfl

/-- `Constant.read` reads back a constant that `Fits`. -/
theorem reads_bytes {constant : Constant} (h : constant.Fits) :
    Reads read constant.bytes constant := by
  cases constant with
  | empty => exact h.elim
  | utf8 text => exact Reads.tag 1 (reads_text h)
  | integer bits => exact Reads.tag 3 (Reads.map integer (Reads.u4 h))
  | float bits => exact Reads.tag 4 (Reads.map float (Reads.u4 h))
  | long bits => exact Reads.tag 5 (reads_long .long h)
  | double bits => exact Reads.tag 6 (reads_long .double h)
  | classInfo name => exact Reads.tag 7 (Reads.map classInfo (Reads.u2 h))
  | string text => exact Reads.tag 8 (Reads.map string (Reads.u2 h))
  | fieldRef owner signature => exact Reads.tag 9 (reads_pair .fieldRef h)
  | methodRef owner signature => exact Reads.tag 10 (reads_pair .methodRef h)
  | interfaceMethodRef owner signature => exact Reads.tag 11 (reads_pair .interfaceMethodRef h)
  | nameAndType name descriptor => exact Reads.tag 12 (reads_pair .nameAndType h)
  | methodHandle kind reference =>
    have hkind : kind.toUInt8.toNat = kind := by rw [toNat_toUInt8, Nat.mod_eq_of_lt h.1]
    have hreference := Reads.map (Constant.methodHandle kind.toUInt8.toNat) (Reads.u2 h.2)
    rw [hkind] at hreference
    exact Reads.tag 15 (Reads.tag kind.toUInt8 (by rwa [hkind]))
  | methodType descriptor => exact Reads.tag 16 (Reads.map methodType (Reads.u2 h))
  | dynamic bootstrap signature => exact Reads.tag 17 (reads_pair .dynamic h)
  | invokeDynamic bootstrap signature => exact Reads.tag 18 (reads_pair .invokeDynamic h)
  | module name => exact Reads.tag 19 (Reads.map module (Reads.u2 h))
  | package name => exact Reads.tag 20 (Reads.map package (Reads.u2 h))

end Constant

namespace ConstantPool

/-- The slots of consecutive constants. -/
def slotsOf (constants : List Constant) : List Constant :=
  constants.flatMap Constant.fill

/-- The pool of the constants, with slot 0 `empty`. -/
def ofConstants (constants : List Constant) : ConstantPool :=
  { entries := (Constant.empty :: slotsOf constants).toArray }

theorem get?_ofConstants (constants : List Constant) (index : Nat) :
    (ofConstants constants).get? (index + 1) = (slotsOf constants)[index]? := by
  simp [ofConstants, get?]

/-- The bytes of a pool.  The count in front includes slot 0. -/
def bytes (constants : List Constant) : Bytes :=
  bytes2 ((slotsOf constants).length + 1) ++ constants.flatMap Constant.bytes

/-- The step of `readSlots`. -/
theorem readSlots_succ (slots : Nat) :
    readSlots (slots + 1) = do
      let constant ← Constant.read
      let rest ← readSlots (slots + 1 - constant.slots)
      return constant.fill ++ rest := by
  cases slots with
  | zero =>
    -- A wide constant in the last slot takes one slot more than there are, and none is left.
    rw [readSlots]
    refine bind_congr fun constant => ?_
    cases hwide : constant.isWide <;> simp [Constant.slots, Constant.fill, hwide, readSlots]
  | succ slots =>
    rw [readSlots]
    refine bind_congr fun constant => ?_
    cases hwide : constant.isWide <;> simp [Constant.slots, Constant.fill, hwide]

theorem reads_slots {constants : List Constant} (h : ∀ constant ∈ constants, constant.Fits) :
    Reads (readSlots (slotsOf constants).length) (constants.flatMap Constant.bytes)
      (slotsOf constants) := by
  induction constants with
  | nil => exact Reads.pure []
  | cons constant rest ih =>
    have hrest := ih fun other hother => h other (List.mem_cons_of_mem _ hother)
    obtain ⟨slots, hslots⟩ : ∃ slots, constant.slots + (slotsOf rest).length = slots + 1 := by
      refine ⟨constant.slots + (slotsOf rest).length - 1, ?_⟩
      have hpos := constant.slots_pos
      omega
    have hlength : (slotsOf (constant :: rest)).length = slots + 1 := by
      rw [slotsOf, List.flatMap_cons, List.length_append, Constant.length_fill, ← hslots]
      rfl
    rw [hlength, readSlots_succ]
    refine (Constant.reads_bytes (h constant List.mem_cons_self)).bind ?_
    rw [← hslots, Nat.add_sub_cancel_left]
    exact hrest.map (constant.fill ++ ·)

/-- `ConstantPool.read` reads back constants that satisfy `Fits`. -/
theorem reads_bytes {constants : List Constant} (h : ∀ constant ∈ constants, constant.Fits)
    (hsize : (slotsOf constants).length + 1 < 65536) :
    Reads read (bytes constants) (ofConstants constants) :=
  (Reads.u2 hsize).bind ((reads_slots h).map fun slots =>
    ConstantPool.mk (Constant.empty :: slots).toArray)

end ConstantPool

end ClassAudit
