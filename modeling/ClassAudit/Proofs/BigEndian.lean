import ClassAudit.ClassFile.Reader

/-!
# Writing numbers

`bytes2` and `bytes4` write a number in two and four bytes, the high byte first.  A number that
fits is read back from its bytes.
-/

namespace ClassAudit

/-- The two low bytes of `n`, high byte first. -/
def bytes2 (n : Nat) : Bytes :=
  [(n / 256).toUInt8, n.toUInt8]

/-- The four low bytes of `n`, high byte first. -/
def bytes4 (n : Nat) : Bytes :=
  bytes2 (n / 65536) ++ bytes2 n

@[simp]
theorem length_bytes2 (n : Nat) : (bytes2 n).length = 2 := rfl

@[simp]
theorem length_bytes4 (n : Nat) : (bytes4 n).length = 4 := rfl

theorem toNat_toUInt8 (n : Nat) : n.toUInt8.toNat = n % 256 := by
  simp [Nat.toUInt8]

/-- The two bytes of `bytes2` add up to the number. -/
theorem bytes2_value {n : Nat} (h : n < 65536) :
    (n / 256).toUInt8.toNat * 256 + n.toUInt8.toNat = n := by
  rw [toNat_toUInt8, toNat_toUInt8]
  omega

theorem length_flatMap_const {α : Type} {f : α → Bytes} (k : Nat) (items : List α)
    (h : ∀ a, (f a).length = k) : (items.flatMap f).length = k * items.length := by
  induction items with
  | nil => rfl
  | cons a rest ih => rw [List.flatMap_cons, List.length_append, h, ih, List.length_cons,
      Nat.mul_succ, Nat.add_comm]

end ClassAudit
