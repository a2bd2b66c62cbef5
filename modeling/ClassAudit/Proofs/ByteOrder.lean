import ClassAudit.Proofs.Ordered
import ClassAudit.Text.Utf8
import Mathlib

/-!
# The order of texts is that of their bytes

Texts are compared by the code points of their characters.  Compared byte by byte in UTF-8 they come
in the same order, since of two characters the one with the greater code point has the greater byte
at the first place where the two differ, and neither is the front of the other.

## Shape of the proof

`Rises` says of a way to write numbers as bytes that it keeps their order in this strong sense.  A
lead byte does, one continuation byte more keeps it, and so does the choice of a longer form with a
greater lead byte for the greater numbers.  UTF-8 is made of these three.

An ordered list of names is therefore the one list of them in the order of their bytes.
-/

namespace ClassAudit.Text

/-! ## Writing code points -/

/-- A leading byte: `n` above the bits of `mark`. -/
def lead (mark n : Nat) : Bytes :=
  [UInt8.ofNat (n + mark)]

/-- `write` for all but the lowest six bits of `n`, and a continuation byte for these. -/
def continued (write : Nat → Bytes) (n : Nat) : Bytes :=
  write (n / 64) ++ [UInt8.ofNat (n % 64 + 0x80)]

/-- The UTF-8 encoding of the code point `n`. -/
def encodePoint (n : Nat) : Bytes :=
  if n ≤ 0x7f then lead 0 n
  else if n ≤ 0x7ff then continued (lead 0xc0) n
  else if n ≤ 0xffff then continued (continued (lead 0xe0)) n
  else continued (continued (continued (lead 0xf0))) n

theorem toNat_lt_of_char (c : Char) : c.toNat < 0x110000 := by
  have hvalid : c.toNat.isValidChar := c.valid
  unfold Nat.isValidChar at hvalid
  omega

theorem utf8EncodeChar_eq (c : Char) : String.utf8EncodeChar c = encodePoint c.toNat := by
  have hmax := toNat_lt_of_char c
  show (if c.toNat ≤ 0x7f then _ else if c.toNat ≤ 0x7ff then _ else if c.toNat ≤ 0xffff then _
    else _) = encodePoint c.toNat
  unfold encodePoint
  split_ifs with hone htwo hthree
  · rfl
  · have hlead : c.toNat / 64 % 32 = c.toNat / 64 := Nat.mod_eq_of_lt (by omega)
    show [UInt8.ofNat (c.toNat / 64 % 32 + 0xc0), _] = _
    rw [hlead]
    rfl
  · have hlead : c.toNat / 4096 % 16 = c.toNat / 64 / 64 := by omega
    show [UInt8.ofNat (c.toNat / 4096 % 16 + 0xe0), _, _] = _
    rw [hlead]
    rfl
  · have hlead : c.toNat / 262144 % 8 = c.toNat / 64 / 64 / 64 := by omega
    have hsecond : c.toNat / 4096 % 64 = c.toNat / 64 / 64 % 64 := by omega
    show [UInt8.ofNat (c.toNat / 262144 % 8 + 0xf0), UInt8.ofNat (c.toNat / 4096 % 64 + 0x80),
      _, _] = _
    rw [hlead, hsecond]
    rfl

/-! ## Keeping the order -/

/-- `write` is strictly monotone below `bound` in the lexicographic order of bytes, whatever bytes
follow. -/
def Rises (bound : Nat) (write : Nat → Bytes) : Prop :=
  ∀ ⦃n m : Nat⦄, n < m → m < bound → ∀ rest rest', write n ++ rest < write m ++ rest'

theorem ofNat_cons_lt {n m : Nat} (h : n < m) (hm : m < 256) (rest rest' : Bytes) :
    UInt8.ofNat n :: rest < UInt8.ofNat m :: rest' := by
  have hbyte : UInt8.ofNat n < UInt8.ofNat m := by
    rw [UInt8.lt_iff_toNat_lt, UInt8.toNat_ofNat_of_lt' (h.trans hm),
      UInt8.toNat_ofNat_of_lt' hm]
    exact h
  exact List.cons_lt_cons_iff.mpr (Or.inl hbyte)

theorem rises_lead {mark bound : Nat} (h : bound + mark ≤ 256) : Rises bound (lead mark) := by
  intro n m hlt hm rest rest'
  exact ofNat_cons_lt (by omega) (by omega) rest rest'

namespace Rises

variable {bound : Nat} {write : Nat → Bytes}

theorem continued (h : Rises bound write) : Rises (64 * bound) (continued write) := by
  intro n m hlt hm rest rest'
  unfold Text.continued
  rw [List.append_assoc, List.append_assoc]
  rcases Nat.lt_or_eq_of_le (Nat.div_le_div_right hlt.le : n / 64 ≤ m / 64) with hhigh | hhigh
  · exact h hhigh (by omega) _ _
  · -- The bytes in front are the same, so the lowest bits decide.
    rw [hhigh]
    exact List.append_left_lt (ofNat_cons_lt (by omega) (by omega) rest rest')

/-- `Rises` for an encoding that switches from `write` to `write'` above `limit`. -/
theorem ite {write' : Nat → Bytes} {bound' : Nat} (h : Rises bound write) (limit : Nat)
    (h' : Rises bound' write') (hlimit : limit < bound)
    (hbetween : ∀ n m, n ≤ limit → limit < m → m < bound' →
      ∀ rest rest', write n ++ rest < write' m ++ rest') :
    Rises bound' fun n => if n ≤ limit then write n else write' n := by
  intro n m hlt hm rest rest'
  dsimp only
  split_ifs with hn hm'
  · exact h hlt (by omega) rest rest'
  · exact hbetween n m hn (by omega) hm rest rest'
  · omega
  · exact h' hlt hm rest rest'

end Rises

theorem rises_encodePoint : Rises 0x400000 encodePoint := by
  have hone : Rises 0x80 (lead 0) := rises_lead (by decide)
  have htwo : Rises (64 * 0x40) (continued (lead 0xc0)) := (rises_lead (by decide)).continued
  have hthree : Rises (64 * (64 * 0x20)) (continued (continued (lead 0xe0))) :=
    (rises_lead (by decide)).continued.continued
  have hfour : Rises (64 * (64 * (64 * 0x10))) (continued (continued (continued (lead 0xf0)))) :=
    (rises_lead (by decide)).continued.continued.continued
  -- Longer forms have greater marks.
  have hlong := hthree.ite 0xffff hfour (by decide) fun n m _ _ _ rest rest' =>
    ofNat_cons_lt (by omega) (by omega) _ _
  have hlonger := htwo.ite 0x7ff hlong (by decide) fun n m _ _ _ rest rest' => by
    split_ifs <;> exact ofNat_cons_lt (by omega) (by omega) _ _
  exact hone.ite 0x7f hlonger (by decide) fun n m _ _ _ rest rest' => by
    split_ifs <;> exact ofNat_cons_lt (by omega) (by omega) _ _

/-! ## Texts -/

/-- The UTF-8 bytes of `text`. -/
def utf8Bytes (text : String) : Bytes :=
  text.toByteArray.data.toList

theorem utf8Bytes_eq_flatMap (text : String) :
    utf8Bytes text = text.toList.flatMap String.utf8EncodeChar := by
  rw [utf8Bytes, ← String.utf8Encode_toList]
  simp [List.utf8Encode]

/-- `utf8Bytes` is strictly monotone. -/
theorem utf8Bytes_lt {a b : String} (h : a < b) : utf8Bytes a < utf8Bytes b := by
  rw [utf8Bytes_eq_flatMap, utf8Bytes_eq_flatMap]
  have hlex : List.Lex (· < ·) a.toList b.toList := h
  generalize a.toList = cs at hlex
  generalize b.toList = ds at hlex
  induction hlex with
  | @nil d ds =>
    obtain ⟨first, others, hbytes⟩ :=
      List.exists_cons_of_ne_nil (String.utf8EncodeChar_ne_nil : String.utf8EncodeChar d ≠ [])
    rw [List.flatMap_cons, hbytes]
    exact List.nil_lt_cons _ _
  | @rel c cs d ds hlt =>
    rw [List.flatMap_cons, List.flatMap_cons, utf8EncodeChar_eq, utf8EncodeChar_eq]
    exact rises_encodePoint hlt ((toNat_lt_of_char d).trans (by decide)) _ _
  | @cons c cs ds _ ih =>
    rw [List.flatMap_cons, List.flatMap_cons]
    exact List.append_left_lt ih

/-! ## Ordered names -/

/-- `names` lists the elements of `set` in strictly increasing byte order. -/
structure Enumerates (names : List String) (set : Finset String) : Prop where
  rising : names.Pairwise fun a b => utf8Bytes a < utf8Bytes b
  mem_iff : ∀ name, name ∈ names ↔ name ∈ set

theorem enumerates_ordered {names : List String} {set : Finset String}
    (h : ∀ name, name ∈ names ↔ name ∈ set) : Enumerates (ordered names) set :=
  ⟨(pairwise_ordered names).imp utf8Bytes_lt, fun name => mem_ordered.trans (h name)⟩

namespace Enumerates

variable {names others : List String} {set : Finset String}

theorem nodup (h : Enumerates names set) : names.Nodup := by
  refine h.rising.imp ?_
  rintro a _ hab rfl
  exact List.lt_irrefl _ hab

theorem length_eq (h : Enumerates names set) : names.length = set.card := by
  rw [← List.toFinset_card_of_nodup h.nodup]
  congr 1
  ext name
  rw [List.mem_toFinset, h.mem_iff]

/-- `Enumerates` determines the list. -/
theorem unique (h : Enumerates names set) (h' : Enumerates others set) : names = others := by
  have hperm : names.Perm others := (List.perm_ext_iff_of_nodup h.nodup h'.nodup).mpr
    fun name => (h.mem_iff name).trans (h'.mem_iff name).symm
  refine hperm.eq_of_pairwise ?_ h.rising h'.rising
  intro a b _ _ hab hba
  exact absurd (List.lt_trans hab hba) (List.lt_irrefl _)

end Enumerates

end ClassAudit.Text
