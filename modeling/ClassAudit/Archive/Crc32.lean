import ClassAudit.Text.Utf8

/-!
# Checksums

The cyclic checksum of 32 bits by which an archive recognises damaged content.
-/

namespace ClassAudit.Crc32

/-- The CRC-32 polynomial in reversed bit order. -/
def polynomial : UInt32 := 0xEDB88320

/-- The division step for one bit. -/
def shift (remainder : UInt32) : UInt32 :=
  if remainder &&& 1 = 1 then (remainder >>> 1) ^^^ polynomial else remainder >>> 1

/-- `shift`, iterated. -/
def shifts : Nat → UInt32 → UInt32
  | 0, remainder => remainder
  | n + 1, remainder => shifts n (shift remainder)

/-- Adds one byte to the remainder. -/
def step (remainder : UInt32) (b : UInt8) : UInt32 :=
  shifts 8 (remainder ^^^ b.toUInt32)

/-- The CRC-32 checksum. -/
def ofBytes (bytes : Bytes) : UInt32 :=
  bytes.foldl step 0xFFFFFFFF ^^^ 0xFFFFFFFF

end ClassAudit.Crc32
