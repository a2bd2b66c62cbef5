import ClassAudit.Archive.Crc32
import ClassAudit.Archive.Record
import ClassAudit.Text.CodePage

/-!
# Entries of the directory

The directory of an archive has an entry for each entry of the archive, with its name, its sizes,
and where it is.  Extra fields at its end may widen the numbers, replace the name or the comment by
one in UTF-8, or say that the content is encrypted; fields with times are only checked for their
form.

## Shape of the extra fields

A field begins with its kind and its length, two bytes each.  The fields of known kinds are read by
what they hold, and the next field begins where the reading stopped.
-/

namespace ClassAudit.Archive

/-- An entry of the central directory. -/
structure DirectoryEntry where
  isEncrypted : Bool
  method : Nat
  checksum : Nat
  packedSize : Nat
  size : Nat
  entryOffset : Nat
  /-- The name before it is decoded to `name`. -/
  nameBytes : Bytes
  name : String
  comment : String
  /-- The entry has an AES extra field. -/
  isSealed : Bool

/-- The value of a 32-bit field whose actual value is in the zip64 extra field. -/
def wideMark : Nat := 0xFFFFFFFF

/-- A text in UTF-8 or, by default, in code page 437. -/
def entryText (isUtf8 : Bool) (bytes : Bytes) : String :=
  if isUtf8 then String.ofList (Text.decodeDamaged [] bytes)
  else String.ofList (bytes.map Text.ofCodePage)

/-! ## Extra fields -/

/-- An eight-byte number in place of `number` if it is `wanted`, with the number of bytes read. -/
def widened (wanted : Bool) (number : Nat) : Reader (Nat × Nat) := do
  if wanted then return (← low8, 8) else return (number, 0)

/-- The zip64 extra field: all three numbers if there is room for them, and otherwise those whose
field is `wideMark`. -/
def wideNumbers (length : Nat) (entry : DirectoryEntry) : Reader DirectoryEntry := do
  let isWanted (number : Nat) : Bool := 24 ≤ length || number = wideMark
  let (size, a) ← widened (isWanted entry.size) entry.size
  let (packedSize, b) ← widened (isWanted entry.packedSize) entry.packedSize
  let (entryOffset, c) ← widened (isWanted entry.entryOffset) entry.entryOffset
  if length < a + b + c then Reader.refuse
  else
    Reader.skip (length - (a + b + c))
    return { entry with size, packedSize, entryOffset }

/-- The NTFS extra field, with three timestamps under one tag. -/
def fineTimes (length : Nat) : Reader Unit := do
  if length ≠ 32 then Reader.refuse
  Reader.skip 4
  if (← low2) ≠ 1 then Reader.refuse
  if (← low2) ≠ 24 then Reader.refuse
  Reader.skip 24

def setBits (b : Nat) : Nat :=
  ((List.range 8).filter b.testBit).length

/-- The extended timestamp field.  A length of 5 means one timestamp, whatever the flags say. -/
def coarseTimes (length : Nat) : Reader Unit := do
  let flags ← Reader.u1
  if length ≠ 5 ∧ length ≠ 1 + 4 * setBits flags then Reader.refuse
  if flags.testBit 0 || length = 5 then Reader.skip 4
  if flags.testBit 1 && 5 < length then Reader.skip 4
  if flags.testBit 2 && 5 < length then Reader.skip 4

/-- A Unicode extra field: a text in UTF-8 in place of `replaced`, whose checksum it contains. -/
def replacementText (length : Nat) (replaced : Bytes) : Reader (Bytes × String) := do
  Reader.skip 1
  let checksum ← low4
  if length < 5 then Reader.refuse
  let bytes ← Reader.take (length - 5)
  if checksum ≠ (Crc32.ofBytes replaced).toNat then Reader.refuse
  match Text.decode bytes with
  | some text => return (bytes, String.ofList text)
  | none => Reader.refuse

/-- The AES extra field, which contains the actual `method`. -/
def sealing (length : Nat) (entry : DirectoryEntry) : Reader DirectoryEntry := do
  if length ≠ 7 then Reader.refuse
  let version ← low2
  let vendor ← low2
  let strength ← Reader.u1
  let method ← low2
  if vendor ≠ 0x4541 || version < 1 || 2 < version || strength < 1 || 3 < strength then
    Reader.refuse
  else return { entry with method, isSealed := true }

/-- Reads one extra field into `entry`. -/
def extraField (entry : DirectoryEntry) : Reader DirectoryEntry := do
  let kind ← low2
  let length ← low2
  match kind with
  | 0x0001 => wideNumbers length entry
  | 0x000A =>
    fineTimes length
    return entry
  | 0x5455 =>
    coarseTimes length
    return entry
  | 0x6375 =>
    let (_, comment) ← replacementText length entry.comment.toUTF8.toList
    return { entry with comment }
  | 0x7075 =>
    let (nameBytes, name) ← replacementText length entry.nameBytes
    return { entry with nameBytes, name }
  | 0x9901 => sealing length entry
  | _ =>
    Reader.skip length
    return entry

/-- Reads extra fields into `entry` until fewer than two bytes are left.  Each takes at least one
byte, so the length of the bytes is a sufficient `bound`. -/
def extraFields : (bound : Nat) → Bytes → DirectoryEntry → Option DirectoryEntry
  | 0, _, entry => some entry
  | bound + 1, bytes, entry =>
    if bytes.length < 2 then some entry
    else do
      let (entry, rest) ← extraField entry bytes
      extraFields bound rest entry

/-! ## The entry -/

/-- The `method` of an entry with an AES extra field. -/
def sealedMethod : Nat := 99

/-- Reads an entry of the central directory, with its extra fields. -/
def directoryEntry : Reader DirectoryEntry := do
  expect directoryMark
  Reader.skip 4
  let flags ← low2
  let method ← low2
  Reader.skip 4
  let checksum ← low4
  let packedSize ← low4
  let size ← low4
  let nameLength ← low2
  let extraLength ← low2
  let commentLength ← low2
  Reader.skip 8
  let entryOffset ← low4
  let nameBytes ← Reader.take nameLength
  let extra ← Reader.take extraLength
  let comment ← Reader.take commentLength
  let isUtf8 := flags.testBit 11
  let plain : DirectoryEntry :=
    { isEncrypted := flags.testBit 0
      method, checksum, packedSize, size, entryOffset, nameBytes
      name := entryText isUtf8 nameBytes
      comment := entryText isUtf8 comment
      isSealed := false }
  match extraFields extra.length extra plain with
  | none => Reader.refuse
  | some entry =>
    if entry.method = sealedMethod && !entry.isSealed then Reader.refuse else return entry

end ClassAudit.Archive
