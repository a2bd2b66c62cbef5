import ClassAudit.ClassFile.Reader

/-!
# Records of an archive

The records that say where the parts of an archive are.  Every record begins with a mark of four
bytes, and numbers have their low bytes first.  An archive with many or distant entries has a
second, wider end record and a locator that says where it is.
-/

namespace ClassAudit.Archive

/-- A little-endian number of two bytes. -/
def low2 : Reader Nat := do
  let low ← Reader.u1
  let high ← Reader.u1
  return low + 256 * high

/-- A little-endian number of four bytes. -/
def low4 : Reader Nat := do
  let low ← low2
  let high ← low2
  return low + 65536 * high

/-- A little-endian number of eight bytes. -/
def low8 : Reader Nat := do
  let low ← low4
  let high ← low4
  return low + 4294967296 * high

/-- The signature of a local header. -/
def entryMark : Bytes := [0x50, 0x4B, 0x03, 0x04]

/-- The signature of a central directory entry. -/
def directoryMark : Bytes := [0x50, 0x4B, 0x01, 0x02]

/-- The signature of an end record. -/
def endMark : Bytes := [0x50, 0x4B, 0x05, 0x06]

/-- The signature of a zip64 end record. -/
def wideEndMark : Bytes := [0x50, 0x4B, 0x06, 0x06]

/-- The signature of a zip64 locator. -/
def locatorMark : Bytes := [0x50, 0x4B, 0x06, 0x07]

/-- Reads `mark` and refuses anything else. -/
def expect (mark : Bytes) : Reader Unit := do
  let found ← Reader.take mark.length
  if found = mark then return () else Reader.refuse

/-- The end of central directory record. -/
structure EndRecord where
  disk : Nat
  directoryDisk : Nat
  entriesHere : Nat
  entriesInAll : Nat
  directoryOffset : Nat

/-- Reads an `EndRecord` with its comment. -/
def endRecord : Reader EndRecord := do
  expect endMark
  let disk ← low2
  let directoryDisk ← low2
  let entriesHere ← low2
  let entriesInAll ← low2
  Reader.skip 4
  let directoryOffset ← low4
  Reader.skip (← low2)
  return { disk, directoryDisk, entriesHere, entriesInAll, directoryOffset }

/-- A field has the value that refers to the zip64 end record. -/
def EndRecord.mayBeWide (record : EndRecord) : Bool :=
  record.entriesInAll = 0xFFFF || record.directoryOffset = 0xFFFFFFFF

/-- The zip64 end of central directory record. -/
structure WideEndRecord where
  /-- The length of the record without its first twelve bytes. -/
  length : Nat
  versionMade : Nat
  versionNeeded : Nat
  disk : Nat
  directoryDisk : Nat
  entriesHere : Nat
  entriesInAll : Nat
  directoryOffset : Nat

/-- Reads the fixed part of a `WideEndRecord`. -/
def wideEndRecord : Reader WideEndRecord := do
  expect wideEndMark
  let length ← low8
  let versionMade ← low2
  let versionNeeded ← low2
  let disk ← low4
  let directoryDisk ← low4
  let entriesHere ← low8
  let entriesInAll ← low8
  Reader.skip 8
  let directoryOffset ← low8
  return {
    length, versionMade, versionNeeded, disk, directoryDisk, entriesHere, entriesInAll,
    directoryOffset }

/-- The zip64 locator, which contains the offset of the zip64 end record. -/
structure Locator where
  directoryDisk : Nat
  endOffset : Nat
  disks : Nat

def locatorLength : Nat := 20

/-- Reads a `Locator`. -/
def locator : Reader Locator := do
  expect locatorMark
  let directoryDisk ← low4
  let endOffset ← low8
  let disks ← low4
  return { directoryDisk, endOffset, disks }

/-- Reads a local header and returns the length of its variable part. -/
def entryHead : Reader Nat := do
  expect entryMark
  Reader.skip 22
  let nameLength ← low2
  let extraLength ← low2
  return nameLength + extraLength

end ClassAudit.Archive
