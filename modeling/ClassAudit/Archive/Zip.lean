import ClassAudit.Archive.Deflate
import ClassAudit.Archive.DirectoryEntry
import ClassAudit.Text.Ordered

/-!
# Archives

An archive ends with a record that says where its directory is, and the directory says where the
entries are.  Whatever stands in front of the archive, or after the end record, does not matter.

## Shape of the search

The end record is looked for from the end of the bytes.  A place that looks like one but leads to
no directory is passed over.  The directory begins at the first directory entry at or after the
place that the end record gives; the distance between the two is the length of what stands in
front.  A wide end record is looked for in the same way from the place that its locator gives.
-/

namespace ClassAudit

structure ArchiveEntry where
  name : String
  /-- The compression method. -/
  method : Nat
  /-- The CRC-32 checksum of the content. -/
  checksum : UInt32
  /-- The length of the content, as given in the central directory. -/
  size : Nat
  isEncrypted : Bool
  /-- The compressed content, `none` if there is no local header at the offset. -/
  packed : Option Bytes
  deriving DecidableEq, Repr

/-- The entries of an archive, with distinct names. -/
structure Archive where
  entries : List ArchiveEntry
  deriving DecidableEq, Repr

namespace ArchiveEntry

/-- The name ends with a slash or a backslash. -/
def isDirectory (entry : ArchiveEntry) : Bool :=
  entry.name.toList.getLast?.any fun c => c = '/' || c = '\\'

/-- The compression methods with an assigned meaning. -/
def knownMethods : List Nat := [0, 8, 9, 12, 14, 93, 95, 98]

/-- The entry is not encrypted, has a known method and has `packed` content. -/
def opens (entry : ArchiveEntry) : Bool :=
  !entry.isEncrypted && knownMethods.contains entry.method && entry.packed.isSome

/-- Decompresses content stored by method 0 or deflated by method 8, and fails for any other. -/
def unpack? (method : Nat) (packed : Bytes) : Option Bytes :=
  if method = 0 then some packed
  else if method = 8 then Deflate.inflate? packed
  else none

/-- The content of the entry, if `unpack?` succeeds and the checksum agrees. -/
def read? (entry : ArchiveEntry) : Option Bytes := do
  let content ← unpack? entry.method (← entry.packed)
  if Crc32.ofBytes content = entry.checksum then some content else none

end ArchiveEntry

namespace Archive

/-! ## The directory -/

/-- The occurrences of `mark` with the bytes from there on, the last one first, in front of `found`.
-/
def marksFromEnd (mark : Bytes) (found : List (Nat × Bytes)) : Nat → Bytes → List (Nat × Bytes)
  | _, [] => found
  | i, b :: rest =>
    marksFromEnd mark (if mark.isPrefixOf (b :: rest) then (i, b :: rest) :: found else found)
      (i + 1) rest

/-- The first occurrence of `mark`. -/
def firstMark? (mark : Bytes) : Nat → Bytes → Option Nat
  | _, [] => none
  | i, b :: rest =>
    if mark.isPrefixOf (b :: rest) then some i else firstMark? mark (i + 1) rest

/-- At most `size` bytes from `place` on. -/
def slice (bytes : Array UInt8) (place size : Nat) : Bytes :=
  if bytes.size ≤ place then []
  else (bytes.extract place (min (place + size) bytes.size)).toList

/-- The location of the central directory. -/
structure Directory where
  /-- The number of bytes in front of the archive. -/
  lead : Nat
  offset : Nat
  count : Nat

/-- The directory of the end record at `place`. -/
def plainDirectory? (bytes : Array UInt8) (place : Nat) (record : EndRecord) :
    Option Directory := do
  let offset := record.directoryOffset
  let lead ←
    if record.entriesInAll = 0 then some (place - offset)
    else if place ≤ offset then none
    else firstMark? directoryMark 0 (slice bytes offset (place - offset))
  if record.disk ≠ record.directoryDisk then none
  else return { lead, offset, count := record.entriesHere }

/-- The `Locator` in front of the end record at `place`. -/
def locatorBefore? (bytes : Array UInt8) (place : Nat) : Option Locator :=
  if place < locatorLength then none
  else (locator (slice bytes (place - locatorLength) locatorLength)).map Prod.fst

/-- The length of a central directory entry without its variable part. -/
def leastEntryLength : Nat := 46

/-- The zip64 end record at `place`, if it ends at the locator at `stop`, agrees with it, and leaves
room for the directory. -/
def wideRecordAt? (locator : Locator) (place stop : Nat) (tail : Bytes) : Option WideEndRecord := do
  let (record, _) ← wideEndRecord tail
  if record.length < 44 ∨ record.length + 12 ≠ stop - place
      ∨ record.directoryDisk ≠ locator.directoryDisk
      ∨ place < record.entriesInAll * leastEntryLength + record.directoryOffset then none
  else return record

/-- The directory of the zip64 end record that the locator at `stop` refers to. -/
def wideDirectory? (bytes : Array UInt8) (locator : Locator) (stop : Nat) : Option Directory := do
  if stop ≤ locator.endOffset ∨ 1 < locator.disks then none
  else
    let between := slice bytes locator.endOffset (stop - locator.endOffset)
    let marks := (marksFromEnd wideEndMark [] 0 between).reverse
    let (lead, record) ← marks.findSome? fun (lead, tail) =>
      (wideRecordAt? locator (locator.endOffset + lead) stop tail).map fun record => (lead, record)
    if record.entriesInAll < record.entriesHere ∨ record.versionMade < record.versionNeeded
        ∨ record.disk ≠ record.directoryDisk then none
    else return { lead, offset := record.directoryOffset, count := record.entriesInAll }

/-- The directory of the end record at `place`, by its zip64 locator if there is one. -/
def directory? (bytes : Array UInt8) (place : Nat) (record : EndRecord) : Option Directory :=
  match if record.mayBeWide then locatorBefore? bytes place else none with
  | some locator => wideDirectory? bytes locator (place - locatorLength)
  | none => plainDirectory? bytes place record

/-- The length of a local header without its variable part. -/
def fixedHeadLength : Nat := 30

/-- The compressed content behind the local header at `place`. -/
def packedAt? (bytes : Array UInt8) (place size : Nat) : Option Bytes := do
  let (names, _) ← entryHead (slice bytes place fixedHeadLength)
  return slice bytes (place + fixedHeadLength + names) size

/-- The `ArchiveEntry` of a central directory entry. -/
def resolve (bytes : Array UInt8) (lead : Nat) (entry : DirectoryEntry) : ArchiveEntry :=
  { name := entry.name
    method := entry.method
    checksum := entry.checksum.toUInt32
    size := entry.size
    isEncrypted := entry.isEncrypted || entry.isSealed
    packed := packedAt? bytes (entry.entryOffset + lead) entry.packedSize }

/-- The last entry of each name, in the position of the first. -/
def lastOfEachName (entries : List ArchiveEntry) : List ArchiveEntry :=
  let backwards := entries.reverse
  (Text.distinctBy ArchiveEntry.name entries).map fun entry =>
    (backwards.find? (·.name = entry.name)).getD entry

/-- Offsets are 64-bit numbers. -/
def placeBound : Nat := 0x10000000000000000

/-- The archive whose end record is at `place`. -/
def openAt? (bytes : Array UInt8) (place : Nat) (tail : Bytes) : Option Archive := do
  let (record, _) ← endRecord tail
  let directory ← directory? bytes place record
  let start := directory.offset + directory.lead
  let (entries, _) ← Reader.times directory.count directoryEntry (slice bytes start bytes.size)
  if entries.any fun entry => placeBound ≤ entry.entryOffset + directory.lead then none
  else return { entries := lastOfEachName (entries.map (resolve bytes directory.lead)) }

/-- The archive in `bytes`, by the last end record at which `openAt?` succeeds. -/
def ofBytes? (bytes : Bytes) : Option Archive :=
  let all := bytes.toArray
  (marksFromEnd endMark [] 0 bytes).findSome? fun (place, tail) => openAt? all place tail

end Archive

end ClassAudit
