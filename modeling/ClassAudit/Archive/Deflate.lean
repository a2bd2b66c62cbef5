import ClassAudit.Archive.CodeTree
import ClassAudit.Text.Utf8

/-!
# Deflated data

Data packed as literal bytes and as copies of what came before, in blocks.  The bits of each byte
count from the low end.

## Shape of the reading

A reading step takes bits off the front and fails when they run out or cannot be right.  Data is
complete when the block that is marked as the last one has ended; what stands behind it does not
matter.
-/

namespace ClassAudit.Deflate

/-- The bits that are still to be read. -/
abbrev Bits := List Bool

/-- A reader that takes a value off the front of the bits, or fails. -/
abbrev BitReader (α : Type) := StateT Bits Option α

def corrupt {α : Type} : BitReader α := fun _ => none

/-- The bits of a byte, the low one first. -/
def bitsOf (b : UInt8) : Bits :=
  (List.range 8).map fun i => b.toNat.testBit i

def bitsOfBytes (bytes : Bytes) : Bits :=
  bytes.flatMap bitsOf

def bit : BitReader Bool
  | [] => none
  | b :: rest => some (b, rest)

/-- A number of `n` bits, the low one first. -/
def number : Nat → BitReader Nat
  | 0 => return 0
  | n + 1 => do
    let low ← bit
    let high ← number n
    return 2 * high + low.toNat

/-- The symbol of the next code word of the tree. -/
def symbol : CodeTree → BitReader Nat
  | .leaf s => return s
  | .absent => corrupt
  | .node zero one => do
    if (← bit) then symbol one else symbol zero

/-! ## Literals and copies -/

/-- The codes of a block: for literals and lengths, and for distances. -/
structure Codes where
  literals : CodeTree
  distances : CodeTree

def endOfBlock : Nat := 256

/-- The base and the number of extra bits of each length symbol, from 257 on. -/
def lengthBases : List (Nat × Nat) :=
  [(3, 0), (4, 0), (5, 0), (6, 0), (7, 0), (8, 0), (9, 0), (10, 0), (11, 1), (13, 1), (15, 1),
   (17, 1), (19, 2), (23, 2), (27, 2), (31, 2), (35, 3), (43, 3), (51, 3), (59, 3), (67, 4),
   (83, 4), (99, 4), (115, 4), (131, 5), (163, 5), (195, 5), (227, 5), (258, 0)]

/-- The base and the number of extra bits of each distance symbol. -/
def distanceBases : List (Nat × Nat) :=
  [(1, 0), (2, 0), (3, 0), (4, 0), (5, 1), (7, 1), (9, 2), (13, 2), (17, 3), (25, 3), (33, 4),
   (49, 4), (65, 5), (97, 5), (129, 6), (193, 6), (257, 7), (385, 7), (513, 8), (769, 8),
   (1025, 9), (1537, 9), (2049, 10), (3073, 10), (4097, 11), (6145, 11), (8193, 12), (12289, 12),
   (16385, 13), (24577, 13)]

/-- The number with the given index in `bases`, its extra bits added. -/
def based (bases : List (Nat × Nat)) (index : Nat) : BitReader Nat := do
  match bases[index]? with
  | none => corrupt
  | some (base, extra) => return base + (← number extra)

/-- Appends `length` bytes, each copied from `distance` bytes back.  The two ranges may overlap. -/
def copy (distance : Nat) : Nat → Array UInt8 → Array UInt8
  | 0, out => out
  | length + 1, out => copy distance length (out.push (out.getD (out.size - distance) 0))

/-- Decodes symbols up to `endOfBlock`.  Each takes at least one bit, so the number of bits is a
sufficient `bound`. -/
def symbols (codes : Codes) : (bound : Nat) → Array UInt8 → BitReader (Array UInt8)
  | 0, _ => corrupt
  | bound + 1, out => do
    let s ← symbol codes.literals
    if s < endOfBlock then symbols codes bound (out.push s.toUInt8)
    else if s = endOfBlock then return out
    else
      let length ← based lengthBases (s - endOfBlock - 1)
      let distance ← based distanceBases (← symbol codes.distances)
      if out.size < distance then corrupt
      else symbols codes bound (copy distance length out)

/-! ## Blocks -/

/-- The codes of a block of kind 1. -/
def fixedCodes : Codes :=
  let literals := List.replicate 144 8 ++ List.replicate 112 9 ++ List.replicate 24 7
    ++ List.replicate 8 8
  { literals := (CodeTree.ofLengths? literals).getD .absent
    distances := (CodeTree.ofLengths? (List.replicate 32 5)).getD .absent }

/-- The order in which the lengths of the code length code are stored. -/
def lengthOrder : List Nat :=
  [16, 17, 18, 0, 8, 7, 9, 6, 10, 5, 11, 4, 12, 3, 13, 2, 14, 1, 15]

def triples : Nat → BitReader (List Nat)
  | 0 => return []
  | n + 1 => do
    let first ← number 3
    return first :: (← triples n)

/-- The number of repetitions and the length that a symbol of the code length code stands for. -/
def repetition (s : Nat) (previous : Option Nat) : BitReader (Nat × Nat) := do
  if s < 16 then return (1, s)
  else if s = 16 then
    let n ← number 2
    match previous with
    | some length => return (n + 3, length)
    | none => corrupt
  else if s = 17 then return ((← number 3) + 3, 0)
  else return ((← number 7) + 11, 0)

/-- Decodes code lengths until there are `wanted` of them.  `done` holds those decoded so far, the
last one first. -/
def lengths (tree : CodeTree) (wanted : Nat) : (bound : Nat) → List Nat → BitReader (List Nat)
  | 0, _ => corrupt
  | bound + 1, done => do
    if done.length = wanted then return done.reverse
    else
      let (count, length) ← repetition (← symbol tree) done.head?
      if wanted < done.length + count then corrupt
      else lengths tree wanted bound (List.replicate count length ++ done)

/-- `ofLengths?`, restricted to codes that satisfy `isUsable`. -/
def usable? (lengths : List Nat) : Option CodeTree :=
  (CodeTree.ofLengths? lengths).filter (·.isUsable lengths)

/-- The code length code, which must be complete.  `written` is in `lengthOrder`. -/
def lengthCode? (written : List Nat) : Option CodeTree :=
  let lengths := (List.range lengthOrder.length).map fun s =>
    (written[lengthOrder.idxOf s]?).getD 0
  (CodeTree.ofLengths? lengths).filter (·.isFull)

/-- The codes at the start of a block of kind 2. -/
def dynamicCodes : BitReader Codes := do
  let literalCount := (← number 5) + 257
  let distanceCount := (← number 5) + 1
  let written := (← number 4) + 4
  if 286 < literalCount || 30 < distanceCount then corrupt
  else
    match lengthCode? (← triples written) with
    | none => corrupt
    | some tree =>
      let total := literalCount + distanceCount
      let all ← lengths tree total (total + 1) []
      if all[endOfBlock]? = some 0 then corrupt
      else
        match usable? (all.take literalCount), usable? (all.drop literalCount) with
        | some literals, some distances => return { literals, distances }
        | _, _ => corrupt

def copyStored : Nat → Array UInt8 → BitReader (Array UInt8)
  | 0, out => return out
  | n + 1, out => do
    let b ← number 8
    copyStored n (out.push b.toUInt8)

/-- A block of kind 0.  It starts at a byte boundary, with its length and the complement of the
length. -/
def stored (out : Array UInt8) : BitReader (Array UInt8) := do
  modify fun bits => bits.drop (bits.length % 8)
  let length ← number 16
  let complement ← number 16
  if length + complement = 65535 then copyStored length out else corrupt

/-- One block of the given kind, appended to `out`. -/
def block (kind : Nat) (out : Array UInt8) : BitReader (Array UInt8) := do
  if kind = 0 then stored out
  else if kind = 1 then symbols fixedCodes (← get).length out
  else if kind = 2 then
    let codes ← dynamicCodes
    symbols codes (← get).length out
  else corrupt

/-- Decodes blocks up to the last one.  Each takes at least one bit, so the number of bits is a
sufficient `bound`. -/
def blocks : (bound : Nat) → Array UInt8 → BitReader (Array UInt8)
  | 0, _ => corrupt
  | bound + 1, out => do
    let isLast ← bit
    let out ← block (← number 2) out
    if isLast then return out else blocks bound out

/-- The data compressed in `bytes`, `none` if they are corrupt. -/
def inflate? (bytes : Bytes) : Option Bytes := do
  let bits := bitsOfBytes bytes
  let (out, _) ← blocks bits.length #[] bits
  return out.toList

end ClassAudit.Deflate
