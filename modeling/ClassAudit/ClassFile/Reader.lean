import ClassAudit.Text.Utf8

/-!
# Reading bytes in order

A reader takes a value off the front of the bytes and returns the bytes it leaves.  It fails when
they run out.  Readers compose with `do`, and nothing ever goes back, so more bytes at the end
never change what was read before them.
-/

namespace ClassAudit

/-- A reader that takes a value off the front of the bytes, or fails. -/
abbrev Reader (α : Type) := StateT Bytes Option α

namespace Reader

def byte : Reader UInt8
  | [] => none
  | b :: rest => some (b, rest)

/-- A number of one byte. -/
def u1 : Reader Nat := do
  return (← byte).toNat

/-- A big-endian number of two bytes. -/
def u2 : Reader Nat := do
  let high ← u1
  let low ← u1
  return high * 256 + low

/-- A big-endian number of four bytes. -/
def u4 : Reader Nat := do
  let high ← u2
  let low ← u2
  return high * 65536 + low

/-- The next `n` bytes. -/
def take : Nat → Reader Bytes
  | 0 => pure []
  | n + 1 => do
    let b ← byte
    let rest ← take n
    return b :: rest

/-- Drops the next `n` bytes, which must exist. -/
def skip (n : Nat) : Reader Unit := do
  let _ ← take n
  return ()

/-- `item`, `n` times. -/
def times {α : Type} : Nat → Reader α → Reader (List α)
  | 0, _ => pure []
  | n + 1, item => do
    let a ← item
    let rest ← times n item
    return a :: rest

/-- A two-byte count followed by this many entries. -/
def table {α : Type} (entry : Reader α) : Reader (List α) := do
  let count ← u2
  times count entry

/-- A table of two-byte numbers. -/
def numbers : Reader (List Nat) := table u2

/-- Succeeds iff at least `n` bytes are left, and takes none. -/
def available (n : Nat) : Reader Unit := fun bytes =>
  if n ≤ bytes.length then some ((), bytes) else none

def refuse {α : Type} : Reader α := fun _ => none

/-- The value of a reader that takes all of `bytes`. -/
def whole {α : Type} (reader : Reader α) (bytes : Bytes) : Option α :=
  match reader bytes with
  | some (a, []) => some a
  | _ => none

end Reader

end ClassAudit
