/-!
# The bytes of a range of characters

The encodings of the characters from one to another, as sequences of byte ranges.  A sequence
stands for all ways to choose a byte from each of its ranges; the sequences of a range of characters
stand for their encodings, each once, in rising order.

## Shape of the division

A range is cut until its first and its last encoding have the same length and differ only where the
bytes behind run through all values: at the surrogates, where encodings grow longer, and at the
multiples of 64, 4096 and 262144.
-/

namespace ClassAudit.Pattern

/-- The first and the last byte of a range. -/
abbrev ByteRange := Nat × Nat

/-- The UTF-8 bytes of a code point. -/
def encoding (code : Nat) : List Nat :=
  let tail (size : Nat) : Nat := 0x80 + code / size % 64
  if code < 0x80 then [code]
  else if code < 0x800 then [0xC0 + code / 64, tail 1]
  else if code < 0x10000 then [0xE0 + code / 4096, tail 64, tail 1]
  else [0xF0 + code / 262144, tail 4096, tail 64, tail 1]

/-- The last code of the first part and the first code of the second, if the range must be split for
its continuation bytes to be independent. -/
def cutAtMultiple? (low high : Nat) : Option (Nat × Nat) :=
  [64, 4096, 262144].findSome? fun size =>
    if low / size = high / size then none
    else if low % size ≠ 0 then
      let next := (low / size + 1) * size
      some (next - 1, next)
    else if high % size ≠ size - 1 then
      let last := high / size * size
      some (last - 1, last)
    else none

/-- The split of a range at the surrogates, between encoded lengths, or by `cutAtMultiple?`. -/
def cut? (low high : Nat) : Option (Nat × Nat) :=
  if low < 0xE000 ∧ 0xD7FF < high then some (0xD7FF, 0xE000)
  else
    match [0x7F, 0x7FF, 0xFFFF].find? fun top => low ≤ top ∧ top < high with
    | some top => some (top, top + 1)
    | none => if high < 0x80 then none else cutAtMultiple? low high

/-- The byte sequences of the codes from `low` to `high`, with at most `depth` nested splits. -/
def sequencesWithin : (depth low high : Nat) → List (List ByteRange)
  | 0, _, _ => []
  | depth + 1, low, high =>
    if high < low then []
    else
      match cut? low high with
      | some (last, first) => sequencesWithin depth low last ++ sequencesWithin depth first high
      | none => [List.zip (encoding low) (encoding high)]

/-- The sequences of byte ranges for the characters from `low` to `high`.  There are about a dozen
nested splits at most, so the depth suffices. -/
def byteSequences (low high : Nat) : List (List ByteRange) :=
  sequencesWithin 64 low high

end ClassAudit.Pattern
