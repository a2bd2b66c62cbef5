/-!
# Sets of code points

A set of code points as ranges in rising order, found by halving.  Tables are written as rows
of text: hexadecimal codes and ranges, separated by blanks.

## Shape of the operations

Sets are joined by putting their ranges together, sorting them, and joining what overlaps or
touches.  The codes outside a set are the gaps between its ranges; the step from one code to the
next passes over the surrogates, which stand for no character.
-/

namespace ClassAudit.Unicode

/-- A set of code points as ranges with both ends included, sorted and not adjacent. -/
structure CodeSet where
  ranges : Array (Nat × Nat)
  deriving DecidableEq, Repr

/-- A set of code points with its folded names. -/
structure NamedSet where
  names : List String
  codes : CodeSet

namespace CodeSet

def empty : CodeSet := { ranges := #[] }

def maxCode : Nat := 0x10FFFF

def full : CodeSet := { ranges := #[(0, maxCode)] }

/-! ## Tables -/

/-- The value of a lower-case hexadecimal digit. -/
def digit (c : Char) : Nat :=
  if c ≤ '9' then c.toNat - 48 else c.toNat - 87

/-- Parses a row of a table.  `low` is the lower end of the current range and `code` the number so
far. -/
def readRow (ranges : Array (Nat × Nat)) (low : Option Nat) (code : Nat) :
    List Char → Array (Nat × Nat)
  | [] => ranges.push (low.getD code, code)
  | ' ' :: rest => readRow (ranges.push (low.getD code, code)) none 0 rest
  | '-' :: rest => readRow ranges (some code) 0 rest
  | c :: rest => readRow ranges low (code * 16 + digit c) rest

/-- The set with the given rows, which list ranges in order. -/
def ofRows (rows : List String) : CodeSet :=
  { ranges := rows.foldl (fun ranges row => readRow ranges none 0 row.toList) #[] }

/-! ## Membership -/

/-- Binary search for `code` among the ranges from `low` up to `high`, in at most `steps` steps. -/
def search (ranges : Array (Nat × Nat)) (code : Nat) : (steps low high : Nat) → Bool
  | 0, _, _ => false
  | steps + 1, low, high =>
    if low < high then
      let middle := (low + high) / 2
      match ranges[middle]? with
      | none => false
      | some (first, last) =>
        if code < first then search ranges code steps low middle
        else if last < code then search ranges code steps (middle + 1) high
        else true
    else false

def contains (set : CodeSet) (code : Nat) : Bool :=
  search set.ranges code (set.ranges.size + 1) 0 set.ranges.size

/-- The member of a set with one member. -/
def only? (set : CodeSet) : Option Nat :=
  match set.ranges.toList with
  | [(low, high)] => if low = high then some low else none
  | _ => none

/-- All members are below `bound`. -/
def isBelow (bound : Nat) (set : CodeSet) : Bool :=
  set.ranges.all fun range => range.2 < bound

/-! ## Unions -/

/-- Merges sorted ranges that overlap or are adjacent, where `low` and `high` are the ends of the
current range. -/
def joinFrom (low high : Nat) : List (Nat × Nat) → List (Nat × Nat)
  | [] => [(low, high)]
  | (first, last) :: rest =>
    if first ≤ high + 1 then joinFrom low (max high last) rest
    else (low, high) :: joinFrom first last rest

/-- The union of `ranges`, which may be in any order. -/
def ofRanges (ranges : List (Nat × Nat)) : CodeSet :=
  match ranges.mergeSort fun a b => a.1 ≤ b.1 with
  | [] => empty
  | (low, high) :: rest => { ranges := (joinFrom low high rest).toArray }

def single (code : Nat) : CodeSet := { ranges := #[(code, code)] }

def unionAll (sets : List CodeSet) : CodeSet :=
  ofRanges (sets.flatMap fun set => set.ranges.toList)

def union (a b : CodeSet) : CodeSet :=
  unionAll [a, b]

/-! ## Complements and intersections -/

/-- The next code that is no surrogate. -/
def after (code : Nat) : Nat :=
  if code = 0xD7FF then 0xE000 else code + 1

/-- The previous code that is no surrogate. -/
def before (code : Nat) : Nat :=
  if code = 0xE000 then 0xD7FF else code - 1

/-- The gaps behind each range.  Ranges that are adjacent across the surrogates leave a gap whose
ends are in reverse order. -/
def gaps : List (Nat × Nat) → List (Nat × Nat)
  | [] => []
  | [(_, high)] => if high < maxCode then [(after high, maxCode)] else []
  | (_, high) :: (low, last) :: rest => (after high, before low) :: gaps ((low, last) :: rest)

/-- The gaps before, between and behind the ranges of `set`. -/
def outside (set : CodeSet) : List (Nat × Nat) :=
  match set.ranges.toList with
  | [] => [(0, maxCode)]
  | (low, high) :: rest =>
    (if 0 < low then [(0, before low)] else []) ++ gaps ((low, high) :: rest)

/-- The complement in a negated class.  A gap of `outside` whose ends are in reverse order
contributes its two ends. -/
def complement (set : CodeSet) : CodeSet :=
  { ranges := (set.outside.map fun (a, b) => (min a b, max a b)).toArray }

/-- The pairwise intersections of two lists of sorted ranges. -/
def overlaps : List (Nat × Nat) → List (Nat × Nat) → List (Nat × Nat)
  | (a, b) :: xs, (c, d) :: ys =>
    let others := if b < d then overlaps xs ((c, d) :: ys) else overlaps ((a, b) :: xs) ys
    if max a c ≤ min b d then (max a c, min b d) :: others else others
  | _, _ => []
  termination_by xs ys => xs.length + ys.length

def intersection (a b : CodeSet) : CodeSet :=
  { ranges := (overlaps a.ranges.toList b.ranges.toList).toArray }

def difference (a b : CodeSet) : CodeSet :=
  { ranges := (overlaps a.ranges.toList (b.outside.filter fun (c, d) => c ≤ d)).toArray }

def symmetricDifference (a b : CodeSet) : CodeSet :=
  (a.union b).difference (a.intersection b)

end CodeSet

end ClassAudit.Unicode
