/-!
# Line numbers

A table of line numbers says at which offsets the code of a source line starts.  An instruction
belongs to the last start at or before it.
-/

namespace ClassAudit

/-- Pairs of start offset and line number, sorted by offset. -/
structure LineTable where
  entries : List (Nat × Nat)
  deriving DecidableEq, Repr

namespace LineTable

/-- The table of `entries`.  Entries with the same offset keep their order. -/
def ofEntries (entries : List (Nat × Nat)) : LineTable :=
  { entries := entries.mergeSort (fun a b => decide (a.1 ≤ b.1)) }

/-- The line of the last entry whose start is at most `offset`. -/
def lineAt (table : LineTable) (offset : Nat) : Option Nat :=
  (table.entries.takeWhile fun entry => decide (entry.1 ≤ offset)).getLast?.map Prod.snd

end LineTable

end ClassAudit
