import ClassAudit.Text.Ordered

/-!
# Partitions

A partition of the numbers below `n` into disjoint sets, grown by joining two sets at a time.
Every number points to another of its set or to itself; one that points to itself is the *root*
of its set. Sets are joined by rank, and looking a root up shortens the path that was followed.

## Shape of a lookup

Pointers are followed at most as often as there are numbers.  Ranks rise along pointers, so the
bound is never what ends the search.
-/

namespace ClassAudit

/-- A union-find structure on the numbers below `parent.size`. -/
structure Partition where
  /-- The parent of each number; a root is its own parent. -/
  parent : Array Nat
  /-- For each root, a bound on the length of the paths to it. -/
  rank : Array UInt8
  deriving Repr

namespace Partition

/-- Every number below `size` in a set of its own. -/
def singletons (size : Nat) : Partition :=
  { parent := Array.ofFn fun i : Fin size => i.val
    rank := Array.replicate size 0 }

def size (partition : Partition) : Nat :=
  partition.parent.size

def parentOf (parent : Array Nat) (node : Nat) : Nat :=
  parent.getD node node

/-- Follows at most `bound` parents of `node`. -/
def rootWithin (parent : Array Nat) : Nat → Nat → Nat
  | 0, node => node
  | bound + 1, node =>
    if parentOf parent node = node then node
    else rootWithin parent bound (parentOf parent node)

/-- Path compression: makes `root` the parent of every number on the path from `node`. -/
def shorten (root : Nat) : Nat → Array Nat → Nat → Array Nat
  | 0, parent, _ => parent
  | bound + 1, parent, node =>
    if parentOf parent node = root then parent
    else shorten root bound (parent.setIfInBounds node root) (parentOf parent node)

/-- The root of the set of `node`. -/
def root (partition : Partition) (node : Nat) : Nat :=
  rootWithin partition.parent partition.size node

/-- `root`, and the partition after path compression. -/
def find (partition : Partition) (node : Nat) : Nat × Partition :=
  let root := partition.root node
  (root, { partition with parent := shorten root partition.size partition.parent node })

/-- Joins the sets of the roots `a` and `b`; the root of greater rank stays a root. -/
def link (partition : Partition) (a b : Nat) : Partition :=
  let rankA := partition.rank.getD a 0
  let rankB := partition.rank.getD b 0
  if rankA < rankB then { partition with parent := partition.parent.setIfInBounds a b }
  else if rankB < rankA then { partition with parent := partition.parent.setIfInBounds b a }
  else
    { parent := partition.parent.setIfInBounds b a
      rank := partition.rank.setIfInBounds a (rankA + 1) }

/-- Joins the sets of `a` and `b`. -/
def union (partition : Partition) (a b : Nat) : Partition :=
  let (rootA, partition) := partition.find a
  let (rootB, partition) := partition.find b
  if rootA = rootB then partition else partition.link rootA rootB

/-- `find`, iterated over a list. -/
def findAll (partition : Partition) : List Nat → List Nat × Partition
  | [] => ([], partition)
  | node :: rest =>
    let (root, partition) := partition.find node
    let (roots, partition) := partition.findAll rest
    (root :: roots, partition)

/-- The number of sets, and the partition after path compression. -/
def count (partition : Partition) : Nat × Partition :=
  let (roots, partition) := partition.findAll (List.range partition.size)
  ((Text.distinct roots).length, partition)

end Partition

end ClassAudit
