/-!
# Code trees

Prefix codes, read bit by bit from the root of a tree.  A code is given by the lengths of its
words: the words of one length are consecutive numbers in the order of the symbols, and shorter
words come first.

## Shape of the construction

Symbols are laid out from left to right, the shortest words first.  A tree takes the symbols that
fit below it and leaves the others; a code asks for too many words exactly when some are left
over.
-/

namespace ClassAudit

/-- A prefix code as a binary tree. -/
inductive CodeTree where
  /-- No code word starts with the path to here. -/
  | absent
  | leaf (symbol : Nat)
  | node (zero one : CodeTree)
  deriving DecidableEq, Repr

namespace CodeTree

/-- The greatest length of a code word in DEFLATE. -/
def maxLength : Nat := 15

/-- Assigns code words to a list of pairs of symbol and length, sorted by length, below a node at
`depth`, at most `levels` further down.  Returns the pairs that are left. -/
def grow : (levels depth : Nat) → List (Nat × Nat) → CodeTree × List (Nat × Nat)
  | _, _, [] => (.absent, [])
  | 0, depth, (symbol, length) :: rest =>
    if length = depth then (.leaf symbol, rest) else (.absent, (symbol, length) :: rest)
  | levels + 1, depth, (symbol, length) :: rest =>
    if length = depth then (.leaf symbol, rest)
    else
      let (zero, rest) := grow levels (depth + 1) ((symbol, length) :: rest)
      let (one, rest) := grow levels (depth + 1) rest
      (.node zero one, rest)

/-- Every path leads to a `leaf`. -/
def isFull : CodeTree → Bool
  | .absent => false
  | .leaf _ => true
  | .node zero one => zero.isFull && one.isFull

/-- The pairs of symbol and length with a positive length, sorted by length and then by symbol. -/
def placed (lengths : List Nat) : List (Nat × Nat) :=
  let symbols := (List.range lengths.length).zip lengths
  (List.range maxLength).flatMap fun n => symbols.filter (·.2 = n + 1)

/-- The canonical code with the given length per symbol, where 0 stands for no code word.  `none` if
the lengths oversubscribe the code. -/
def ofLengths? (lengths : List Nat) : Option CodeTree :=
  let (tree, left) := grow maxLength 0 (placed lengths)
  if left.isEmpty then some tree else none

/-- The code is complete, or no code word is longer than one bit. -/
def isUsable (tree : CodeTree) (lengths : List Nat) : Bool :=
  tree.isFull || lengths.all (· ≤ 1)

end CodeTree

end ClassAudit
