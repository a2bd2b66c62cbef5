import ClassAudit.Pattern.ByteRange
import ClassAudit.Pattern.Regex
import Std.Data.HashMap

/-!
# The size of automata

A pattern may only ask for so much room.  It is counted for two automata over the bytes of a text:
one that reads the text forward and marks the groups, and one that reads it backward.  Nothing is
built here; an automaton is followed state by state, and what it takes is added up.

## Shape of the count

A state takes 32 bytes.  A state that steps over one of several ranges of bytes takes 8 more for
each of them, and a state with several ways on takes 4 more for each way.  `emit` adds the part of
an automaton that belongs to an expression; repetitions are written out.

Sets of characters become trees of byte ranges in which equal parts are shared.  The table of what
can be shared has a fixed number of slots, and a later part takes the slot of an earlier one, so
what is shared depends on the numbers of the states.
-/

namespace ClassAudit.Automaton

open Pattern (ByteRange byteSequences encoding)
open Unicode (CodeSet)

/-- The size of a Thompson automaton, as far as its memory depends on it. -/
structure Size where
  states : Nat
  /-- The transitions of sparse states. -/
  steps : Nat
  /-- The alternatives of union states. -/
  ways : Nat
  deriving Repr

namespace Size

/-- The memory of an automaton in bytes. -/
def bytes (size : Size) : Nat :=
  32 * size.states + 8 * size.steps + 4 * size.ways

/-- Adds `states` states. -/
def grow (size : Size) (states : Nat) : Size :=
  { size with states := size.states + states }

/-- Adds `ways` alternatives. -/
def offer (size : Size) (ways : Nat) : Size :=
  { size with ways := size.ways + ways }

def add (a b : Size) : Size :=
  { states := a.states + b.states, steps := a.steps + b.steps, ways := a.ways + b.ways }

end Size

/-- The limit for each automaton, 10 MiB. -/
def maxBytes : Nat := 10 * 1024 * 1024

/-! ## Sets of characters -/

/-- The size of the automaton so far, with a bounded cache of its states. -/
structure Sharing where
  size : Size
  /-- The key and the number of the state in each slot of the cache. -/
  slots : Std.HashMap Nat (List Nat × Nat)

/-- The FNV-1a hash of the cache. -/
def mixed (numbers : List Nat) : UInt64 :=
  numbers.foldl (fun mix n => (mix ^^^ n.toUInt64) * 1099511628211) 14695981039346656037

/-- The number of the state with the given key, from the cache or new with `steps` transitions. -/
def Sharing.state (sharing : Sharing) (slotCount steps : Nat) (key : List Nat) : Nat × Sharing :=
  let slot := (mixed key).toNat % slotCount
  let number := sharing.size.states
  let fresh : Sharing :=
    { size := { sharing.size.grow 1 with steps := sharing.size.steps + steps }
      slots := sharing.slots.insert slot (key, number) }
  match sharing.slots[slot]? with
  | some (known, shared) => if known = key then (shared, sharing) else (number, fresh)
  | none => (number, fresh)

/-- The number of slots of the cache for forward UTF-8 tries. -/
def forwardSlots : Nat := 10000

/-- The number of slots of the cache for reverse suffix sharing. -/
def backwardSlots : Nat := 1000

/-- Adds the trie of sorted sequences of byte ranges, which all lead to `target`, and returns the
number of its root.  `depth` is at least their length. -/
def tree (target : Nat) : (depth : Nat) → List (List ByteRange) → Sharing → Nat × Sharing
  | 0, _, sharing => (target, sharing)
  | depth + 1, sequences, sharing =>
    if sequences.all List.isEmpty then (target, sharing)
    else
      let kin := sequences.splitBy fun a b => a.head? = b.head?
      let (key, sharing) := kin.foldl (fun (key, sharing) alike =>
        let (next, sharing) := tree target depth (alike.map List.tail) sharing
        let (low, high) := (alike.head?.bind List.head?).getD (0, 0)
        (key ++ [low, high, next], sharing)) ([], sharing)
      sharing.state forwardSlots kin.length key

/-- Adds one sequence of byte ranges in reverse, as a chain of states to `target`. -/
def chain (target : Nat) (sharing : Sharing) (sequence : List ByteRange) : Sharing :=
  let (_, sharing) := sequence.foldl (fun (next, sharing) (low, high) =>
    sharing.state backwardSlots 0 [next, low, high]) (target, sharing)
  { sharing with size := sharing.size.offer 1 }

/-- Adds a character class, read backwards if `back` is set. -/
def addSet (back : Bool) (set : CodeSet) (size : Size) : Size :=
  if set.isBelow 0x80 then { size.grow 2 with steps := size.steps + set.ranges.size }
  else
    let sequences := set.ranges.toList.flatMap fun (low, high) => byteSequences low high
    if back then
      (sequences.foldl (chain (size.states + 1)) { size := size.grow 2, slots := {} }).size
    else (tree size.states 5 sequences { size := size.grow 1, slots := {} }).2.size

/-! ## Choices between words -/

/-- A node of a trie of literals: first bytes with the rests that follow them.  A literal that ends
here starts a new chunk; `closed` are the chunks before the `active` one. -/
structure WordNode where
  closed : List (List (Nat × List (List Nat)))
  active : List (Nat × List (List Nat))

/-- Adds `rest` to those that follow `byte`. -/
def follow (byte : Nat) (rest : List Nat) :
    List (Nat × List (List Nat)) → List (Nat × List (List Nat))
  | [] => [(byte, [rest])]
  | (b, rests) :: others =>
    if b = byte then (b, rests ++ [rest]) :: others else (b, rests) :: follow byte rest others

/-- Adds a literal to the node.  A literal that ends here is dropped if nothing can follow the one
that ended here before. -/
def WordNode.add (node : WordNode) (word : List Nat) : WordNode :=
  match word with
  | byte :: rest => { node with active := follow byte rest node.active }
  | [] =>
    if node.active.isEmpty && !node.closed.isEmpty && node.closed.all List.isEmpty then node
    else { closed := node.closed ++ [node.active], active := [] }

/-- The size of a trie of literals, not all of them empty.  `depth` is at least their length. -/
def wordTree : (depth : Nat) → List (List Nat) → Size
  | 0, _ => { states := 0, steps := 0, ways := 0 }
  | depth + 1, words =>
    let node := words.foldl WordNode.add { closed := [], active := [] }
    let chunks := node.closed ++ [node.active]
    let filled := chunks.filter fun chunk => !chunk.isEmpty
    let here : Size :=
      { states := 1 + filled.length
        steps := ((filled.map List.length).filter (1 < ·)).sum
        ways := filled.length + (chunks.length - 1) }
    filled.flatten.foldl (fun size (_, rests) =>
      if rests.all List.isEmpty then size else size.add (wordTree depth rests)) here

/-- The bytes of a `literal`. -/
def word? : Regex → Option (List Nat)
  | .literal text => some (text.flatMap fun c => encoding c.toNat)
  | _ => none

/-- The literals of an alternation of literals. -/
def words? (regex : Regex) : Option (List (List Nat)) :=
  regex.branches.mapM word?

/-- Adds the trie of an alternation of literals. -/
def addWords (back : Bool) (words : List (List Nat)) (size : Size) : Size :=
  let words := if back then words.map List.reverse else words
  let depth := (words.map List.length).foldl max 0 + 1
  (size.grow 1).add (wordTree depth words)

/-! ## Expressions -/

/-- The size of the automaton up to the end of a subexpression. -/
structure Draft where
  size : Size
  /-- The end of the subexpression is a union state. -/
  isOpen : Bool

namespace Draft

/-- The size after the end of the subexpression is connected to the next state. -/
def link (draft : Draft) : Size :=
  if draft.isOpen then draft.size.offer 1 else draft.size

end Draft

/-- Iterates `step` at most `n` times, as long as the size is within `maxBytes`. -/
def whileRoom (step : Draft → Draft) : Nat → Draft → Draft
  | 0, draft => draft
  | n + 1, draft =>
    if maxBytes < draft.size.bytes then draft else whileRoom step n (step draft)

/-- Adds `part` `n` times in sequence, at least once. -/
def inRow (part : Size → Draft) (n : Nat) (size : Size) : Draft :=
  whileRoom (fun draft => part draft.link) (n - 1) (part size)

/-- Adds `part` as in `x?`. -/
def optional (part : Size → Draft) (size : Size) : Draft :=
  let draft := part (size.grow 1)
  { size := (draft.link.grow 1).offer 2, isOpen := false }

/-- Adds `part` as in `x*`.  If `takesBytes`, which is that `part` matches no empty text, one union
state suffices. -/
def star (part : Size → Draft) (takesBytes : Bool) (size : Size) : Draft :=
  if takesBytes then { size := (part (size.grow 1)).link.offer 1, isOpen := true }
  else { size := ((part size).link.grow 3).offer 4, isOpen := false }

/-- Adds `part` as in `x{low,high}`. -/
def between (part : Size → Draft) (low high : Nat) (size : Size) : Draft :=
  let first : Draft :=
    if low = 0 then { size := size.grow 1, isOpen := false } else inRow part low size
  let more (draft : Draft) : Draft :=
    let next := part (draft.link.grow 1)
    { next with size := next.size.offer 2 }
  let last := whileRoom more (high - low) { first with size := first.size.grow 1 }
  { size := last.link, isOpen := false }

/-- Adds `part` as in `x{low,high}`, where `high` may be missing. -/
def repetition (part : Size → Draft) (takesBytes : Bool) (low : Nat) (high : Option Nat)
    (size : Size) : Draft :=
  match high with
  | none =>
    if low = 0 then star part takesBytes size
    else { size := ((inRow part low size).link.grow 1).offer 1, isOpen := true }
  | some high =>
    if low = 0 ∧ high = 1 then optional part size
    else if low = high then inRow part low size
    else between part low high size

/-- Connects a branch of an alternation behind `before` others.  The second branch adds the two
states around the alternation. -/
def branch (before : Nat) (draft : Draft) : Size :=
  let size := draft.link.offer 1
  if before = 1 then size.grow 2 else size

def isChoice : Regex → Bool
  | .alt _ _ => true
  | _ => false

/-- Adds the states of an expression.  `before` is the number of branches in front of an
alternation. -/
def emit (back : Bool) : Regex → (before : Nat) → Size → Draft
  | .empty, _, size => { size := size.grow 1, isOpen := false }
  | .assert _, _, size => { size := size.grow 1, isOpen := false }
  | .literal text, _, size =>
    { size := size.grow (String.ofList text).utf8ByteSize, isOpen := false }
  | .oneOf set, _, size => { size := addSet back set size, isOpen := false }
  | .seq first second, _, size =>
    if back then emit back first 0 (emit back second 0 size).link
    else emit back second 0 (emit back first 0 size).link
  | .alt first second, before, size =>
    match if before = 0 then words? (.alt first second) else none with
    | some words => { size := addWords back words size, isOpen := false }
    | none =>
      let size := branch before (emit back first 0 size)
      if isChoice second then emit back second (before + 1) size
      else { size := branch (before + 1) (emit back second 0 size), isOpen := false }
  | .rep body low high _, _, size =>
    repetition (emit back body 0) (body.leastLength?.any (0 < ·)) low high size
  | .group _ body, _, size =>
    if back then emit back body 0 size
    else { size := (emit back body 0 (size.grow 1)).link.grow 1, isOpen := false }

/-- The states in front of the expression: an unanchored prefix unless `isAnchored`. -/
def entrance (isAnchored : Bool) : Size :=
  if isAnchored then { states := 1, steps := 0, ways := 0 }
  else { states := 3, steps := 1, ways := 2 }

/-- The size of the forward automaton. -/
def forwardSize (regex : Regex) : Size :=
  (emit false (.group 0 regex) 0 (entrance regex.isAnchoredStart)).link.grow 1

/-- The size of the reverse automaton. -/
def backwardSize (regex : Regex) : Size :=
  (emit true regex 0 (entrance regex.isAnchoredEnd)).link.grow 1

/-- Both automata are within `maxBytes`. -/
def fits (regex : Regex) : Bool :=
  (forwardSize regex).bytes ≤ maxBytes && (backwardSize regex).bytes ≤ maxBytes

end ClassAudit.Automaton
