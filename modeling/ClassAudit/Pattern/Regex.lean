import ClassAudit.Unicode.Property

/-!
# Regular expressions

A regular expression says which stretches of a text it matches.  `ends` follows a set of positions
of the text through an expression to the set of positions where a match can end, so a search is
one walk over the expression and no choice is ever taken back.

## Shape of a set of positions

A text of `n` characters has `n + 1` positions.  A set of them is a list of truth values, one per
position, so that stepping over a character is a shift by one, and testing what stands before and
after each position is a `zipWith`.

## Shape of an expression

Expressions are built in a plain form.  Sequences and choices lean to the right, and literal text
stands in one piece.  A choice between single characters is a set, and what all branches begin with
stands before the choice.
-/

namespace ClassAudit

open Unicode (CodeSet)

/-- The conditions of `\B`, `\b` and `\b{…}` on a position. -/
inductive WordEdge where
  | edge
  | noEdge
  | start
  | stop
  /-- `\b{start-half}`: no word character before. -/
  | startHalf
  /-- `\b{end-half}`: no word character after. -/
  | stopHalf
  deriving DecidableEq, Repr

/-- A condition on a position of the text. -/
inductive Assertion where
  | textStart
  | textEnd
  | lineStart
  | lineEnd
  /-- `^` where `\r` ends lines too. -/
  | crlfStart
  | crlfEnd
  | word (wide : Bool) (kind : WordEdge)
  deriving DecidableEq, Repr

inductive Regex where
  | empty
  /-- The given characters in sequence. -/
  | literal (text : List Char)
  /-- One character of `set`. -/
  | oneOf (set : CodeSet)
  | assert (condition : Assertion)
  | seq (first second : Regex)
  | alt (first second : Regex)
  /-- `body` at least `low` and at most `high` times, where `none` is no limit.  A `greedy`
  repetition tries more rounds first. -/
  | rep (body : Regex) (low : Nat) (high : Option Nat) (greedy : Bool)
  /-- A capturing group. -/
  | group (index : Nat) (body : Regex)
  deriving DecidableEq, Repr

namespace Assertion

/-- The characters of `\w`, by Unicode if `wide` and otherwise in ASCII. -/
def isWordChar (wide : Bool) (c : Char) : Bool :=
  if wide then Unicode.isWord c else c.isAlphanum || c = '_'

/-- The condition holds between the characters `before` and `after`, which are `none` at the ends of
the text. -/
def holds (condition : Assertion) (before after : Option Char) : Bool :=
  match condition with
  | .textStart => before.isNone
  | .textEnd => after.isNone
  | .lineStart => before.isNone || before = some '\n'
  | .lineEnd => after.isNone || after = some '\n'
  | .crlfStart =>
    before.isNone || before = some '\n' || (before = some '\r' && after ≠ some '\n')
  | .crlfEnd =>
    after.isNone || after = some '\r' || (after = some '\n' && before ≠ some '\r')
  | .word wide kind =>
    let left := before.any (isWordChar wide)
    let right := after.any (isWordChar wide)
    match kind with
    | .edge => left != right
    | .noEdge => left == right
    | .start => !left && right
    | .stop => left && !right
    | .startHalf => !left
    | .stopHalf => !right

end Assertion

namespace Regex

/-! ## Matching -/

/-- A set of positions of a text, with one entry per position. -/
abbrev Positions := List Bool

/-- The characters before and after each position of `text`. -/
def surroundings (text : List Char) : List (Option Char × Option Char) :=
  List.zip (none :: text.map some) (text.map some ++ [none])

def union (a b : Positions) : Positions :=
  List.zipWith (· || ·) a b

/-- The positions behind a character that satisfies `test` at a position in `starts`. -/
def advance (text : List Char) (test : Char → Bool) (starts : Positions) : Positions :=
  false :: List.zipWith (fun here c => here && test c) starts text

/-- Iterates `step` at most `n` times, up to a fixed point. -/
def settle (step : Positions → Positions) : Nat → Positions → Positions
  | 0, at_ => at_
  | n + 1, at_ =>
    let next := step at_
    if next = at_ then at_ else settle step n next

/-- The positions at which a match of the expression from a position in `starts` may end. -/
def ends (text : List Char) : Regex → Positions → Positions
  | .empty, starts => starts
  | .literal chars, starts => chars.foldl (fun at_ c => advance text (· = c) at_) starts
  | .oneOf set, starts => advance text (fun c => set.contains c.toNat) starts
  | .assert condition, starts =>
    List.zipWith (fun here around => here && condition.holds around.1 around.2) starts
      (surroundings text)
  | .seq first second, starts => ends text second (ends text first starts)
  | .alt first second, starts => union (ends text first starts) (ends text second starts)
  | .rep body low high _, starts =>
    let reached := settle (ends text body) low starts
    let widen := fun at_ => union at_ (ends text body at_)
    match high with
    | some high => settle widen (high - low) reached
    | none => settle widen starts.length reached
  | .group _ body, starts => ends text body starts

/-- The expression matches somewhere in `text`. -/
def isMatch (regex : Regex) (text : String) : Bool :=
  (ends text.toList regex (List.replicate (text.toList.length + 1) true)).any id

/-! ## Lengths -/

/-- Every match of the expression is empty. -/
def isWidthless : Regex → Bool
  | .empty | .assert _ => true
  | .literal _ | .oneOf _ => false
  | .seq first second | .alt first second => first.isWidthless && second.isWidthless
  | .rep body _ high _ => high.isSome && body.isWidthless
  | .group _ body => body.isWidthless

/-- The least length of a match in bytes; `none` if a part of the expression matches nothing. -/
def leastLength? : Regex → Option Nat
  | .empty | .assert _ => some 0
  | .literal text => some (String.ofList text).utf8ByteSize
  | .oneOf set => set.ranges[0]?.map fun range => (Char.ofNat range.1).utf8Size
  | .seq first second => do return (← first.leastLength?) + (← second.leastLength?)
  | .alt first second => do return min (← first.leastLength?) (← second.leastLength?)
  | .rep body low _ _ => body.leastLength?.map (· * low)
  | .group _ body => body.leastLength?

/-- Every match starts at the start of the text, as far as the structure shows. -/
def isAnchoredStart : Regex → Bool
  | .assert condition => condition = .textStart
  | .seq first second =>
    first.isAnchoredStart || (first.isWidthless && second.isAnchoredStart)
  | .alt first second => first.isAnchoredStart && second.isAnchoredStart
  | .rep body low _ _ => 0 < low && body.isAnchoredStart
  | .group _ body => body.isAnchoredStart
  | .empty | .literal _ | .oneOf _ => false

/-- Every match ends at the end of the text, as far as the structure shows. -/
def isAnchoredEnd : Regex → Bool
  | .assert condition => condition = .textEnd
  | .seq first second =>
    second.isAnchoredEnd || (second.isWidthless && first.isAnchoredEnd)
  | .alt first second => first.isAnchoredEnd && second.isAnchoredEnd
  | .rep body low _ _ => 0 < low && body.isAnchoredEnd
  | .group _ body => body.isAnchoredEnd
  | .empty | .literal _ | .oneOf _ => false

/-! ## Plain forms -/

/-- `oneOf set`, or a `literal` if the set has one member. -/
def ofSet (set : CodeSet) : Regex :=
  match set.only? with
  | some code => .literal [Char.ofNat code]
  | none => .oneOf set

/-- The factors of nested `seq`s. -/
def parts : Regex → List Regex
  | .empty => []
  | .seq first second => first.parts ++ second.parts
  | regex => [regex]

/-- Prepends a part; adjacent `literal`s are merged. -/
def consPart : Regex → List Regex → List Regex
  | .literal text, .literal more :: rest => .literal (text ++ more) :: rest
  | part, rest => part :: rest

/-- The `seq` of parts that are no `seq` themselves. -/
def ofParts : List Regex → Regex
  | [] => .empty
  | [part] => part
  | part :: rest => .seq part (ofParts rest)

/-- The concatenation of expressions in normal form. -/
def sequence (regexes : List Regex) : Regex :=
  ofParts ((regexes.flatMap parts).foldr consPart [])

/-- The branches of nested `alt`s. -/
def branches : Regex → List Regex
  | .alt first second => first.branches ++ second.branches
  | regex => [regex]

/-- The `alt` of branches that are no `alt` themselves. -/
def ofBranches : List Regex → Regex
  | [] => .oneOf CodeSet.empty
  | [branch] => branch
  | branch :: rest => .alt branch (ofBranches rest)

/-- The code of a `literal` of one character. -/
def charCode? : Regex → Option Nat
  | .literal [c] => some c.toNat
  | _ => none

/-- The set of a `oneOf`. -/
def set? : Regex → Option CodeSet
  | .oneOf set => some set
  | _ => none

/-- The `alt` of `branches`, which is one class if all of them are single characters or all of them
are classes. -/
def merge (branches : List Regex) : Regex :=
  match branches.mapM charCode?, branches.mapM set? with
  | some codes, _ => ofSet (CodeSet.ofRanges (codes.map fun code => (code, code)))
  | _, some sets => ofSet (CodeSet.unionAll sets)
  | _, _ => ofBranches branches

/-- The longest common prefix. -/
def commonParts : List Regex → List Regex → List Regex
  | a :: as, b :: bs => if a = b then a :: commonParts as bs else []
  | _, _ => []

/-- The `parts` of a `seq`. -/
def manyParts? (regex : Regex) : Option (List Regex) :=
  match regex with
  | .seq _ _ => some regex.parts
  | _ => none

/-- The common prefix of all branches, if each of them is a `seq`. -/
def sharedParts (branches : List Regex) : List Regex :=
  match branches.mapM manyParts? with
  | some (first :: others) => others.foldl commonParts first
  | _ => []

/-- The alternation of expressions in normal form, with `sharedParts` factored out. -/
def choice (regexes : List Regex) : Regex :=
  let all := regexes.flatMap branches
  let shared := sharedParts all
  match all with
  | [one] => one
  | _ =>
    if shared.isEmpty then merge all
    else
      let rests := all.map fun branch => sequence (branch.parts.drop shared.length)
      sequence (shared ++ [merge (rests.flatMap branches)])

/-- The repetition of `body` in normal form.  An `isWidthless` body is repeated at most once. -/
def repeated (body : Regex) (low : Nat) (high : Option Nat) (greedy : Bool) : Regex :=
  let low := if body.isWidthless then min low 1 else low
  let high := if body.isWidthless then some (min (high.getD 1) 1) else high
  if high = some 0 then .empty
  else if low = 1 ∧ high = some 1 then body
  else .rep body low high greedy

end Regex

end ClassAudit
