import ClassAudit.Pattern.Automaton
import ClassAudit.Text.Blank
import ClassAudit.Unicode.Folding
import ClassAudit.Unicode.Latest
import ClassAudit.Unicode.Query

/-!
# The text of a pattern

The grammar of patterns, read from left to right.  There is no look-around and no reference back
to a group; a repetition needs something to repeat; classes nest and may be combined with `&&`,
`--` and `~~`.  A pattern is refused when it leaves the grammar anywhere, nests too deeply, or
asks for more than an automaton has room for.

## Flags

A group of flags, `(?i)`, counts from where it stands to the end of the group around it.  The
flags in force are part of the scanner, so an expression is built with them at once: a letter
under `i` becomes the set of its case forms, a dot under `s` the set of all characters.

Without `u` classes are sets of bytes.  A set with a byte above 127 in it would match parts of
characters, so it is refused.
-/

namespace ClassAudit.Pattern

open Unicode (CodeSet)

/-- The flags of a pattern, such as `ignoreCase` for `i`. -/
structure Flags where
  ignoreCase : Bool := false
  multiLine : Bool := false
  dotAll : Bool := false
  wide : Bool := true
  crlf : Bool := false
  /-- The flag `x`: blanks and comments in the pattern are skipped. -/
  verbose : Bool := false
  /-- The flag `U`: repetitions are lazy unless followed by `?`. -/
  frugal : Bool := false

/-- The state of the parser. -/
structure Scanner where
  rest : List Char
  flags : Flags
  /-- The number of groups so far. -/
  groups : Nat
  /-- The names of the groups so far. -/
  names : List String

/-- A parser of a part of the pattern, which may fail. -/
abbrev Parse (α : Type) := StateT Scanner Option α

/-- A parsed expression with its nesting depth. -/
structure Node where
  regex : Regex
  depth : Nat
  /-- A repetition operator may follow. -/
  repeatable : Bool

/-- A parsed character class with its nesting depth. -/
structure SetNode where
  chars : CodeSet
  depth : Nat

/-- The meaning of an escape or a plain character. -/
inductive Piece where
  /-- A character; `asByte` if it is written `\xHH`. -/
  | char (c : Char) (asByte : Bool)
  | set (chars : CodeSet)
  | assert (condition : Assertion)

def refuse {α : Type} : Parse α := fun _ => none

/-! ## The scanner -/

def peek : Parse (Option Char) := do
  return (← get).rest.head?

def peekSecond : Parse (Option Char) := do
  return (← get).rest[1]?

/-- Drops `n` characters. -/
def advance (n : Nat) : Parse Unit :=
  modify fun s => { s with rest := s.rest.drop n }

/-- The text behind blanks and comments, where `comment` says whether it starts inside a comment. -/
def pastSpace : (comment : Bool) → List Char → List Char
  | _, [] => []
  | true, c :: rest => pastSpace (c ≠ '\n') rest
  | false, c :: rest =>
    if Text.isBlank c then pastSpace false rest
    else if c = '#' then pastSpace true rest
    else c :: rest

/-- Skips blanks and comments if `verbose` is set. -/
def space : Parse Unit :=
  modify fun s => if s.flags.verbose then { s with rest := pastSpace false s.rest } else s

/-- Drops one character and then `space`. -/
def bump : Parse Unit := do
  advance 1
  space

/-- The next character; fails at the end. -/
def need : Parse Char := do
  match (← peek) with
  | some c => return c
  | none => refuse

/-- Drops `text` if it comes next, and returns whether it did. -/
def accept (text : String) : Parse Bool := do
  if text.toList.isPrefixOf (← get).rest then
    advance text.toList.length
    return true
  else return false

def flags : Parse Flags := do
  return (← get).flags

def setFlags (flags : Flags) : Parse Unit :=
  modify fun s => { s with flags }

/-! ## Sets of characters -/

/-- The ASCII letter in the other case. -/
def otherCase (c : Char) : Char :=
  if c.isUpper then c.toLower else c.toUpper

/-- The ASCII letters whose `otherCase` is in `set`. -/
def otherCases (set : CodeSet) : CodeSet :=
  CodeSet.ofRanges <| (List.range 128).filterMap fun code =>
    let c := Char.ofNat code
    if c.isAlpha && set.contains (otherCase c).toNat then some (code, code) else none

/-- The closure of `set` under case folding, by Unicode if `wide` and otherwise in ASCII. -/
def foldCase (wide : Bool) (set : CodeSet) : CodeSet :=
  if wide then Unicode.foldSet set else set.union (otherCases set)

/-- Applies `ignoreCase` and then negation.  Without `wide` the result must be ASCII. -/
def closeSet (negated : Bool) (set : CodeSet) : Parse CodeSet := do
  let f ← flags
  let set := if f.ignoreCase then foldCase f.wide set else set
  let set := if negated then set.complement else set
  if !f.wide && !set.isBelow 128 then refuse else return set

def asciiSet (ranges : List (Char × Char)) : CodeSet :=
  CodeSet.ofRanges (ranges.map fun (low, high) => (low.toNat, high.toNat))

/-- The class `[:name:]`. -/
def asciiClass? (name : String) : Option CodeSet :=
  match name with
  | "alnum" => some (asciiSet [('0', '9'), ('A', 'Z'), ('a', 'z')])
  | "alpha" => some (asciiSet [('A', 'Z'), ('a', 'z')])
  | "ascii" => some (asciiSet [('\x00', '\x7f')])
  | "blank" => some (asciiSet [('\t', '\t'), (' ', ' ')])
  | "cntrl" => some (asciiSet [('\x00', '\x1f'), ('\x7f', '\x7f')])
  | "digit" => some (asciiSet [('0', '9')])
  | "graph" => some (asciiSet [('!', '~')])
  | "lower" => some (asciiSet [('a', 'z')])
  | "print" => some (asciiSet [(' ', '~')])
  | "punct" => some (asciiSet [('!', '/'), (':', '@'), ('[', '\x60'), ('\x7b', '~')])
  | "space" => some (asciiSet [('\t', '\r'), (' ', ' ')])
  | "upper" => some (asciiSet [('A', 'Z')])
  | "word" => some (asciiSet [('0', '9'), ('A', 'Z'), ('_', '_'), ('a', 'z')])
  | "xdigit" => some (asciiSet [('0', '9'), ('A', 'F'), ('a', 'f')])
  | _ => none

/-- The classes `\d`, `\s` and `\w`, by Unicode if `wide` and otherwise in ASCII. -/
def letterClass (wide : Bool) (letter : Char) : CodeSet :=
  if wide then
    match letter with
    | 'd' => Unicode.category "nd"
    | 's' => Unicode.property "whitespace"
    | _ => Unicode.wordCodes
  else
    let name := match letter with
      | 'd' => "digit"
      | 's' => "space"
      | _ => "word"
    (asciiClass? name).getD CodeSet.empty

/-! ## Escapes -/

def hexDigit? (c : Char) : Option Nat :=
  if c.isDigit then some (c.toNat - 48)
  else if 'a' ≤ c && c ≤ 'f' then some (c.toNat - 87)
  else if 'A' ≤ c && c ≤ 'F' then some (c.toNat - 55)
  else none

/-- The character with the given code; fails for surrogates and beyond Unicode. -/
def charOfCode (code : Nat) : Parse Char :=
  if code < 0xD800 ∨ (0xE000 ≤ code ∧ code < 0x110000) then return Char.ofNat code else refuse

/-- Reads exactly `n` hexadecimal digits, where `code` is the value so far. -/
def hexDigits : (n code : Nat) → Parse Nat
  | 0, code => return code
  | n + 1, code => do
    match hexDigit? (← need) with
    | some d =>
      bump
      hexDigits n (code * 16 + d)
    | none => refuse

/-- Reads hexadecimal digits up to a closing brace.  The length of the rest is a sufficient `bound`.
-/
def hexBraced : (bound : Nat) → (digits code : Nat) → Parse Nat
  | 0, _, _ => refuse
  | bound + 1, digits, code => do
    let c ← need
    if c = '\x7d' then
      bump
      if digits = 0 then refuse else return code
    else match hexDigit? c with
      | some d =>
        bump
        hexBraced bound (digits + 1) (code * 16 + d)
      | none => refuse

/-- The escapes `\xHH`, `\uHHHH`, `\UHHHHHHHH`, and those with any number of digits in braces. -/
def codeEscape (letter : Char) : Parse Piece := do
  bump
  if (← need) = '\x7b' then
    bump
    let code ← hexBraced ((← get).rest.length + 1) 0 0
    return .char (← charOfCode code) false
  else
    let width := if letter = 'x' then 2 else if letter = 'u' then 4 else 8
    let code ← hexDigits width 0
    return .char (← charOfCode code) (letter = 'x')

/-- Reads up to a closing brace.  The length of the rest is a sufficient `bound`. -/
def bracedName : (bound : Nat) → Parse (List Char)
  | 0 => refuse
  | bound + 1 => do
    let c ← need
    if c = '\x7d' then
      advance 1
      return []
    else
      bump
      return c :: (← bracedName bound)

/-- Splits a text at the first occurrence of `mark`. -/
def splitAt? (mark : List Char) : List Char → Option (List Char × List Char)
  | [] => none
  | c :: rest =>
    if mark.isPrefixOf (c :: rest) then some ([], (c :: rest).drop mark.length)
    else (splitAt? mark rest).map fun (before, after) => (c :: before, after)

/-- The class of the text between the braces of `\p`, and whether `!=` negates it. -/
def namedClass? (name : List Char) : Option (CodeSet × Bool) :=
  let valued (parts : List Char × List Char) :=
    Unicode.classValued? (String.ofList parts.1) (String.ofList parts.2)
  match splitAt? ['!', '='] name with
  | some parts => (valued parts).map fun set => (set, true)
  | none =>
    match (splitAt? [':'] name).or (splitAt? ['='] name) with
    | some parts => (valued parts).map fun set => (set, false)
    | none => (Unicode.classNamed? (String.ofList name)).map fun set => (set, false)

/-- The escapes `\pL` and `\p{Greek}`, negated for `\P`. -/
def propertyEscape (negated : Bool) : Parse Piece := do
  bump
  let c ← need
  let name ←
    if c = '\x7b' then
      bump
      bracedName ((← get).rest.length + 1)
    else if c = '\\' then refuse
    else
      bump
      pure [c]
  if !(← flags).wide then refuse
  match namedClass? name with
  | some (set, unequal) => return .set (← closeSet (negated != unequal) set)
  | none => refuse

/-- The characters with a special meaning in a pattern. -/
def isMeta (c : Char) : Bool :=
  "\\.+*?()|[]\x7b\x7d^$#&-~".toList.contains c

/-- The characters that stand for themselves behind a backslash. -/
def isEscapable (c : Char) : Bool :=
  isMeta c || (c.toNat < 128 && !c.isAlphanum && c ≠ '<' && c ≠ '>')

/-- Reads letters and hyphens. -/
def edgeName : (bound : Nat) → Parse (List Char)
  | 0 => return []
  | bound + 1 => do
    match (← peek) with
    | some c =>
      if c.isAlpha || c = '-' then
        bump
        return c :: (← edgeName bound)
      else return []
    | none => return []

/-- The condition of `\b`, which may be followed by a name as in `\b{start}`. -/
def wordEdge : Parse WordEdge := do
  if (← peek) ≠ some '\x7b' then return .edge
  let before ← get
  bump
  let c ← need
  if !(c.isAlpha || c = '-') then
    set before
    return .edge
  let name ← edgeName ((← get).rest.length)
  if (← need) ≠ '\x7d' then refuse
  advance 1
  match String.ofList name with
  | "start" => return .start
  | "end" => return .stop
  | "start-half" => return .startHalf
  | "end-half" => return .stopHalf
  | _ => refuse

/-- Reads an escape, from its backslash on. -/
def escape : Parse Piece := do
  advance 1
  let c ← need
  let wide := (← flags).wide
  if c.isDigit then refuse
  else if c = 'x' || c = 'u' || c = 'U' then codeEscape c
  else if c = 'p' || c = 'P' then propertyEscape (c = 'P')
  else
    advance 1
    if c = 'd' || c = 's' || c = 'w' then return .set (letterClass wide c)
    else if c = 'D' || c = 'S' || c = 'W' then
      return .set (← closeSet true (letterClass wide c.toLower))
    else if isEscapable c then return .char c false
    else match c with
      | 'a' => return .char '\x07' false
      | 'f' => return .char '\x0c' false
      | 't' => return .char '\t' false
      | 'n' => return .char '\n' false
      | 'r' => return .char '\r' false
      | 'v' => return .char '\x0b' false
      | 'A' => return .assert .textStart
      | 'z' => return .assert .textEnd
      | 'b' => return .assert (.word wide (← wordEdge))
      | 'B' => return .assert (.word wide .noEdge)
      | '<' => return .assert (.word wide .start)
      | '>' => return .assert (.word wide .stop)
      | _ => refuse

/-! ## Classes in brackets -/

/-- The operators `&&`, `--` and `~~` between parts of a class. -/
inductive SetOp where
  | both
  | without
  | either

def SetOp.apply (op : SetOp) (a b : CodeSet) : CodeSet :=
  match op with
  | .both => a.intersection b
  | .without => a.difference b
  | .either => a.symmetricDifference b

/-- The union of the items of a class. -/
def unite : List SetNode → SetNode
  | [] => { chars := CodeSet.empty, depth := 0 }
  | [one] => one
  | many =>
    { chars := CodeSet.unionAll (many.map SetNode.chars)
      depth := (many.map SetNode.depth).foldl max 0 + 1 }

/-- Applies the operator in `before` to its left side and `last`. -/
def joinSets (before : Option (SetNode × SetOp)) (last : SetNode) : Parse SetNode := do
  match before with
  | none => return last
  | some (first, op) =>
    let f ← flags
    let close := fun set => if f.ignoreCase then foldCase f.wide set else set
    return {
      chars := op.apply (close first.chars) (close last.chars)
      depth := max first.depth last.depth + 1 }

/-- Splits off a class such as `[:alpha:]` or `[:^alpha:]` at the front of the text. -/
def asciiName? (rest : List Char) : Option (CodeSet × Bool × List Char) :=
  match rest with
  | '[' :: ':' :: rest =>
    let negated := rest.head? = some '^'
    let rest := if negated then rest.drop 1 else rest
    let name := rest.takeWhile (· ≠ ':')
    match rest.dropWhile (· ≠ ':') with
    | ':' :: ']' :: after =>
      (asciiClass? (String.ofList name)).map fun set => (set, negated, after)
    | _ => none
  | _ => none

/-- Reads an item of a class: an escape or a plain character. -/
def classItem : Parse Piece := do
  let c ← need
  if c = '\\' then escape
  else
    advance 1
    return .char c false

/-- The character of an item at the end of a range.  Without `wide` it must be ASCII. -/
def itemChar (piece : Piece) : Parse Char := do
  match piece with
  | .char c _ => if !(← flags).wide && 128 ≤ c.toNat then refuse else return c
  | _ => refuse

/-- The set of an item that is no end of a range. -/
def itemSet (piece : Piece) : Parse CodeSet := do
  match piece with
  | .char _ _ => return CodeSet.single (← itemChar piece).toNat
  | .set chars => return chars
  | .assert _ => refuse

/-- The character behind the next one.  If `verbose` is set, blanks in between are skipped, and the
`#` of a comment too, but not its text. -/
def peekPastSpace : Parse (Option Char) := do
  let s ← get
  let rest := s.rest.drop 1
  if s.flags.verbose then
    let visible := rest.dropWhile Text.isBlank
    let visible :=
      if visible.head? = some '#' then (visible.drop 1).dropWhile Text.isBlank else visible
    return visible.head?
  else return rest.head?

/-- Reads an item or a range of a class. -/
def classRange : Parse CodeSet := do
  let first ← classItem
  space
  let c ← need
  let next ← peekPastSpace
  if c ≠ '-' || next = some ']' || next = some '-' then itemSet first
  else
    bump
    let last ← do
      let _ ← need
      classItem
    let low ← itemChar first
    let high ← itemChar last
    if high < low then refuse
    else return CodeSet.ofRanges [(low.toNat, high.toNat)]

/-- Reads the hyphens, or the `]`, at the start of a class, which stand for themselves. -/
def openingItems : (bound : Nat) → (items : List SetNode) → Parse (List SetNode)
  | 0, _ => refuse
  | bound + 1, items => do
    let c ← need
    if c = '-' then
      bump
      openingItems bound ({ chars := CodeSet.single '-'.toNat, depth := 0 } :: items)
    else if c = ']' && items.isEmpty then
      bump
      return [{ chars := CodeSet.single ']'.toNat, depth := 0 }]
    else return items

/-- Reads the items of a class up to its closing bracket.  `before` is the left side of the last
operator, and `items` are those behind it.  The length of the rest is a sufficient `bound`. -/
def classItems (bound : Nat) (before : Option (SetNode × SetOp)) (items : List SetNode) :
    Parse SetNode :=
  match bound with
  | 0 => refuse
  | bound + 1 => do
    space
    let c ← need
    let second ← peekSecond
    let operator (op : SetOp) : Parse SetNode := do
      advance 2
      let joined ← joinSets before (unite items)
      classItems bound (some (joined, op)) []
    if c = '[' then
      match asciiName? (← get).rest with
      | some (named, negated, after) =>
        modify fun s => { s with rest := after }
        let chars ← closeSet negated named
        classItems bound before ({ chars, depth := 0 } :: items)
      | none =>
        bump
        let negated := (← need) = '^'
        if negated then bump
        let opening ← openingItems ((← get).rest.length + 1) []
        let inner ← classItems bound none opening
        let chars ← closeSet negated inner.chars
        classItems bound before ({ chars, depth := inner.depth + 1 } :: items)
    else if c = ']' then
      advance 1
      joinSets before (unite items)
    else if c = '&' && second = some '&' then operator .both
    else if c = '-' && second = some '-' then operator .without
    else if c = '~' && second = some '~' then operator .either
    else
      let chars ← classRange
      classItems bound before ({ chars, depth := 0 } :: items)

/-- Reads a class, from its opening bracket on. -/
def bracketed : Parse SetNode := do
  bump
  let negated := (← need) = '^'
  if negated then bump
  let opening ← openingItems ((← get).rest.length + 1) []
  let inner ← classItems ((← get).rest.length + 1) none opening
  return { chars := ← closeSet negated inner.chars, depth := inner.depth + 1 }

/-! ## Groups and repetitions -/

/-- What a parenthesis opens. -/
inductive Opening where
  /-- `(?flags)`, for the rest of the enclosing group. -/
  | flags (flags : Flags)
  /-- A group with the flags inside it, and its index if it captures. -/
  | group (flags : Flags) (index : Option Nat)

/-- The flags with the one for `letter` set to `on`. -/
def Flags.switch (f : Flags) (letter : Char) (on : Bool) : Option Flags :=
  match letter with
  | 'i' => some { f with ignoreCase := on }
  | 'm' => some { f with multiLine := on }
  | 's' => some { f with dotAll := on }
  | 'u' => some { f with wide := on }
  | 'R' => some { f with crlf := on }
  | 'x' => some { f with verbose := on }
  | 'U' => some { f with frugal := on }
  | _ => none

/-- Reads flags up to `:` or `)`.  `seen` are the letters so far, with a hyphen among them if flags
are being unset. -/
def flagItems : (bound : Nat) → (seen : List Char) → Flags → Parse (List Char × Flags)
  | 0, _, _ => refuse
  | bound + 1, seen, f => do
    let c ← need
    if c = ':' || c = ')' then
      if seen.head? = some '-' then refuse else return (seen, f)
    else if seen.contains c then refuse
    else if c = '-' then
      advance 1
      flagItems bound (c :: seen) f
    else match f.switch c (!seen.contains '-') with
      | some f =>
        advance 1
        flagItems bound (c :: seen) f
      | none => refuse

/-- Reads the name of a group up to `>`. -/
def groupName : (bound : Nat) → (first : Bool) → Parse (List Char)
  | 0, _ => refuse
  | bound + 1, first => do
    let c ← need
    advance 1
    if c = '>' then
      if first then refuse else return []
    else if c = '_' || Unicode.isAlphabetic c
        || (!first && (c = '.' || c = '[' || c = ']' || Unicode.isAlphanumeric c)) then
      return c :: (← groupName bound false)
    else refuse

def nextGroup : Parse Nat := do
  modify fun s => { s with groups := s.groups + 1 }
  return (← get).groups

/-- Reads what an opening parenthesis opens. -/
def opening : Parse Opening := do
  advance 1
  space
  let rest := (← get).rest
  if ["?=", "?!", "?<=", "?<!"].any fun mark => mark.toList.isPrefixOf rest then refuse
  let f ← flags
  if (← accept "?P<") || (← accept "?<") then
    let name := String.ofList (← groupName ((← get).rest.length + 1) true)
    if (← get).names.contains name then refuse
    modify fun s => { s with names := name :: s.names }
    return .group f (some (← nextGroup))
  else if (← accept "?") then
    let (seen, inner) ← flagItems ((← get).rest.length + 1) [] f
    let c ← need
    advance 1
    if c = ')' then
      if seen.isEmpty then refuse else return .flags inner
    else return .group inner none
  else return .group f (some (← nextGroup))

/-- The sequence of `items`, which are in reverse order. -/
def joinItems : List Node → Node
  | [] => { regex := .empty, depth := 0, repeatable := false }
  | [one] => one
  | many =>
    { regex := Regex.sequence (many.reverse.map Node.regex)
      depth := (many.map Node.depth).foldl max 0 + 1
      repeatable := true }

/-- The alternation of branches, which are in reverse order. -/
def joinBranches : List Node → Node
  | [] => { regex := .empty, depth := 0, repeatable := false }
  | [one] => one
  | many =>
    { regex := Regex.choice (many.reverse.map Node.regex)
      depth := (many.map Node.depth).foldl max 0 + 1
      repeatable := true }

/-- Replaces the last item by its repetition. -/
def repeatLast (items : List Node) (low : Nat) (high : Option Nat) (greedy : Bool) :
    Parse (List Node) :=
  match items with
  | last :: others =>
    let regex := Regex.repeated last.regex low high greedy
    return { regex, depth := last.depth + 1, repeatable := true } :: others
  | [] => refuse

/-- Fails if no repetition may follow the items. -/
def needRepeatable (items : List Node) : Parse Unit :=
  if items.head?.any Node.repeatable then return () else refuse

/-- Reads an optional `?`, and returns whether the repetition is greedy. -/
def preference : Parse Bool := do
  let marked ← accept "?"
  return (marked == (← flags).frugal)

/-- Skips blanks, whether or not `verbose` is set. -/
def blanks : Parse Unit :=
  modify fun s => { s with rest := s.rest.dropWhile Text.isBlank }

/-- Reads decimal digits, where `value` is the value so far and `none` without digits. -/
def digits : (bound : Nat) → (value : Option Nat) → Parse (Option Nat)
  | 0, value => return value
  | bound + 1, value => do
    match (← peek) with
    | some c =>
      if c.isDigit then
        bump
        digits bound (some (value.getD 0 * 10 + (c.toNat - 48)))
      else return value
    | none => return value

/-- A decimal number below 2^32 with blanks around it; `none` without digits. -/
def decimal : Parse (Option Nat) := do
  blanks
  let value ← digits (← get).rest.length none
  blanks
  space
  if value.getD 0 < 4294967296 then return value else refuse

/-- Reads the bounds of `{low,high}`, from the opening brace on. -/
def counts : Parse (Nat × Option Nat) := do
  bump
  let _ ← need
  let low ← decimal
  let c ← need
  let range ←
    if c = ',' then do
      bump
      match low with
      | none => refuse
      | some low =>
        if (← need) = '\x7d' then pure (low, none)
        else match (← decimal) with
          | some high => pure (low, some high)
          | none => refuse
    else match low with
      | some low => pure (low, some low)
      | none => refuse
  if (← need) ≠ '\x7d' then refuse
  bump
  if range.2.any (· < range.1) then refuse else return range

/-! ## Whole patterns -/

/-- The expression for one character, under `ignoreCase` and `wide`. -/
def charRegex (c : Char) (asByte : Bool) : Parse Regex := do
  let f ← flags
  if f.wide then
    if f.ignoreCase then
      let forms := Unicode.caseForms c.toNat
      return Regex.ofSet (CodeSet.ofRanges (forms.map fun code => (code, code)))
    else return .literal [c]
  else if asByte && 128 ≤ c.toNat then refuse
  else if f.ignoreCase && c.isAlpha then
    return .oneOf (asciiSet [(c, c), (otherCase c, otherCase c)])
  else return .literal [c]

/-- The expression for `.`, under `dotAll` and `crlf`. -/
def dotRegex : Parse Regex := do
  let f ← flags
  if !f.wide then refuse
  else if f.dotAll then return .oneOf CodeSet.full
  else if f.crlf then return .oneOf (asciiSet [('\n', '\n'), ('\r', '\r')]).complement
  else return .oneOf (asciiSet [('\n', '\n')]).complement

/-- The expression for `^` and `$`, under `multiLine` and `crlf`. -/
def edgeRegex (atStart : Bool) : Parse Regex := do
  let f ← flags
  return .assert <|
    if !f.multiLine then if atStart then .textStart else .textEnd
    else if f.crlf then if atStart then .crlfStart else .crlfEnd
    else if atStart then .lineStart else .lineEnd

/-- Reads an escape, `.`, `^`, `$` or a plain character. -/
def primitive (c : Char) : Parse Regex := do
  if c = '\\' then
    match (← escape) with
    | .char c asByte => charRegex c asByte
    | .set chars => return Regex.ofSet chars
    | .assert condition => return .assert condition
  else
    advance 1
    if c = '.' then dotRegex
    else if c = '^' then edgeRegex true
    else if c = '$' then edgeRegex false
    else charRegex c false

/-- Reads branches up to a closing parenthesis or the end.  `branches` are those before the current
one and `items` the items of the current one, both in reverse order.  Every step drops a character,
so one more than the length of the rest is a sufficient `bound`. -/
def group : (bound : Nat) → (branches items : List Node) → Parse Node
  | 0, _, _ => refuse
  | bound + 1, branches, items => do
    space
    match (← peek) with
    | none => return joinBranches (joinItems items :: branches)
    | some ')' => return joinBranches (joinItems items :: branches)
    | some '|' =>
      advance 1
      group bound (joinItems items :: branches) []
    | some '(' =>
      let outer ← flags
      match (← opening) with
      | .flags inner =>
        setFlags inner
        group bound branches ({ regex := .empty, depth := 0, repeatable := false } :: items)
      | .group inner index =>
        setFlags inner
        let body ← group bound [] []
        if (← need) ≠ ')' then refuse
        setFlags outer
        advance 1
        let regex := match index with
          | some index => Regex.group index body.regex
          | none => body.regex
        group bound branches ({ regex, depth := body.depth + 1, repeatable := true } :: items)
    | some '[' =>
      let c ← bracketed
      let regex := Regex.ofSet c.chars
      group bound branches ({ regex, depth := c.depth, repeatable := true } :: items)
    | some '?' =>
      needRepeatable items
      advance 1
      group bound branches (← repeatLast items 0 (some 1) (← preference))
    | some '*' =>
      needRepeatable items
      advance 1
      group bound branches (← repeatLast items 0 none (← preference))
    | some '+' =>
      needRepeatable items
      advance 1
      group bound branches (← repeatLast items 1 none (← preference))
    | some '\x7b' =>
      needRepeatable items
      let (low, high) ← counts
      group bound branches (← repeatLast items low high (← preference))
    | some c =>
      let regex ← primitive c
      group bound branches ({ regex, depth := 0, repeatable := true } :: items)

/-- The greatest nesting depth of a pattern. -/
def maxDepth : Nat := 250

/-- The expression of `pattern`; `none` if it is invalid, nested too deeply or does not fit. -/
def parse? (pattern : String) : Option Regex :=
  let start : Scanner := { rest := pattern.toList, flags := {}, groups := 0, names := [] }
  match group (pattern.toList.length + 1) [] [] start with
  | some (node, { rest := [], .. }) =>
    if node.depth ≤ maxDepth && Automaton.fits node.regex then some node.regex else none
  | _ => none

end ClassAudit.Pattern
