import ClassAudit.Settings.Basic

/-!
# The settings file

Settings are written in TOML: one `key = value` to a line, where a value is an integer, a truth
value or an array of strings.  Tables, dates, fractions and other arrays are part of that format,
but no setting takes them, so a file that holds one is refused like a file with an unknown key or
with a key given twice.

## Strings

The format has four kinds of string.  In a basic string a backslash starts an escape, in a literal
string it stands for itself; either may go over several lines between three quotes, and then a line
break right behind the opening quotes does not count, and a backslash at the end of a line takes the
blanks and line breaks behind it away.  A line break inside a string is read as a line feed.
-/

namespace ClassAudit.Document

/-- The values of TOML that settings may have. -/
inductive Value where
  | integer (n : Int)
  | truth (b : Bool)
  | texts (values : List String)
  deriving DecidableEq, Repr

/-- A parser that reads a value off the front of the text, or fails. -/
abbrev Step (α : Type) := List Char → Option (α × List Char)

/-! ## Lines -/

def isBlank (c : Char) : Bool :=
  c = ' ' || c = '\t'

/-- A character of a comment: a tab or no control character. -/
def isPrintable (c : Char) : Bool :=
  c = '\t' || (0x20 ≤ c.toNat && c.toNat ≠ 0x7F)

/-- The text behind a line break. -/
def lineBreak? : List Char → Option (List Char)
  | '\n' :: rest => some rest
  | '\r' :: '\n' :: rest => some rest
  | _ => none

def skipBlanks (text : List Char) : List Char :=
  text.dropWhile isBlank

/-- The text behind blanks, an optional comment, and a line break or the end. -/
def endOfLine? (text : List Char) : Option (List Char) :=
  let text := skipBlanks text
  let text := if text.head? = some '#' then text.dropWhile isPrintable else text
  if text.isEmpty then some [] else lineBreak? text

/-- The text behind blanks, comments and line breaks. -/
def skipLines (inComment : Bool) : List Char → Option (List Char)
  | [] => some []
  | '\n' :: rest => skipLines false rest
  | '\r' :: '\n' :: rest => skipLines false rest
  | c :: rest =>
    if inComment then if isPrintable c then skipLines true rest else none
    else if isBlank c then skipLines false rest
    else if c = '#' then skipLines true rest
    else some (c :: rest)

/-! ## Strings -/

/-- An unescaped character of a basic string. -/
def isBasicChar (c : Char) : Bool :=
  isPrintable c && c ≠ '"' && c ≠ '\\'

/-- A character of a literal string. -/
def isLiteralChar (c : Char) : Bool :=
  isPrintable c && c ≠ '\''

/-- The character with the given code, unless it is a surrogate or beyond Unicode. -/
def charOfCode? (code : Nat) : Option Char :=
  if code < 0xD800 ∨ (0xE000 ≤ code ∧ code < 0x110000) then some (Char.ofNat code) else none

/-- The character with the given hexadecimal digits. -/
def charOfDigits? (digits : List Char) : Option Char := do
  let values ← digits.mapM Pattern.hexDigit?
  charOfCode? (values.foldl (fun code d => code * 16 + d) 0)

/-- The character of an escape of one letter. -/
def shortEscape? : Char → Option Char
  | 'b' => some '\x08'
  | 't' => some '\t'
  | 'n' => some '\n'
  | 'f' => some '\x0c'
  | 'r' => some '\r'
  | '"' => some '"'
  | '\\' => some '\\'
  | _ => none

/-- Prepends a character to the text that `tail` read. -/
def push (c : Option Char) (tail : Option (List Char × List Char)) :
    Option (List Char × List Char) :=
  match c, tail with
  | some c, some (text, rest) => some (c :: text, rest)
  | _, _ => none

/-- Reads a basic string behind its opening quote. -/
def basicBody : Step (List Char)
  | '"' :: rest => some ([], rest)
  | '\\' :: 'u' :: a :: b :: c :: d :: rest => push (charOfDigits? [a, b, c, d]) (basicBody rest)
  | '\\' :: 'U' :: a :: b :: c :: d :: e :: f :: g :: h :: rest =>
    push (charOfDigits? [a, b, c, d, e, f, g, h]) (basicBody rest)
  | '\\' :: c :: rest => push (shortEscape? c) (basicBody rest)
  | c :: rest => if isBasicChar c then push (some c) (basicBody rest) else none
  | [] => none

/-- Reads a literal string behind its opening quote. -/
def literalBody : Step (List Char)
  | '\'' :: rest => some ([], rest)
  | c :: rest => if isLiteralChar c then push (some c) (literalBody rest) else none
  | [] => none

/-- Only blanks are left on the line. -/
def breaksLine (text : List Char) : Bool :=
  (lineBreak? (skipBlanks text)).isSome

/-- Reads a multi-line basic string behind its opening quotes.  After a backslash at the end of a
line `trim` is set, up to the next character that is no blank or line break. -/
def basicLines (trim : Bool) : Step (List Char)
  | '"' :: '"' :: '"' :: '"' :: '"' :: rest => some (['"', '"'], rest)
  | '"' :: '"' :: '"' :: '"' :: rest => some (['"'], rest)
  | '"' :: '"' :: '"' :: rest => some ([], rest)
  | '\r' :: '\n' :: rest =>
    if trim then basicLines true rest else push (some '\n') (basicLines false rest)
  | '\n' :: rest => if trim then basicLines true rest else push (some '\n') (basicLines false rest)
  | '\\' :: 'u' :: a :: b :: c :: d :: rest =>
    push (charOfDigits? [a, b, c, d]) (basicLines false rest)
  | '\\' :: 'U' :: a :: b :: c :: d :: e :: f :: g :: h :: rest =>
    push (charOfDigits? [a, b, c, d, e, f, g, h]) (basicLines false rest)
  | '\\' :: c :: rest =>
    match shortEscape? c with
    | some c => push (some c) (basicLines false rest)
    | none => if breaksLine (c :: rest) then basicLines true (c :: rest) else none
  | c :: rest =>
    if trim && isBlank c then basicLines true rest
    else if isBasicChar c || c = '"' then push (some c) (basicLines false rest)
    else none
  | [] => none

/-- Reads a multi-line literal string behind its opening quotes. -/
def literalLines : Step (List Char)
  | '\'' :: '\'' :: '\'' :: '\'' :: '\'' :: rest => some (['\'', '\''], rest)
  | '\'' :: '\'' :: '\'' :: '\'' :: rest => some (['\''], rest)
  | '\'' :: '\'' :: '\'' :: rest => some ([], rest)
  | '\r' :: '\n' :: rest => push (some '\n') (literalLines rest)
  | '\n' :: rest => push (some '\n') (literalLines rest)
  | c :: rest => if isPrintable c then push (some c) (literalLines rest) else none
  | [] => none

/-- Drops a line break at the front. -/
def skipLineBreak (text : List Char) : List Char :=
  (lineBreak? text).getD text

/-- Reads a string on one line. -/
def lineString : Step (List Char)
  | '"' :: rest => basicBody rest
  | '\'' :: rest => literalBody rest
  | _ => none

/-- Reads a string of any of the four kinds. -/
def anyString : Step (List Char)
  | '"' :: '"' :: '"' :: rest => basicLines false (skipLineBreak rest)
  | '\'' :: '\'' :: '\'' :: rest => literalLines (skipLineBreak rest)
  | text => lineString text

/-! ## Values -/

/-- Reads digits with single underscores between them, where `value` is the value so far and `none`
at the start. -/
def digitRun (digit? : Char → Option Nat) (base : Nat) (value : Option Nat) : Step Nat
  | '_' :: c :: rest =>
    match value, digit? c with
    | some n, some d => digitRun digit? base (some (n * base + d)) rest
    | _, _ => none
  | c :: rest =>
    match digit? c with
    | some d => digitRun digit? base (some (value.getD 0 * base + d)) rest
    | none => value.map fun n => (n, c :: rest)
  | [] => value.map fun n => (n, [])

/-- The value of a digit in the given base. -/
def digitBelow? (base : Nat) (c : Char) : Option Nat :=
  (Pattern.hexDigit? c).filter (· < base)

/-- Reads a decimal number without leading zeros. -/
def decimal : Step Nat
  | '0' :: rest => some (0, rest)
  | text => digitRun (digitBelow? 10) 10 none text

/-- Reads an integer: signed decimal, or with `0x`, `0o` or `0b`. -/
def integer : Step Int
  | '0' :: 'x' :: rest => (digitRun (digitBelow? 16) 16 none rest).map fun (n, rest) => (n, rest)
  | '0' :: 'o' :: rest => (digitRun (digitBelow? 8) 8 none rest).map fun (n, rest) => (n, rest)
  | '0' :: 'b' :: rest => (digitRun (digitBelow? 2) 2 none rest).map fun (n, rest) => (n, rest)
  | '+' :: rest => (decimal rest).map fun (n, rest) => (n, rest)
  | '-' :: rest => (decimal rest).map fun (n, rest) => (-n, rest)
  | text => (decimal text).map fun (n, rest) => (n, rest)

/-- Reads the strings of an array behind `[` or `,`.  Every string takes a character, so the length
of the text is a sufficient `bound`. -/
def arrayItems : (bound : Nat) → Step (List String)
  | 0, _ => none
  | bound + 1, text => do
    let text ← skipLines false text
    if text.head? = some ']' then return ([], text.drop 1)
    let (item, rest) ← anyString text
    let rest ← skipLines false rest
    match rest with
    | ',' :: rest =>
      let (items, rest) ← arrayItems bound rest
      return (String.ofList item :: items, rest)
    | ']' :: rest => return ([String.ofList item], rest)
    | _ => none

/-- Reads a `Value`. -/
def value : Step Value
  | 't' :: 'r' :: 'u' :: 'e' :: rest => some (.truth true, rest)
  | 'f' :: 'a' :: 'l' :: 's' :: 'e' :: rest => some (.truth false, rest)
  | '[' :: rest => (arrayItems (rest.length + 1) rest).map fun (items, rest) => (.texts items, rest)
  | text => (integer text).map fun (n, rest) => (.integer n, rest)

/-! ## Documents -/

/-- A character of a bare key. -/
def isKeyChar (c : Char) : Bool :=
  c.isAlphanum || c = '_' || c = '-'

/-- Reads a bare key, or a key that is a `lineString`. -/
def key : Step String := fun text =>
  match lineString text with
  | some (name, rest) => some (String.ofList name, rest)
  | none =>
    let name := text.takeWhile isKeyChar
    if name.isEmpty then none else some (String.ofList name, text.dropWhile isKeyChar)

/-- Reads a key and its value, up to the end of the line. -/
def entry : Step (String × Value) := fun text => do
  let (name, rest) ← key text
  match skipBlanks rest with
  | '=' :: rest =>
    let (value, rest) ← value (skipBlanks rest)
    let rest ← endOfLine? rest
    return ((name, value), rest)
  | _ => none

/-- Reads the entries of a document.  Every entry takes a character, so one more than the length of
the text is a sufficient `bound`. -/
def entries : (bound : Nat) → List Char → Option (List (String × Value))
  | 0, _ => none
  | bound + 1, text => do
    match (← skipLines false text) with
    | [] => return []
    | text =>
      let (first, rest) ← entry text
      return first :: (← entries bound rest)

/-- Drops a byte order mark. -/
def skipMark (text : List Char) : List Char :=
  if text.head? = some (Char.ofNat 0xFEFF) then text.drop 1 else text

/-- The entries of a document. -/
def read? (text : String) : Option (List (String × Value)) :=
  let text := skipMark text.toList
  entries (text.length + 1) text

def keysDistinct : List (String × Value) → Bool
  | [] => true
  | (name, _) :: rest => rest.all (·.1 ≠ name) && keysDistinct rest

/-- The value of a limit, which is below 2^32. -/
def limitOf? (n : Int) : Option Nat :=
  if 0 ≤ n ∧ n < 4294967296 then some n.toNat else none

/-- Assigns an entry to its setting; `none` for an unknown key or a value of another kind. -/
def assign? (settings : Settings) (entry : String × Value) : Option Settings :=
  match Limit.ofKey? entry.1, entry.2 with
  | some limit, .integer n => (limitOf? n).map (settings.withLimit limit)
  | none, .truth b =>
    if entry.1 = "lcom4_enabled" then some { settings with lcom4Enabled := b } else none
  | none, .texts values =>
    if entry.1 = "extra_secret_patterns" then some { settings with extraSecretPatterns := values }
    else none
  | _, _ => none

end ClassAudit.Document

namespace ClassAudit.Settings

/-- The settings of a document, not validated.  A missing key keeps its default. -/
def parse? (text : String) : Option Settings := do
  let entries ← Document.read? text
  if Document.keysDistinct entries then entries.foldlM Document.assign? {} else none

/-- The settings of the file at `path`, which must pass `validate`. -/
def ofText (path text : String) : Except SettingsError Settings := do
  match parse? text with
  | none => throw (.unparsable path)
  | some settings =>
    settings.validate
    return settings

end ClassAudit.Settings
