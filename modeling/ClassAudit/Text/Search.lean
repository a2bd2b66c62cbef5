/-!
# Looking into text

Tests on the letters of a text: how it begins, how it ends, what it holds.  They are stated on the
list of characters, where the list lemmas of the core library apply to them.
-/

namespace ClassAudit.Text

/-- `lead` is a prefix of `text`. -/
def startsWith (text lead : String) : Bool :=
  lead.toList.isPrefixOf text.toList

/-- `tail` is a suffix of `text`. -/
def endsWith (text tail : String) : Bool :=
  tail.toList.isSuffixOf text.toList

def hasChar (text : String) (c : Char) : Bool :=
  text.toList.contains c

/-- `block` is an infix of the text. -/
def occursIn (block : List Char) : List Char → Bool
  | [] => block.isEmpty
  | c :: rest => block.isPrefixOf (c :: rest) || occursIn block rest

theorem occursIn_iff {block text : List Char} : occursIn block text = true ↔ block <:+: text := by
  induction text with
  | nil => simp [occursIn]
  | cons c rest ih =>
    rw [occursIn, Bool.or_eq_true, ih, List.isPrefixOf_iff_prefix, List.infix_cons_iff]

/-- `text` with `old` replaced by `new`. -/
def substitute (old new : Char) (text : String) : String :=
  String.ofList (text.toList.map fun c => if c = old then new else c)

/-- Splits a text at every `separator`; a text with `n` separators has `n + 1` pieces. -/
def pieces (separator : Char) : List Char → List (List Char)
  | [] => [[]]
  | c :: rest =>
    if c = separator then [] :: pieces separator rest
    else
      match pieces separator rest with
      | [] => [[c]]
      | piece :: more => (c :: piece) :: more

/-- The names joined by a comma and a blank. -/
def commaList (names : List String) : String :=
  String.intercalate ", " names

/-- The capital of a lower-case ASCII letter, and any other character itself. -/
def asciiUpper (c : Char) : Char :=
  if 'a' ≤ c ∧ c ≤ 'z' then Char.ofNat (c.toNat - 32) else c

/-- The class `[a-z]`. -/
def isLower (c : Char) : Bool :=
  'a' ≤ c && c ≤ 'z'

/-- The class `[A-Z]`. -/
def isUpper (c : Char) : Bool :=
  'A' ≤ c && c ≤ 'Z'

/-- The class `[0-9]`. -/
def isDigit (c : Char) : Bool :=
  '0' ≤ c && c ≤ '9'

/-- The class `[A-Za-z]`. -/
def isLetter (c : Char) : Bool :=
  isLower c || isUpper c

/-- The class `[A-Za-z0-9]`. -/
def isLetterOrDigit (c : Char) : Bool :=
  isLetter c || isDigit c

end ClassAudit.Text
