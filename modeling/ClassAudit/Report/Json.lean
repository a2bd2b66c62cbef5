/-!
# Documents

Tree-shaped documents and their text.  Every item of a list and every field of a record stands on a
line of its own, indented by two blanks for each level.
-/

namespace ClassAudit

inductive Json where
  | null
  | bool (value : Bool)
  | number (value : Nat)
  | text (value : String)
  | array (items : List Json)
  | object (fields : List (String × Json))
  deriving Repr

namespace Json

/-- The field `name`, left out if there is no value. -/
def optionalField {α : Type} (name : String) (encode : α → Json) : Option α → List (String × Json)
  | some value => [(name, encode value)]
  | none => []

/-- The array of `values`. -/
def texts (values : List String) : Json :=
  .array (values.map .text)

/-! ## Text of a document -/

/-- The escape `\u00XX` of a control character. -/
def controlEscape (c : Char) : List Char :=
  "\\u00".toList ++ [Nat.digitChar (c.toNat / 16), Nat.digitChar (c.toNat % 16)]

/-- The escaped form of a character in a string. -/
def escape (c : Char) : List Char :=
  match c with
  | '"' => ['\\', '"']
  | '\\' => ['\\', '\\']
  | '\x08' => ['\\', 'b']
  | '\x0c' => ['\\', 'f']
  | '\n' => ['\\', 'n']
  | '\r' => ['\\', 'r']
  | '\t' => ['\\', 't']
  | _ => if c.toNat < 32 then controlEscape c else [c]

/-- A string literal. -/
def renderText (text : String) : String :=
  String.ofList ('"' :: text.toList.flatMap escape ++ ['"'])

/-- A line break followed by the indentation of `level`. -/
def newLine (level : Nat) : String :=
  String.ofList ('\n' :: List.replicate (2 * level) ' ')

/-- The lines separated by commas, indented one level more than the brackets. -/
def bracketed (opening closing : String) (level : Nat) (lines : List String) : String :=
  if lines.isEmpty then opening ++ closing
  else
    opening ++ newLine (level + 1) ++ String.intercalate ("," ++ newLine (level + 1)) lines
      ++ newLine level ++ closing

mutual

/-- The text of a value that starts at indentation `level`. -/
def renderAt (level : Nat) : Json → String
  | .null => "null"
  | .bool value => if value then "true" else "false"
  | .number value => toString value
  | .text value => renderText value
  | .array items => bracketed "[" "]" level (renderItems (level + 1) items)
  | .object fields => bracketed "\x7b" "\x7d" level (renderFields (level + 1) fields)

/-- `renderAt` for the items of an array. -/
def renderItems (level : Nat) : List Json → List String
  | [] => []
  | item :: rest => renderAt level item :: renderItems level rest

/-- `renderAt` for the fields of an object, with their names. -/
def renderFields (level : Nat) : List (String × Json) → List String
  | [] => []
  | (name, value) :: rest =>
    (renderText name ++ ": " ++ renderAt level value) :: renderFields level rest

end

def render (document : Json) : String :=
  renderAt 0 document

end Json

end ClassAudit
