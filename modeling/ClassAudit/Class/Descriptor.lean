import ClassAudit.Class.TypeName

/-!
# Type descriptors

The descriptors of fields and methods: `I`, `[[Ljava/util/List;`, `(IJ)V`.  A parser of one type
returns the characters it leaves; a descriptor is a parse that leaves none.  `render` is the inverse
of the parsers.

An array type has one component that is not an array and between 1 and 255 dimensions, so a type is
one of two shapes and never nests.
-/

namespace ClassAudit

/-- The types other than arrays. -/
inductive SimpleType where
  | byte
  | char
  | double
  | float
  | int
  | long
  | short
  | boolean
  | void
  | object (name : String)
  deriving DecidableEq, Repr

/-- The type of a field, a parameter or a result. -/
inductive TypeDescriptor where
  | simple (type : SimpleType)
  | array (component : SimpleType) (dimensions : Nat)
  deriving DecidableEq, Repr

/-- The parameter types and the result type of a method. -/
structure MethodDescriptor where
  parameters : List TypeDescriptor
  result : TypeDescriptor
  deriving DecidableEq, Repr

namespace SimpleType

/-- The descriptor of a `SimpleType`. -/
def render : SimpleType → List Char
  | .byte => ['B']
  | .char => ['C']
  | .double => ['D']
  | .float => ['F']
  | .int => ['I']
  | .long => ['J']
  | .short => ['S']
  | .boolean => ['Z']
  | .void => ['V']
  | .object name => 'L' :: name.toList ++ [';']

/-- Parses a `SimpleType` at the front of a text and returns the rest. -/
def parse : List Char → Option (SimpleType × List Char)
  | 'B' :: rest => some (.byte, rest)
  | 'C' :: rest => some (.char, rest)
  | 'D' :: rest => some (.double, rest)
  | 'F' :: rest => some (.float, rest)
  | 'I' :: rest => some (.int, rest)
  | 'J' :: rest => some (.long, rest)
  | 'S' :: rest => some (.short, rest)
  | 'Z' :: rest => some (.boolean, rest)
  | 'V' :: rest => some (.void, rest)
  | 'L' :: rest =>
    match rest.dropWhile (· ≠ ';') with
    | [] => none
    | _ :: after => some (.object (String.ofList (rest.takeWhile (· ≠ ';'))), after)
  | _ => none

/-- The name of the type in source code. -/
def sourceName : SimpleType → String
  | .byte => "byte"
  | .char => "char"
  | .double => "double"
  | .float => "float"
  | .int => "int"
  | .long => "long"
  | .short => "short"
  | .boolean => "boolean"
  | .void => "void"
  | .object name => TypeName.dotted name

end SimpleType

namespace TypeDescriptor

/-- The descriptor of a `TypeDescriptor`. -/
def render : TypeDescriptor → List Char
  | .simple type => type.render
  | .array component dimensions => List.replicate dimensions '[' ++ component.render

def maxDimensions : Nat := 255

/-- Parses a `TypeDescriptor` at the front of `text` and returns the rest. -/
def parse (text : List Char) : Option (TypeDescriptor × List Char) :=
  let dimensions := (text.takeWhile (· = '[')).length
  if dimensions = 0 then
    (SimpleType.parse text).map fun (type, rest) => (.simple type, rest)
  else if dimensions ≤ maxDimensions then
    (SimpleType.parse (text.dropWhile (· = '['))).map fun (type, rest) =>
      (.array type dimensions, rest)
  else none

/-- The name of the type in source code. -/
def sourceName : TypeDescriptor → String
  | .simple type => type.sourceName
  | .array component dimensions =>
    component.sourceName ++ String.join (List.replicate dimensions "[]")

/-- The internal name of an object type. -/
def internalName? : TypeDescriptor → Option String
  | .simple (.object name) => some name
  | _ => none

def isReference : TypeDescriptor → Bool
  | .simple (.object _) => true
  | .simple _ => false
  | .array _ _ => true

/-- The number of local variable slots that a value of the type takes. -/
def slots : TypeDescriptor → UInt16
  | .simple .long => 2
  | .simple .double => 2
  | .simple .void => 0
  | _ => 1

/-- Parses a whole field descriptor, which must not be `void`. -/
def ofField? (text : String) : Option TypeDescriptor :=
  match parse text.toList with
  | some (type, []) => if type = .simple .void then none else some type
  | _ => none

/-- The source name of a field descriptor, or `text` itself if it does not parse. -/
def fieldTypeName (text : String) : String :=
  ((ofField? text).map sourceName).getD text

end TypeDescriptor

/-- The sum in 16 bits; `none` if it overflows. -/
def addSlots? (a b : UInt16) : Option UInt16 :=
  if a.toNat + b.toNat < 65536 then some (a + b) else none

namespace MethodDescriptor

/-- The descriptor of a `MethodDescriptor`. -/
def render (method : MethodDescriptor) : List Char :=
  '(' :: method.parameters.flatMap TypeDescriptor.render ++ ')' :: method.result.render

/-- Parses parameter types up to the closing parenthesis and returns the rest.  A type takes at
least one character, so the length of the text is a sufficient `bound`. -/
def parseParameters (bound : Nat) (text : List Char) : Option (List TypeDescriptor × List Char) :=
  match bound, text with
  | _, ')' :: rest => some ([], rest)
  | 0, _ => none
  | bound + 1, text =>
    match TypeDescriptor.parse text with
    | none => none
    | some (type, rest) =>
      (parseParameters bound rest).map fun (types, rest) => (type :: types, rest)

/-- Parses a whole method descriptor. -/
def ofText? (text : String) : Option MethodDescriptor :=
  match text.toList with
  | '(' :: text =>
    match parseParameters text.length text with
    | none => none
    | some (parameters, rest) =>
      match TypeDescriptor.parse rest with
      | some (result, []) => some { parameters, result }
      | _ => none
  | _ => none

/-- The number of slots of the parameters, without the receiver. -/
def parameterSlots (method : MethodDescriptor) : Nat :=
  method.parameters.foldl (fun sum type => sum + type.slots.toNat) 0

/-- `parameterSlots` in 16 bits; `none` if a sum on the way overflows. -/
def parameterSlots? (method : MethodDescriptor) : Option UInt16 :=
  method.parameters.foldlM (fun sum type => addSlots? sum type.slots) 0

end MethodDescriptor

end ClassAudit
