/-!
# What can be wrong with a compiled class

A class file is refused when its bytes do not follow the layout.  One that follows the layout can
still hold references and code that lead nowhere; those faults name the place.
-/

namespace ClassAudit

/-- The kind of constant expected at an index. -/
inductive ConstantKind where
  | utf8
  | classInfo
  | nameAndType
  | fieldRef
  | methodRef
  | loadable
  | invokeDynamic
  | methodHandle
  deriving DecidableEq, Repr

/-- A fault in a class file that has the right layout. -/
inductive Fault where
  /-- The code ends before the byte at `offset`. -/
  | truncated (offset : Nat)
  /-- The constant at `index` is not of the kind `expected`. -/
  | badConstant (index : Nat) (expected : ConstantKind)
  | unknownOpcode (opcode : UInt8) (offset : Nat)
  /-- The number of targets of a switch is negative. -/
  | badSwitch (offset : Nat)
  deriving DecidableEq, Repr

/-- The reason why a unit, which is a file or an archive entry, yields no class. -/
inductive LoadError where
  /-- `RawClass.ofBytes?` fails. -/
  | rejected (unit : String)
  | malformed (unit : String) (fault : Fault)
  | unreadable (unit : String)
  /-- The archive or one of its entries does not open. -/
  | badArchive (unit : String)
  deriving DecidableEq, Repr

namespace ConstantKind

/-- The name of the kind in a `Fault.message`. -/
def name : ConstantKind → String
  | .utf8 => "Utf8"
  | .classInfo => "Class"
  | .nameAndType => "NameAndType"
  | .fieldRef => "Fieldref"
  | .methodRef => "Methodref"
  | .loadable => "loadable constant"
  | .invokeDynamic => "InvokeDynamic"
  | .methodHandle => "MethodHandle"

end ConstantKind

namespace Fault

/-- Two hexadecimal digits in lower case. -/
def hexByte (b : UInt8) : String :=
  String.ofList [Nat.digitChar (b.toNat / 16), Nat.digitChar (b.toNat % 16)]

def message : Fault → String
  | .truncated offset => "unexpected end of data at offset " ++ toString offset
  | .badConstant index expected =>
    "constant pool index " ++ toString index ++ " is not a " ++ expected.name
  | .unknownOpcode opcode offset =>
    "unknown opcode 0x" ++ hexByte opcode ++ " at bytecode offset " ++ toString offset
  | .badSwitch offset => "invalid switch range at bytecode offset " ++ toString offset

end Fault

namespace LoadError

/-- The unit of the error. -/
def unit : LoadError → String
  | .rejected unit => unit
  | .malformed unit _ => unit
  | .unreadable unit => unit
  | .badArchive unit => unit

def message : LoadError → String
  | .rejected unit => "invalid class file " ++ unit
  | .malformed unit fault => "malformed class file " ++ unit ++ ": " ++ fault.message
  | .unreadable unit => "failed to read " ++ unit
  | .badArchive unit => "invalid archive " ++ unit

end LoadError

end ClassAudit
