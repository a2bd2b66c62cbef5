/-!
# Opcodes

The opcodes that the analyses tell apart, and the width of every instruction whose width its opcode
fixes.
-/

namespace ClassAudit.Opcode

def ldc : UInt8 := 0x12
def ldcWide : UInt8 := 0x13
def iload : UInt8 := 0x15
def aload : UInt8 := 0x19
/-- The first of the opcodes from `iload_0` to `aload_3`, which contain their slot. -/
def iload0 : UInt8 := 0x1a
def aload3 : UInt8 := 0x2d
def istore : UInt8 := 0x36
def astore : UInt8 := 0x3a
/-- The first of the opcodes from `istore_0` to `astore_3`, which contain their slot. -/
def istore0 : UInt8 := 0x3b
def astore3 : UInt8 := 0x4e
def iinc : UInt8 := 0x84
def ifeq : UInt8 := 0x99
def ifAcmpne : UInt8 := 0xa6
def ret : UInt8 := 0xa9
def tableswitch : UInt8 := 0xaa
def lookupswitch : UInt8 := 0xab
def getstatic : UInt8 := 0xb2
def putstatic : UInt8 := 0xb3
def getfield : UInt8 := 0xb4
def putfield : UInt8 := 0xb5
def invokevirtual : UInt8 := 0xb6
def invokespecial : UInt8 := 0xb7
def invokestatic : UInt8 := 0xb8
def invokeinterface : UInt8 := 0xb9
def invokedynamic : UInt8 := 0xba
def wide : UInt8 := 0xc4
def ifnull : UInt8 := 0xc6
def ifnonnull : UInt8 := 0xc7

def between (low high op : UInt8) : Bool :=
  low ≤ op && op ≤ high

/-- The width of an instruction if the opcode determines it.  It does not for the two switches and
for `wide`, and the opcodes from 0xca on are not assigned. -/
def width? (op : UInt8) : Option Nat :=
  if op ≤ 0x0f then some 1
  else if op = 0x10 then some 2
  else if op = 0x11 then some 3
  else if op = 0x12 then some 2
  else if op ≤ 0x14 then some 3
  else if op ≤ 0x19 then some 2
  else if op ≤ 0x35 then some 1
  else if op ≤ 0x3a then some 2
  else if op ≤ 0x83 then some 1
  else if op = 0x84 then some 3
  else if op ≤ 0x98 then some 1
  else if op ≤ 0xa8 then some 3
  else if op = 0xa9 then some 2
  else if op ≤ 0xab then none
  else if op ≤ 0xb1 then some 1
  else if op ≤ 0xb8 then some 3
  else if op ≤ 0xba then some 5
  else if op = 0xbb then some 3
  else if op = 0xbc then some 2
  else if op = 0xbd then some 3
  else if op ≤ 0xbf then some 1
  else if op ≤ 0xc1 then some 3
  else if op ≤ 0xc3 then some 1
  else if op = 0xc4 then none
  else if op = 0xc5 then some 4
  else if op ≤ 0xc7 then some 3
  else if op ≤ 0xc9 then some 5
  else none

end ClassAudit.Opcode
