import ClassAudit.ClassFile.Attribute

/-!
# The layout of a class file

A class file as it lies in its bytes: the constant pool, the access bits, indices of names, and the
members with their attributes.  Reading takes every byte; a file with bytes left over is refused.
-/

namespace ClassAudit

/-- A field or method, with indices into the pool. -/
structure RawMember where
  flags : Nat
  name : Nat
  descriptor : Nat
  attributes : List Attribute
  deriving Repr

/-- A class file, with indices into the pool. -/
structure RawClass where
  pool : ConstantPool
  flags : Nat
  thisClass : Nat
  /-- 0 for `java/lang/Object`. -/
  superClass : Nat
  interfaces : List Nat
  fields : List RawMember
  methods : List RawMember
  attributes : List Attribute
  deriving Repr

namespace RawClass

def magic : Nat := 0xCAFEBABE

/-- Reads a `RawMember`, with attributes nested at most `depth` levels. -/
def readMember (pool : ConstantPool) (depth : Nat) : Reader RawMember := do
  let flags ← Reader.u2
  let name ← Reader.u2
  let descriptor ← Reader.u2
  return { flags, name, descriptor, attributes := ← Reader.table (Attribute.read pool depth) }

/-- Reads a `RawClass`, with attributes nested at most `depth` levels. -/
def read (depth : Nat) : Reader RawClass := do
  if (← Reader.u4) ≠ magic then Reader.refuse
  Reader.skip 4
  let pool ← ConstantPool.read
  let flags ← Reader.u2
  let thisClass ← Reader.u2
  let superClass ← Reader.u2
  let interfaces ← Reader.numbers
  let fields ← Reader.table (readMember pool depth)
  let methods ← Reader.table (readMember pool depth)
  let attributes ← Reader.table (Attribute.read pool depth)
  return { pool, flags, thisClass, superClass, interfaces, fields, methods, attributes }

/-- The `RawClass` in `bytes`, which must end with it. -/
def ofBytes? (bytes : Bytes) : Option RawClass :=
  Reader.whole (read bytes.length) bytes

end RawClass

/-! ## Access bits -/

namespace AccessBit

def isPublic : Nat := 0x0001
def isPrivate : Nat := 0x0002
def isProtected : Nat := 0x0004
def isStatic : Nat := 0x0008
def isFinal : Nat := 0x0010
def isBridge : Nat := 0x0040
def isInterface : Nat := 0x0200
def isAbstract : Nat := 0x0400
def isSynthetic : Nat := 0x1000
def isAnnotation : Nat := 0x2000
def isEnum : Nat := 0x4000

/-- The bit of value `bit` is set in `mask`. -/
def inMask (mask bit : Nat) : Bool :=
  mask / bit % 2 = 1

end AccessBit

end ClassAudit
