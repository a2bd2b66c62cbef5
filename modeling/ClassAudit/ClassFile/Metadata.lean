import ClassAudit.ClassFile.Reader

/-!
# Annotations and stack maps

Parts of a class file that the model does not keep.  They are read by their structure all the same,
because only their structure says where they end.

Element values nest.  A reader of nested values takes a bound on the depth; every level takes at
least one byte, so the number of bytes of the file is always enough.
-/

namespace ClassAudit

namespace Metadata

/-- An annotation whose values are read by `value`. -/
def entryOf (value : Reader Unit) : Reader Unit := do
  Reader.skip 2
  let _ ← Reader.table do
    Reader.skip 2
    value
  return ()

/-- The tags of an element value that is an index of a constant. -/
def isConstantTag (tag : Nat) : Bool :=
  ['B', 'C', 'D', 'F', 'I', 'J', 'S', 'Z', 's'].any (·.toNat = tag)

/-- An element value, nested at most `depth` levels. -/
def elementValue : Nat → Reader Unit
  | 0 => Reader.refuse
  | depth + 1 => do
    let tag ← Reader.u1
    if isConstantTag tag then Reader.skip 2
    else if tag = 'e'.toNat then Reader.skip 4
    else if tag = 'c'.toNat then Reader.skip 2
    else if tag = '@'.toNat then entryOf (elementValue depth)
    else if tag = '['.toNat then
      let _ ← Reader.table (elementValue depth)
      return ()
    else Reader.refuse

/-- An annotation, nested at most `depth` levels. -/
def entry (depth : Nat) : Reader Unit :=
  entryOf (elementValue depth)

/-- A table of annotations, as in `RuntimeVisibleAnnotations`. -/
def entries (depth : Nat) : Reader Unit := do
  let _ ← Reader.table (entry depth)
  return ()

/-- A table of annotations per parameter. -/
def parameterEntries (depth : Nat) : Reader Unit := do
  let parameters ← Reader.u1
  let _ ← Reader.times parameters (entries depth)
  return ()

/-- The `target_info` of a type annotation, by its `target_type`. -/
def target : Reader Unit := do
  let kind ← Reader.u1
  if kind ≤ 0x01 then Reader.skip 1
  else if kind = 0x10 then Reader.skip 2
  else if kind = 0x11 ∨ kind = 0x12 then Reader.skip 2
  else if 0x13 ≤ kind ∧ kind ≤ 0x15 then return ()
  else if kind = 0x16 then Reader.skip 1
  else if kind = 0x17 then Reader.skip 2
  else if kind = 0x40 ∨ kind = 0x41 then
    let _ ← Reader.table (Reader.skip 6)
    return ()
  else if 0x42 ≤ kind ∧ kind ≤ 0x46 then Reader.skip 2
  else if 0x47 ≤ kind ∧ kind ≤ 0x4B then Reader.skip 3
  else Reader.refuse

/-- A type annotation: target, path and annotation. -/
def typeEntry (depth : Nat) : Reader Unit := do
  target
  let steps ← Reader.u1
  let _ ← Reader.times steps (Reader.skip 2)
  entry depth

/-- A table of type annotations. -/
def typeEntries (depth : Nat) : Reader Unit := do
  let _ ← Reader.table (typeEntry depth)
  return ()

end Metadata

namespace StackMap

/-- A `verification_type_info` of the `StackMapTable`. -/
def verificationType : Reader Unit := do
  let tag ← Reader.u1
  if tag ≤ 6 then return ()
  else if tag ≤ 8 then Reader.skip 2
  else Reader.refuse

/-- A frame of the `StackMapTable`.  The types 128 to 246 are reserved. -/
def frame : Reader Unit := do
  let type ← Reader.u1
  if type ≤ 63 then return ()
  else if type ≤ 127 then verificationType
  else if type ≤ 246 then Reader.refuse
  else if type = 247 then
    Reader.skip 2
    verificationType
  else if type ≤ 251 then Reader.skip 2
  else if type ≤ 254 then
    Reader.skip 2
    let _ ← Reader.times (type - 251) verificationType
    return ()
  else
    Reader.skip 2
    let _ ← Reader.table verificationType
    let _ ← Reader.table verificationType
    return ()

end StackMap

end ClassAudit
