import ClassAudit.ClassFile.Layout
import ClassAudit.Proofs.Description

/-!
# Reading a written class file

`RawClass.ofBytes?` reads a written class file as `ClassDescription.raw`, the description with
every symbol replaced by its slot.  The parts of the file have one `Reads` lemma each.  They assume
of the slots only that those of the symbols that occur fit two bytes.
-/

namespace ClassAudit

/-! ## Descriptions by slots -/

section Values

variable (slot : Symbol → Nat)

def LocalDescription.entry (entry : LocalDescription) : LocalVariableEntry :=
  { startOffset := entry.startOffset.toNat
    length := entry.length.toNat
    name := slot (.text entry.name)
    descriptor := slot (.text entry.descriptor)
    slot := entry.slot.toNat }

/-- The `Attribute` that a debug table is read as. -/
def DebugTable.value : DebugTable → Attribute
  | lineNumbers entries => .lineNumbers (entries.map fun entry => (entry.1.toNat, entry.2.toNat))
  | localVariables entries => .localVariables (entries.map (LocalDescription.entry slot))

/-- The `Attribute` that a description is read as. -/
def AttributeDescription.value : AttributeDescription → Attribute
  | constantValue value => .constantValue (slot value)
  | synthetic => .synthetic
  | code body => .code (body.codeBytes slot) (body.tables.map (DebugTable.value slot))
  | sourceFile name => .sourceFile (slot (.text name))
  | bootstrapMethods methods => .bootstrapMethods (methods.map fun method => slot method.handle)

/-- The `RawMember` that a field or method is read as. -/
def rawMember (flags : UInt16) (name descriptor : String)
    (attributes : List AttributeDescription) : RawMember :=
  { flags := flags.toNat
    name := slot (.text name)
    descriptor := slot (.text descriptor)
    attributes := attributes.map (AttributeDescription.value slot) }

def FieldDescription.raw (field : FieldDescription) : RawMember :=
  rawMember slot field.flags field.name field.descriptor field.attributes

def MethodDescription.raw (method : MethodDescription) : RawMember :=
  rawMember slot method.flags method.name method.descriptor method.attributes

end Values

/-- The `RawClass` that a description is read as. -/
def ClassDescription.raw (description : ClassDescription) : RawClass :=
  let slot := description.symbols.slot
  { pool := description.symbols.pool
    flags := description.flags.toNat
    thisClass := slot (.type description.name)
    superClass := description.superSlot
    interfaces := description.interfaces.map fun name => slot (.type name)
    fields := description.fields.map (FieldDescription.raw slot)
    methods := description.methods.map (MethodDescription.raw slot)
    attributes := description.attributes.map (AttributeDescription.value slot) }

/-! ## Attributes -/

/-- The description is within the limits of the format. -/
def AttributeDescription.Fits (slot : Symbol → Nat) : AttributeDescription → Prop
  | code body => body.Fits slot
  | bootstrapMethods methods =>
    methods.length < 65536 ∧ ∀ method ∈ methods, method.arguments.length < 65536
  | _ => True

section Attributes

variable {symbols : Symbols} (hcount : symbols.slotCount < 65536)

theorem reads_line (entry : UInt16 × UInt16) :
    Reads Attribute.readLine (bytes2 entry.1.toNat ++ bytes2 entry.2.toNat)
      (entry.1.toNat, entry.2.toNat) :=
  (Reads.u2 entry.1.toNat_lt).bind ((Reads.u2 entry.2.toNat_lt).map (Prod.mk entry.1.toNat))

include hcount

/-- `u2` reads the slot of a symbol. -/
theorem reads_slot {symbol : Symbol} (h : symbol ∈ symbols) :
    Reads Reader.u2 (bytes2 (symbols.slot symbol)) (symbols.slot symbol) :=
  Reads.u2 ((Symbols.slot_lt h).trans hcount)

theorem LocalDescription.reads_bytes {entry : LocalDescription} (h : entry.symbols ⊆ symbols) :
    Reads Attribute.readLocal (entry.bytes symbols.slot) (entry.entry symbols.slot) := by
  rw [LocalDescription.bytes]
  simp only [List.append_assoc]
  refine Reads.bind (Reads.u2 entry.startOffset.toNat_lt) ?_
  refine Reads.bind (Reads.u2 entry.length.toNat_lt) ?_
  refine Reads.bind (reads_slot hcount (h (by simp [LocalDescription.symbols]))) ?_
  refine Reads.bind (reads_slot hcount (h (by simp [LocalDescription.symbols]))) ?_
  exact Reads.map (LocalVariableEntry.mk _ _ _ _) (Reads.u2 entry.slot.toNat_lt)

theorem BootstrapDescription.reads_bytes {method : BootstrapDescription}
    (harguments : method.arguments.length < 65536) (h : method.symbols ⊆ symbols) :
    Reads Attribute.readBootstrap (method.bytes symbols.slot) (symbols.slot method.handle) := by
  refine Reads.bind (reads_slot hcount (h List.mem_cons_self)) ?_
  refine Reads.map (fun _ => symbols.slot method.handle) (Reads.numbers harguments ?_)
  intro argument hargument
  exact (Symbols.slot_lt (h (List.mem_cons_of_mem _ hargument))).trans hcount

/-- `Attribute.read` reads an attribute if `readBody` reads its body. -/
theorem reads_attributeBytes {depth : Nat} {name : String} {body : Bytes} {a : Attribute}
    (h : .text name ∈ symbols)
    (hbody : ∀ length, Reads
      (Attribute.readBody depth (Attribute.read symbols.pool depth) name length) body a) :
    Reads (Attribute.read symbols.pool (depth + 1)) (attributeBytes symbols.slot name body) a := by
  rw [attributeBytes, List.append_assoc]
  refine Reads.bind (reads_slot hcount h) (Reads.bind (Reads.u4_mod body.length) ?_)
  have htext : symbols.pool.text? (symbols.slot (.text name)) = some name := by
    rw [ConstantPool.text?, Symbols.get?_slot h]
    rfl
  rw [htext]
  exact hbody _

theorem DebugTable.reads_bytes {table : DebugTable} (depth : Nat) (hfits : table.Fits)
    (h : table.symbols ⊆ symbols) :
    Reads (Attribute.read symbols.pool (depth + 1))
      (attributeBytes symbols.slot table.name (table.body symbols.slot))
      (table.value symbols.slot) := by
  refine reads_attributeBytes hcount (h List.mem_cons_self) fun length => ?_
  cases table with
  | lineNumbers entries =>
    exact Reads.map Attribute.lineNumbers (Reads.table hfits fun entry _ => reads_line entry)
  | localVariables entries =>
    refine Reads.map Attribute.localVariables (Reads.table hfits fun entry hentry => ?_)
    refine LocalDescription.reads_bytes hcount fun symbol hsymbol => h ?_
    exact List.mem_cons_of_mem _ (List.mem_flatMap.mpr ⟨entry, hentry, hsymbol⟩)

/-- `readCode` reads a body, with its debug tables one level deeper. -/
theorem BodyDescription.reads_bytes {body : BodyDescription} (depth : Nat)
    (hfits : body.Fits symbols.slot) (h : body.symbols ⊆ symbols) :
    Reads (Attribute.readCode (Attribute.read symbols.pool (depth + 1))) (body.bytes symbols.slot)
      (.code (body.codeBytes symbols.slot) (body.tables.map (DebugTable.value symbols.slot))) := by
  rw [BodyDescription.bytes]
  simp only [List.append_assoc]
  rw [← List.append_assoc (bytes2 _) (bytes2 _)]
  refine Reads.bind (Reads.skip (bytes2 body.maxStack.toNat ++ bytes2 body.maxLocals.toNat)) ?_
  refine Reads.bind (Reads.u4 hfits.code) (Reads.bind (Reads.take _) ?_)
  -- The table of exception handlers has no entry.
  refine Reads.bind (Reads.bind (Reads.u2 (n := 0) (by decide)) (Reads.pure [])) ?_
  refine Reads.map (Attribute.code _) (Reads.table hfits.tables fun table htable => ?_)
  refine DebugTable.reads_bytes hcount depth (hfits.entries table htable) fun symbol hsymbol => h ?_
  exact List.mem_append_right _ (List.mem_flatMap.mpr ⟨table, htable, hsymbol⟩)

theorem AttributeDescription.reads_bytes {attr : AttributeDescription} (depth : Nat)
    (hfits : attr.Fits symbols.slot) (h : attr.symbols ⊆ symbols) :
    Reads (Attribute.read symbols.pool (depth + 2)) (attr.bytes symbols.slot)
      (attr.value symbols.slot) := by
  refine reads_attributeBytes hcount (h List.mem_cons_self) fun length => ?_
  have htail {symbol : Symbol} (hsymbol : symbol ∈ attr.symbols.tail) : symbol ∈ symbols :=
    h (List.mem_of_mem_tail hsymbol)
  cases attr with
  | constantValue value =>
    exact Reads.map Attribute.constantValue (reads_slot hcount (htail List.mem_cons_self))
  | synthetic => exact Reads.pure _
  | code body => exact body.reads_bytes hcount depth hfits fun symbol hsymbol => htail hsymbol
  | sourceFile name =>
    exact Reads.map Attribute.sourceFile (reads_slot hcount (htail List.mem_cons_self))
  | bootstrapMethods methods =>
    refine Reads.map Attribute.bootstrapMethods (Reads.table hfits.1 fun method hmethod => ?_)
    refine method.reads_bytes hcount (hfits.2 method hmethod) fun symbol hsymbol => ?_
    exact htail (List.mem_flatMap.mpr ⟨method, hmethod, hsymbol⟩)

/-! ## Members -/

/-- `readMember` reads a field or method whose attributes satisfy `Fits`. -/
theorem reads_memberBytes {flags : UInt16} {name descriptor : String}
    {attributes : List AttributeDescription} (depth : Nat) (hlength : attributes.length < 65536)
    (hfits : ∀ attr ∈ attributes, attr.Fits symbols.slot)
    (h : [.text name, .text descriptor] ++ attributes.flatMap AttributeDescription.symbols
      ⊆ symbols) :
    Reads (RawClass.readMember symbols.pool (depth + 2))
      (memberBytes symbols.slot flags name descriptor attributes)
      (rawMember symbols.slot flags name descriptor attributes) := by
  rw [memberBytes]
  simp only [List.append_assoc]
  refine Reads.bind (Reads.u2 flags.toNat_lt) ?_
  refine Reads.bind (reads_slot hcount (h (by simp))) ?_
  refine Reads.bind (reads_slot hcount (h (by simp))) ?_
  refine Reads.map (RawMember.mk _ _ _) (Reads.table hlength fun attr hattr => ?_)
  refine AttributeDescription.reads_bytes hcount depth (hfits attr hattr) fun symbol hsymbol => h ?_
  exact List.mem_append_right _ (List.mem_flatMap.mpr ⟨attr, hattr, hsymbol⟩)

theorem FieldDescription.reads_bytes {field : FieldDescription} (depth : Nat)
    (h : field.symbols ⊆ symbols) :
    Reads (RawClass.readMember symbols.pool (depth + 2)) (field.bytes symbols.slot)
      (field.raw symbols.slot) := by
  refine reads_memberBytes hcount depth ?_ ?_ h
  · cases hvalue : field.constantValue <;> cases hmark : field.isMarkedSynthetic <;>
      simp [attributes, AttributeDescription.mark, hvalue, hmark]
  · cases hvalue : field.constantValue <;> cases hmark : field.isMarkedSynthetic <;>
      simp [attributes, AttributeDescription.mark, AttributeDescription.Fits, hvalue, hmark]

theorem MethodDescription.reads_bytes {method : MethodDescription} (depth : Nat)
    (hfits : ∀ body ∈ method.body, body.Fits symbols.slot) (h : method.symbols ⊆ symbols) :
    Reads (RawClass.readMember symbols.pool (depth + 2)) (method.bytes symbols.slot)
      (method.raw symbols.slot) := by
  refine reads_memberBytes hcount depth ?_ ?_ h
  · cases hbody : method.body <;> cases hmark : method.isMarkedSynthetic <;>
      simp [attributes, AttributeDescription.mark, hbody, hmark]
  · cases hbody : method.body <;> cases hmark : method.isMarkedSynthetic <;>
      simp_all [attributes, AttributeDescription.mark, AttributeDescription.Fits]

end Attributes

/-! ## The whole file -/

namespace ClassDescription

variable {description : ClassDescription}

theorem symbols_closed : description.symbols.Closed :=
  Symbols.collect_closed _

/-! The pool holds what the parts of the description need. -/

theorem name_mem_symbols : .type description.name ∈ description.symbols :=
  Symbols.mem_collect (by simp)

theorem superName_mem_symbols {name : String} (h : name ∈ description.superName) :
    .type name ∈ description.symbols :=
  Symbols.mem_collect (by simp [Option.mem_def.mp h])

theorem interface_mem_symbols {name : String} (h : name ∈ description.interfaces) :
    .type name ∈ description.symbols :=
  Symbols.mem_collect (by simp [h])

theorem field_symbols_subset {field : FieldDescription} (h : field ∈ description.fields) :
    field.symbols ⊆ description.symbols := by
  intro symbol hsymbol
  have hmem := List.mem_flatMap.mpr ⟨field, h, hsymbol⟩
  refine Symbols.mem_collect (List.mem_append_right _ (List.mem_cons_of_mem _ ?_))
  simp only [List.mem_append, hmem, true_or, or_true]

theorem method_symbols_subset {method : MethodDescription} (h : method ∈ description.methods) :
    method.symbols ⊆ description.symbols := by
  intro symbol hsymbol
  have hmem := List.mem_flatMap.mpr ⟨method, h, hsymbol⟩
  refine Symbols.mem_collect (List.mem_append_right _ (List.mem_cons_of_mem _ ?_))
  simp only [List.mem_append, hmem, true_or, or_true]

theorem attribute_symbols_subset {attr : AttributeDescription}
    (h : attr ∈ description.attributes) : attr.symbols ⊆ description.symbols := by
  intro symbol hsymbol
  have hmem := List.mem_flatMap.mpr ⟨attr, h, hsymbol⟩
  refine Symbols.mem_collect (List.mem_append_right _ (List.mem_cons_of_mem _ ?_))
  simp only [List.mem_append, hmem, or_true]

/-- The attributes of a class that `Fits` are fewer than 65536 and satisfy `Fits`. -/
theorem attributes_fit (hfits : description.Fits) :
    description.attributes.length < 65536 ∧
      ∀ attr ∈ description.attributes, attr.Fits description.symbols.slot := by
  have hmethods := hfits.bootstrapMethods
  have harguments := hfits.arguments
  rw [attributes]
  cases hsource : description.sourceFile <;> cases hbootstrap : description.bootstrapMethods <;>
    simp_all [AttributeDescription.Fits]

theorem superSlot_lt (hfits : description.Fits) : description.superSlot < 65536 := by
  rw [superSlot]
  split
  · decide
  next name hname => exact (Symbols.slot_lt (superName_mem_symbols hname)).trans hfits.pool

theorem reads_fields (hfits : description.Fits) (depth : Nat) :
    Reads (Reader.table (RawClass.readMember description.symbols.pool (depth + 2)))
      (tableBytes (FieldDescription.bytes description.symbols.slot) description.fields)
      (description.fields.map (FieldDescription.raw description.symbols.slot)) := by
  refine Reads.table hfits.fields fun field hfield => ?_
  exact FieldDescription.reads_bytes hfits.pool depth (field_symbols_subset hfield)

theorem reads_methods (hfits : description.Fits) (depth : Nat) :
    Reads (Reader.table (RawClass.readMember description.symbols.pool (depth + 2)))
      (tableBytes (MethodDescription.bytes description.symbols.slot) description.methods)
      (description.methods.map (MethodDescription.raw description.symbols.slot)) := by
  refine Reads.table hfits.methods fun method hmethod => ?_
  exact MethodDescription.reads_bytes hfits.pool depth (hfits.bodies method hmethod)
    (method_symbols_subset hmethod)

theorem reads_attributes (hfits : description.Fits) (depth : Nat) :
    Reads (Reader.table (Attribute.read description.symbols.pool (depth + 2)))
      (tableBytes (AttributeDescription.bytes description.symbols.slot) description.attributes)
      (description.attributes.map (AttributeDescription.value description.symbols.slot)) := by
  obtain ⟨hlength, hattributes⟩ := attributes_fit hfits
  refine Reads.table hlength fun attr hattr => ?_
  exact AttributeDescription.reads_bytes hfits.pool depth (hattributes attr hattr)
    (attribute_symbols_subset hattr)

/-- `RawClass.ofBytes?` reads a written class as `raw`. -/
theorem ofBytes?_write (hfits : description.Fits) :
    RawClass.ofBytes? description.write = some description.raw := by
  -- The bound on the nesting is the length of the file, of which two levels are needed.
  obtain ⟨depth, hdepth⟩ : ∃ depth, description.write.length = depth + 2 := by
    refine ⟨description.write.length - 2, ?_⟩
    simp only [write, List.length_append, length_bytes4]
    omega
  rw [RawClass.ofBytes?, hdepth]
  apply Reads.whole
  rw [write]
  simp only [List.append_assoc]
  rw [← List.append_assoc (bytes2 description.minorVersion.toNat)]
  refine Reads.bind (Reads.u4 (n := 0xCAFEBABE) (by decide)) ?_
  rw [if_neg (by decide)]
  refine Reads.bind (Reads.skip (bytes2 _ ++ bytes2 _)) ?_
  refine Reads.bind (Symbols.reads_pool symbols_closed hfits.texts hfits.pool) ?_
  refine Reads.bind (Reads.u2 description.flags.toNat_lt) ?_
  refine Reads.bind (reads_slot hfits.pool name_mem_symbols) ?_
  refine Reads.bind (Reads.u2 (superSlot_lt hfits)) ?_
  refine Reads.bind (Reads.numbers hfits.interfaces fun name hname => ?_) ?_
  · exact (Symbols.slot_lt (interface_mem_symbols hname)).trans hfits.pool
  refine Reads.bind (reads_fields hfits depth) (Reads.bind (reads_methods hfits depth) ?_)
  exact Reads.map (RawClass.mk _ _ _ _ _ _ _) (reads_attributes hfits depth)

end ClassDescription

end ClassAudit
