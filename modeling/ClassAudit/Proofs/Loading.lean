import ClassAudit.ClassFile.Load
import ClassAudit.Proofs.WrittenClass
import Mathlib

/-!
# Loading a written class

`Class.load` inverts `ClassDescription.write`: the class file of a description loads as its
`model`.  `RawClass.ofBytes?` reads the file as `ClassDescription.raw`, in which symbols are slots.
Here `RawClass.build` resolves the slots to the symbols.  For the code this is decoding what was
assembled, with operands that the pool resolves.
-/

namespace ClassAudit

/-- `mapM` over mapped entries succeeds when every entry does. -/
theorem mapM_map_eq_ok {ε α β γ : Type} {follow : β → Except ε γ} {raw : α → β} {value : α → γ}
    (entries : List α) (h : ∀ entry ∈ entries, follow (raw entry) = .ok (value entry)) :
    (entries.map raw).mapM follow = .ok (entries.map value) := by
  induction entries with
  | nil => rfl
  | cons entry rest ih =>
    have hrest := ih fun other hother => h other (List.mem_cons_of_mem _ hother)
    rw [List.map_cons, List.mapM_cons, h entry List.mem_cons_self]
    exact bind_eq_ok.mpr ⟨_, rfl, bind_eq_ok.mpr ⟨_, hrest, rfl⟩⟩

/-- Inversion of `mapM` in `Except`, entry by entry. -/
theorem forall₂_of_mapM {ε α β : Type} {follow : α → Except ε β} {entries : List α}
    {values : List β} (h : entries.mapM follow = .ok values) :
    List.Forall₂ (fun entry value => follow entry = .ok value) entries values := by
  induction entries generalizing values with
  | nil =>
    obtain rfl := Except.ok.inj h
    exact .nil
  | cons entry rest ih =>
    rw [List.mapM_cons] at h
    obtain ⟨value, hvalue, h⟩ := bind_eq_ok.mp h
    obtain ⟨others, hothers, h⟩ := bind_eq_ok.mp h
    obtain rfl := Except.ok.inj h
    exact .cons hvalue (ih hothers)

/-! ## Access bits -/

/-- `inMask` by division agrees with `hasFlag` on a power of two. -/
theorem inMask_two_pow {flags bit : UInt16} {k : Nat} (hbit : bit.toNat = 2 ^ k) :
    AccessBit.inMask flags.toNat (2 ^ k) = hasFlag flags bit := by
  have hand : (flags &&& bit).toNat = (flags.toNat.testBit k).toNat * 2 ^ k := by
    rw [UInt16.toNat_and, hbit, Nat.and_two_pow]
  have hzero : flags &&& bit = 0 ↔ flags.toNat.testBit k = false := by
    rw [← UInt16.toNat_inj, hand]
    cases flags.toNat.testBit k <;> simp
  rw [AccessBit.inMask, ← Nat.testBit_eq_decide_div_mod_eq, hasFlag]
  cases hbit : flags.toNat.testBit k <;> simp [hzero, hbit]

/-- `inMask_two_pow` for the bits of `AccessBit`. -/
theorem inMask_toNat (flags : UInt16) :
    AccessBit.inMask flags.toNat AccessBit.isPublic = hasFlag flags 0x0001 ∧
      AccessBit.inMask flags.toNat AccessBit.isPrivate = hasFlag flags 0x0002 ∧
      AccessBit.inMask flags.toNat AccessBit.isProtected = hasFlag flags 0x0004 ∧
      AccessBit.inMask flags.toNat AccessBit.isStatic = hasFlag flags 0x0008 ∧
      AccessBit.inMask flags.toNat AccessBit.isFinal = hasFlag flags 0x0010 ∧
      AccessBit.inMask flags.toNat AccessBit.isBridge = hasFlag flags 0x0040 ∧
      AccessBit.inMask flags.toNat AccessBit.isInterface = hasFlag flags 0x0200 ∧
      AccessBit.inMask flags.toNat AccessBit.isAbstract = hasFlag flags 0x0400 ∧
      AccessBit.inMask flags.toNat AccessBit.isSynthetic = hasFlag flags 0x1000 ∧
      AccessBit.inMask flags.toNat AccessBit.isAnnotation = hasFlag flags 0x2000 ∧
      AccessBit.inMask flags.toNat AccessBit.isEnum = hasFlag flags 0x4000 :=
  ⟨inMask_two_pow (k := 0) rfl, inMask_two_pow (k := 1) rfl, inMask_two_pow (k := 2) rfl,
    inMask_two_pow (k := 3) rfl, inMask_two_pow (k := 4) rfl, inMask_two_pow (k := 6) rfl,
    inMask_two_pow (k := 9) rfl, inMask_two_pow (k := 10) rfl, inMask_two_pow (k := 12) rfl,
    inMask_two_pow (k := 13) rfl, inMask_two_pow (k := 14) rfl⟩

theorem visibility_toNat (flags : UInt16) :
    RawClass.visibility flags.toNat = flagVisibility flags := by
  simp only [RawClass.visibility, inMask_toNat]
  rfl

/-! ## Attributes -/

section Attributes

variable (slot : Symbol → Nat)

theorem marksSynthetic_attributes (field : FieldDescription) :
    Attribute.marksSynthetic (field.attributes.map (AttributeDescription.value slot))
      = field.isMarkedSynthetic := by
  cases hvalue : field.constantValue <;> cases hmark : field.isMarkedSynthetic <;>
    simp [Attribute.marksSynthetic, FieldDescription.attributes, AttributeDescription.mark,
      AttributeDescription.value, hvalue, hmark]

theorem givesConstant_attributes (field : FieldDescription) :
    Attribute.givesConstant (field.attributes.map (AttributeDescription.value slot))
      = field.constantValue.isSome := by
  cases hvalue : field.constantValue <;> cases hmark : field.isMarkedSynthetic <;>
    simp [Attribute.givesConstant, FieldDescription.attributes, AttributeDescription.mark,
      AttributeDescription.value, hvalue, hmark]

/-- The attributes of a written method give back its `Synthetic` mark and its one body. -/
theorem method_attributes (method : MethodDescription) :
    Attribute.marksSynthetic (method.attributes.map (AttributeDescription.value slot))
        = method.isMarkedSynthetic ∧
      Attribute.bodies (method.attributes.map (AttributeDescription.value slot))
        = method.body.toList.map fun body =>
          (body.codeBytes slot, body.tables.map (DebugTable.value slot)) := by
  cases hbody : method.body <;> cases hmark : method.isMarkedSynthetic <;>
    simp [Attribute.marksSynthetic, Attribute.bodies, MethodDescription.attributes,
      AttributeDescription.mark, AttributeDescription.value, hbody, hmark]

theorem class_attributes (description : ClassDescription) :
    Attribute.sourceFile? (description.attributes.map (AttributeDescription.value slot))
        = description.sourceFile.map (fun name => slot (.text name)) ∧
      Attribute.bootstrapHandles (description.attributes.map (AttributeDescription.value slot))
        = (description.bootstrapMethods.getD []).map fun method => slot method.handle := by
  cases hsource : description.sourceFile <;> cases hbootstrap : description.bootstrapMethods <;>
    simp [Attribute.sourceFile?, Attribute.bootstrapHandles, ClassDescription.attributes,
      AttributeDescription.value, hsource, hbootstrap]

/-- The debug attributes of a written body give back the entries of all tables, in order. -/
theorem debug_tables (tables : List DebugTable) :
    Attribute.lines (tables.map (DebugTable.value slot)) = tables.flatMap DebugTable.lines ∧
      Attribute.localEntries (tables.map (DebugTable.value slot))
        = (tables.flatMap DebugTable.locals).map (LocalDescription.entry slot) := by
  induction tables with
  | nil => exact ⟨rfl, rfl⟩
  | cons table rest ih =>
    obtain ⟨hlines, hlocals⟩ := ih
    rw [Attribute.lines] at hlines ⊢
    rw [Attribute.localEntries] at hlocals ⊢
    simp only [List.map_cons, List.flatMap_cons, hlines, hlocals, List.map_append]
    cases table <;> exact ⟨rfl, rfl⟩

end Attributes

/-! ## Following slots -/

section Following

variable {symbols : Symbols}

theorem text_slot {value : String} (h : .text value ∈ symbols) :
    symbols.pool.text (symbols.slot (.text value)) = .ok value :=
  ConstantPool.text_eq_ok.mpr (Symbols.hasText h)

theorem FieldDescription.build_raw {field : FieldDescription} (h : field.symbols ⊆ symbols) :
    RawClass.buildField symbols.pool (field.raw symbols.slot) = .ok field.model := by
  have hname :=
    text_slot (h (by simp [FieldDescription.symbols] : .text field.name ∈ field.symbols))
  have hdescriptor :=
    text_slot (h (by simp [FieldDescription.symbols] : .text field.descriptor ∈ field.symbols))
  refine bind_eq_ok.mpr ⟨_, hdescriptor, bind_eq_ok.mpr ⟨_, hname, ?_⟩⟩
  simp only [FieldDescription.raw, rawMember, visibility_toNat, inMask_toNat,
    marksSynthetic_attributes, givesConstant_attributes]
  rfl

theorem LocalDescription.build_entry {entry : LocalDescription} (h : entry.symbols ⊆ symbols) :
    RawClass.buildLocal symbols.pool (entry.entry symbols.slot) = .ok entry.model := by
  have hname :=
    text_slot (h (by simp [LocalDescription.symbols] : .text entry.name ∈ entry.symbols))
  have hdescriptor :=
    text_slot (h (by simp [LocalDescription.symbols] : .text entry.descriptor ∈ entry.symbols))
  exact bind_eq_ok.mpr ⟨_, hname, bind_eq_ok.mpr ⟨_, hdescriptor, rfl⟩⟩

/-- In a `Closed` pool, the slot of an operand `Resolves` to its value. -/
theorem Code.Reference.resolves (hclosed : symbols.Closed) {operand : Operand}
    (reference : Reference operand) (h : symbol operand reference ∈ symbols) :
    Resolves symbols.pool (symbols.slot (symbol operand reference)) operand
      (value operand reference) := by
  cases operand with
  | field => exact Symbols.hasField hclosed h
  | method => exact Symbols.hasMethod hclosed (by split <;> decide) h
  | dynamicCall => exact Symbols.hasDynamicCall hclosed h
  | constant => exact Symbols.hasLiteral hclosed h
  | narrowConstant => exact Symbols.hasLiteral hclosed h

/-- The symbols of a local variable are among the symbols of its table. -/
theorem DebugTable.mem_symbols_of_mem_locals {table : DebugTable} {entry : LocalDescription}
    {symbol : Symbol} (hentry : entry ∈ table.locals) (hsymbol : symbol ∈ entry.symbols) :
    symbol ∈ table.symbols := by
  cases table with
  | lineNumbers _ => simp [DebugTable.locals] at hentry
  | localVariables entries =>
    exact List.mem_cons_of_mem _ (List.mem_flatMap.mpr ⟨entry, hentry, hsymbol⟩)

theorem BodyDescription.build_code {body : BodyDescription} (hclosed : symbols.Closed)
    (hfits : body.Fits symbols.slot) (h : body.symbols ⊆ symbols) (methods : List BootstrapMethod) :
    RawClass.buildBody ⟨symbols.pool, methods⟩
        (body.codeBytes symbols.slot, body.tables.map (DebugTable.value symbols.slot))
      = .ok (body.instructions methods, body.locals) := by
  obtain ⟨hlines, hlocals⟩ := debug_tables symbols.slot body.tables
  have hfollowed : (Attribute.localEntries (body.tables.map (DebugTable.value symbols.slot))).mapM
      (RawClass.buildLocal symbols.pool) = .ok body.locals := by
    rw [hlocals]
    refine mapM_map_eq_ok _ fun entry hentry =>
      LocalDescription.build_entry fun symbol hsymbol => ?_
    obtain ⟨table, htable, hentry⟩ := List.mem_flatMap.mp hentry
    have htableSymbol := DebugTable.mem_symbols_of_mem_locals hentry hsymbol
    exact h (List.mem_append_right _ (List.mem_flatMap.mpr ⟨table, htable, htableSymbol⟩))
  have hdecoded : Code.decode ⟨symbols.pool, methods⟩ body.lineTable (body.codeBytes symbols.slot)
      = .ok (body.instructions methods) := by
    refine Code.decodeFrom_assembleFrom body.code 0 (fun raw hraw => ?_) hfits.code
    have hsymbols : raw.symbols ⊆ symbols := fun symbol hsymbol =>
      h (List.mem_append_left _ (List.mem_flatMap.mpr ⟨raw, hraw, hsymbol⟩))
    have hoperand := hfits.operands raw hraw
    -- Only the forms with an operand that refers to a constant ask for anything.
    cases raw <;> first
      | trivial
      | exact ⟨hoperand, Code.Reference.resolves hclosed _ (hsymbols List.mem_cons_self)⟩
  refine bind_eq_ok.mpr ⟨_, hfollowed, bind_eq_ok.mpr ⟨_, ?_, rfl⟩⟩
  rw [hlines]
  exact hdecoded

theorem MethodDescription.build_raw {method : MethodDescription} (hclosed : symbols.Closed)
    (hfits : ∀ body ∈ method.body, body.Fits symbols.slot) (h : method.symbols ⊆ symbols)
    (methods : List BootstrapMethod) :
    RawClass.buildMethod ⟨symbols.pool, methods⟩ (method.raw symbols.slot)
      = .ok (method.model methods) := by
  obtain ⟨hmark, hbodies⟩ := method_attributes symbols.slot method
  have hname :=
    text_slot (h (by simp [MethodDescription.symbols] : .text method.name ∈ method.symbols))
  have hdescriptor :=
    text_slot (h (by simp [MethodDescription.symbols] : .text method.descriptor ∈ method.symbols))
  have hfollowed : (Attribute.bodies (method.raw symbols.slot).attributes).mapM
      (RawClass.buildBody ⟨symbols.pool, methods⟩)
      = .ok (method.body.toList.map fun body => (body.instructions methods, body.locals)) := by
    rw [MethodDescription.raw, rawMember, hbodies]
    refine mapM_map_eq_ok _ fun body hbody => ?_
    have hbody : body ∈ method.body := Option.mem_toList.mp hbody
    refine BodyDescription.build_code hclosed (hfits body hbody)
      (fun symbol hsymbol => h ?_) methods
    have hcode : .code body ∈ method.attributes := by
      simp [MethodDescription.attributes, Option.mem_def.mp hbody]
    exact List.mem_append_right _
      (List.mem_flatMap.mpr ⟨_, hcode, List.mem_cons_of_mem _ hsymbol⟩)
  refine bind_eq_ok.mpr ⟨_, hfollowed, ?_⟩
  refine bind_eq_ok.mpr ⟨_, hname, bind_eq_ok.mpr ⟨_, hdescriptor, ?_⟩⟩
  simp only [MethodDescription.raw, rawMember, visibility_toNat, inMask_toNat, hmark,
    MethodDescription.model]
  -- There is at most one body, which is therefore the last one.
  cases method.body <;> rfl

/-- `bootstrapMethod` on the handle of a description gives its `model`. -/
theorem BootstrapDescription.build_handle {method : BootstrapDescription}
    (hclosed : symbols.Closed) (h : method.handle ∈ symbols) :
    RawClass.bootstrapMethod symbols.pool (symbols.slot method.handle) = method.model := by
  rw [RawClass.bootstrapMethod, BootstrapDescription.model]
  by_cases hkind : method.kind = .field
  · -- A look-up that found a method would have found one behind a field.
    rw [if_pos hkind]
    split
    next member hmember =>
      rw [BootstrapDescription.handle, hkind] at h hmember
      exact absurd (ConstantPool.methodHandle_eq_ok.mp hmember) (Symbols.not_hasHandle hclosed h)
    next => rfl
  · have hhandle : symbols.pool.methodHandle (symbols.slot method.handle) = .ok method.ref :=
      ConstantPool.methodHandle_eq_ok.mpr (Symbols.hasHandle hclosed hkind h)
    rw [if_neg hkind, hhandle]

end Following

/-! ## The whole class -/

namespace ClassDescription

variable {description : ClassDescription}

/-- The context of the raw class: its pool, and the models of its bootstrap table. -/
theorem context_raw :
    description.raw.context = ⟨description.symbols.pool,
      (description.bootstrapMethods.getD []).map BootstrapDescription.model⟩ := by
  obtain ⟨-, hhandles⟩ := class_attributes description.symbols.slot description
  rw [RawClass.context, raw]
  simp only [hhandles, List.map_map, Code.Context.mk.injEq, true_and]
  refine List.map_congr_left fun method hmethod => ?_
  refine BootstrapDescription.build_handle symbols_closed ?_
  cases hbootstrap : description.bootstrapMethods with
  | none => simp [hbootstrap] at hmethod
  | some methods =>
    rw [hbootstrap, Option.getD_some] at hmethod
    have hattr : .bootstrapMethods methods ∈ description.attributes := by
      simp [attributes, hbootstrap]
    refine attribute_symbols_subset hattr (List.mem_cons_of_mem _ ?_)
    exact List.mem_flatMap.mpr ⟨method, hmethod, List.mem_cons_self⟩

theorem superName_superSlot :
    RawClass.superName description.symbols.pool description.superSlot
      = .ok description.superName := by
  rw [superSlot]
  cases hsuper : description.superName with
  | none => rfl
  | some name =>
    have hmem : .type name ∈ description.symbols := superName_mem_symbols hsuper
    have hclass := ConstantPool.className_eq_ok.mpr (Symbols.hasClass symbols_closed hmem)
    dsimp only
    rw [RawClass.superName, if_neg (Nat.pos_iff_ne_zero.mp (Symbols.slot_pos hmem)), hclass]
    rfl

theorem sourceFile_attributes :
    RawClass.optionalText description.symbols.pool
        (Attribute.sourceFile? description.raw.attributes) = .ok description.sourceFile := by
  obtain ⟨hsource, -⟩ := class_attributes description.symbols.slot description
  rw [raw, hsource]
  cases hfile : description.sourceFile with
  | none => rfl
  | some name =>
    have hattr : .sourceFile name ∈ description.attributes := by simp [attributes, hfile]
    have hmem : .text name ∈ description.symbols :=
      attribute_symbols_subset hattr (List.mem_cons_of_mem _ List.mem_cons_self)
    rw [Option.map_some, RawClass.optionalText, text_slot hmem]
    rfl

/-- `build` takes `raw` back to `model`, for a description that `Fits`. -/
theorem build_raw (hfits : description.Fits) : description.raw.build = .ok description.model := by
  have hname : description.symbols.pool.className
      (description.symbols.slot (.type description.name)) = .ok description.name :=
    ConstantPool.className_eq_ok.mpr (Symbols.hasClass symbols_closed name_mem_symbols)
  have hinterfaces : description.raw.interfaces.mapM description.symbols.pool.className
      = .ok (description.interfaces.map id) := by
    refine mapM_map_eq_ok _ fun name hname => ConstantPool.className_eq_ok.mpr ?_
    exact Symbols.hasClass symbols_closed (interface_mem_symbols hname)
  have hfields : description.raw.fields.mapM (RawClass.buildField description.symbols.pool)
      = .ok (description.fields.map FieldDescription.model) := by
    exact mapM_map_eq_ok _ fun field hfield =>
      FieldDescription.build_raw (field_symbols_subset hfield)
  have hmethods : description.raw.methods.mapM (RawClass.buildMethod description.raw.context)
      = .ok description.model.methods := by
    rw [context_raw]
    exact mapM_map_eq_ok _ fun method hmethod => MethodDescription.build_raw symbols_closed
      (hfits.bodies method hmethod) (method_symbols_subset hmethod) _
  rw [List.map_id] at hinterfaces
  refine bind_eq_ok.mpr ⟨_, hname, bind_eq_ok.mpr ⟨_, superName_superSlot, ?_⟩⟩
  refine bind_eq_ok.mpr ⟨_, hinterfaces, bind_eq_ok.mpr ⟨_, hfields, ?_⟩⟩
  refine bind_eq_ok.mpr ⟨_, hmethods, bind_eq_ok.mpr ⟨_, sourceFile_attributes, ?_⟩⟩
  simp only [raw, RawClass.classAccess, inMask_toNat]
  rfl

/-- **`load` inverts `write`.**  The class file of a description that `Fits` loads to its `model`:
the names, access flags, fields and methods in order, one instruction per written one with its line
and bootstrap method, and the local variables in the order of their tables.  The fields have the
type names of their descriptors. -/
theorem load_write (unit : String) (description : ClassDescription) (hfits : description.Fits) :
    Class.load unit description.write = .ok description.model ∧
      description.model.fields.map Field.typeName =
        description.fields.map fun field => TypeDescriptor.fieldTypeName field.descriptor := by
  constructor
  · rw [Class.load, ofBytes?_write hfits]
    simp only [build_raw hfits]
  · rw [model, List.map_map]
    rfl

/-- A class with a `long` early in its pool, a constant field, and a method that reads a field and
makes a call linked at run time, with both tables of debug information. -/
def account : ClassDescription :=
  { minorVersion := 0
    majorVersion := 61
    constants := [.long 42]
    flags := 0x0031
    name := "com/example/Account"
    superName := some "java/lang/Object"
    interfaces := ["java/io/Closeable"]
    fields := [
      { flags := 0x0002, name := "balance", descriptor := "J", constantValue := none
        isMarkedSynthetic := false },
      { flags := 0x001a, name := "LIMIT", descriptor := "J", constantValue := some (.long 42)
        isMarkedSynthetic := true }]
    methods := [
      { flags := 0x0001
        name := "report"
        descriptor := "()Ljava/lang/String;"
        body := some {
          maxStack := 3
          maxLocals := 1
          code := [
            .constant (.string "balance: "), .shortLoad .reference ⟨0, by decide⟩,
            .field .getField ⟨"com/example/Account", "balance", "J"⟩,
            .dynamicCall ⟨0, "apply", "(Ljava/lang/String;J)Ljava/lang/String;"⟩ 0,
            .plain 0xb0 [] rfl rfl]
          tables := [.lineNumbers [(3, 8), (0, 7)],
            .localVariables [⟨0, 12, "this", "Lcom/example/Account;", 0⟩]] }
        isMarkedSynthetic := false },
      { flags := 0x1401, name := "close", descriptor := "()V", body := none
        isMarkedSynthetic := false }]
    sourceFile := some "Account.java"
    bootstrapMethods := some [
      { action := 6, kind := .method
        ref := ⟨"com/example/Text", "link", "()Ljava/lang/invoke/CallSite;"⟩
        arguments := [.string "\u0001\u0001"] }] }

theorem load_write_account :
    account.Fits ∧ account.model.fields.map Field.typeName = ["long", "long"] ∧
      Class.load "Account.class" account.write = .ok
      { name := "com/example/Account"
        superName := some "java/lang/Object"
        interfaces := ["java/io/Closeable"]
        access := { isPublic := true, isFinal := true }
        sourceFile := some "Account.java"
        fields := [
          ⟨"balance", "J", ⟨.priv, false, false, false⟩, false⟩,
          ⟨"LIMIT", "J", ⟨.priv, true, true, true⟩, true⟩]
        methods := [
          { name := "report"
            descriptor := "()Ljava/lang/String;"
            access := { visibility := .pub }
            instructions := [
              ⟨0, 0x12, .text "balance: ", some 7⟩, ⟨2, 0x2a, .load 0, some 7⟩,
              ⟨3, 0xb4, .readField ⟨"com/example/Account", "balance", "J", false⟩, some 8⟩,
              ⟨6, 0xba, .dynamicCall ⟨"apply", "(Ljava/lang/String;J)Ljava/lang/String;",
                some "com/example/Text", some "link"⟩, some 8⟩,
              ⟨11, 0xb0, .other, some 8⟩]
            locals := [⟨"this", "Lcom/example/Account;", 0, 0, 12⟩] },
          { name := "close"
            descriptor := "()V"
            access := { visibility := .pub, isAbstract := true, isSynthetic := true }
            instructions := []
            locals := [] }] } := by
  have hfits : account.Fits := by decide +kernel
  obtain ⟨hload, htypes⟩ := load_write "Account.class" account hfits
  refine ⟨hfits, htypes.trans ?_, hload.trans (congrArg Except.ok ?_)⟩
  · cbv
  · cbv

end ClassDescription

end ClassAudit
