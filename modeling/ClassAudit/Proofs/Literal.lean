import ClassAudit.Proofs.Loading
import ClassAudit.Proofs.Tiling

/-!
# String constants survive loading

A text that fits into a class file comes back from it as it was, whatever characters it is made of.
The file holds the text in modified UTF-8, a string constant leads to that entry, and an instruction
of a method body loads the constant; what is loaded is the instruction with exactly that text.

## Shape of the argument

Of class files in general nothing is known but their bytes.  `HoldsText` says at which slot of the
pool an entry with some bytes lies, counted over the entries in front of it, and reading the pool
finds at that slot the text that the bytes are written for.  From there the index in the instruction
is followed forwards, through the string constant to the text, and the loaded class is followed
backwards, from the instructions of a method to the bytes they were decoded from.

That such class files exist for every text, and load, is shown by those that are written from a
description.
-/

namespace ClassAudit

/-! ## Entries of a pool by their bytes -/

namespace ConstantPool

/-- `bytes` are consecutive constants, and the list holds the slots that they fill. -/
inductive Fills : Bytes → List Constant → Prop
  | nil : Fills [] []
  | cons {bytes rest : Bytes} {constant : Constant} {slots : List Constant}
      (first : Reads Constant.read bytes constant) (others : Fills rest slots) :
      Fills (bytes ++ rest) (constant.fill ++ slots)

/-- `readSlots` on bytes that begin with some that `Fills` starts with their slots. -/
theorem Fills.exists_of_readSlots {front more rest : Bytes} {before slots : List Constant}
    {count : Nat} (h : Fills front before) (hcount : before.length ≤ count)
    (hread : readSlots count (front ++ more) = some (slots, rest)) :
    ∃ others, slots = before ++ others ∧
      readSlots (count - before.length) more = some (others, rest) := by
  induction h generalizing count slots with
  | nil => exact ⟨slots, rfl, hread⟩
  | @cons bytes others constant before first _ ih =>
    rw [List.length_append, Constant.length_fill] at hcount ⊢
    have hpos := constant.slots_pos
    obtain ⟨count, rfl⟩ : ∃ n, count = n + 1 := ⟨count - 1, by omega⟩
    rw [readSlots_succ, Reader.bind_eq_some] at hread
    obtain ⟨_, _, hfirst, hread⟩ := hread
    rw [List.append_assoc, first] at hfirst
    obtain ⟨rfl, rfl⟩ := Prod.mk.inj (Option.some.inj hfirst)
    obtain ⟨tail, _, htail, hslots⟩ := Reader.bind_eq_some.mp hread
    obtain ⟨rfl, rfl⟩ := Prod.mk.inj (Option.some.inj hslots)
    -- A wide constant takes two of the slots that are counted, and leaves the others to the rest.
    obtain ⟨behind, rfl, hbehind⟩ := ih (by omega) htail
    rw [Nat.sub_sub] at hbehind
    exact ⟨behind, (List.append_assoc _ _ _).symm, hbehind⟩

end ConstantPool

/-- Slot `slot` of the pool of the file is a text entry with the given bytes. -/
inductive HoldsText : Bytes → Nat → Bytes → Prop
  | intro {version front encoded rest : Bytes} {count : Nat} {before : List Constant}
      (version_length : version.length = 4) (count_lt : count < 65536)
      (fills : ConstantPool.Fills front before) (inside : before.length + 1 < count) :
      HoldsText
        (bytes4 RawClass.magic ++ (version ++ (bytes2 count ++
          (front ++ (1 :: (bytes2 encoded.length ++ encoded) ++ rest)))))
        (before.length + 1) encoded

namespace RawClass

/-- The pool is read behind the magic number and the version. -/
theorem read_pool_of_ofBytes? {version bytes : Bytes} {raw : RawClass}
    (hversion : version.length = 4)
    (h : ofBytes? (bytes4 magic ++ (version ++ bytes)) = some raw) :
    ∃ rest, ConstantPool.read bytes = some (raw.pool, rest) := by
  have hread := Reader.whole_eq_some_iff.mp h
  obtain ⟨_, _, hmagic, hread⟩ := Reader.bind_eq_some.mp hread
  rw [Reads.u4 (by decide)] at hmagic
  obtain ⟨rfl, rfl⟩ := Prod.mk.inj (Option.some.inj hmagic)
  rw [if_neg (not_not.mpr rfl)] at hread
  obtain ⟨_, _, hskipped, hread⟩ := Reader.bind_eq_some.mp hread
  rw [← hversion, Reads.skip] at hskipped
  obtain ⟨rfl, rfl⟩ := Prod.mk.inj (Option.some.inj hskipped)
  obtain ⟨pool, rest, hpool, hread⟩ := Reader.bind_eq_some.mp hread
  -- Nothing that is read behind the pool changes it.
  simp only [Reader.bind_eq_some] at hread
  obtain ⟨_, _, -, _, _, -, _, _, -, _, _, -, _, _, -, _, _, -, _, _, -, hread⟩ := hread
  obtain ⟨rfl, -⟩ := Prod.mk.inj (Option.some.inj hread)
  exact ⟨rest, hpool⟩

/-- A text entry that `HoldsText` reads as the text it encodes. -/
theorem hasText_of_holdsText {file : Bytes} {raw : RawClass} {slot : Nat} {text : String}
    (hlength : (Text.encodeModified text.toList).length ≤ 65535) (h : ofBytes? file = some raw)
    (hholds : HoldsText file slot (Text.encodeModified text.toList)) :
    raw.pool.HasText slot text := by
  cases hholds with
  | @intro version front _ rest count before hversion hcount hfills hinside =>
    obtain ⟨_, hread⟩ := read_pool_of_ofBytes? hversion h
    obtain ⟨_, _, hnumber, hread⟩ := Reader.bind_eq_some.mp hread
    rw [Reads.u2 hcount] at hnumber
    obtain ⟨rfl, rfl⟩ := Prod.mk.inj (Option.some.inj hnumber)
    obtain ⟨count, rfl⟩ : ∃ n, count = n + 1 := ⟨count - 1, by omega⟩
    obtain ⟨slots, _, hslots, hread⟩ := Reader.bind_eq_some.mp hread
    obtain ⟨hpool, -⟩ := Prod.mk.inj (Option.some.inj hread)
    obtain ⟨others, rfl, hothers⟩ := hfills.exists_of_readSlots (by omega) hslots
    -- The entry with the text is the first of those that are left.
    obtain ⟨left, hleft⟩ : ∃ n, count - before.length = n + 1 :=
      ⟨count - before.length - 1, by omega⟩
    rw [hleft, ConstantPool.readSlots_succ, Reader.bind_eq_some] at hothers
    obtain ⟨_, _, hfirst, hothers⟩ := hothers
    have hconstant : Reads Constant.read (Constant.utf8 text).bytes (.utf8 text) :=
      Constant.reads_bytes (Nat.lt_succ_of_le hlength)
    obtain ⟨rfl, rfl⟩ := Prod.mk.inj (Option.some.inj (hfirst.symm.trans (hconstant rest)))
    obtain ⟨_, _, -, hothers⟩ := Reader.bind_eq_some.mp hothers
    obtain ⟨rfl, -⟩ := Prod.mk.inj (Option.some.inj hothers)
    rw [ConstantPool.HasText, ConstantPool.get?, ← hpool]
    simp [Constant.fill, Constant.isWide]

end RawClass

/-! ## From an instruction to its text -/

namespace Code

/-- `decodeOne` on an `ldc_w` of a string constant. -/
theorem decodeOne_literal {context : Context} {index : Nat} {text : String}
    (hindex : index < 65536) (h : context.pool.HasLiteral index (some text)) (offset : Nat)
    (rest : Bytes) :
    decodeOne context offset 0x13 (0x13 :: bytes2 index ++ rest) = .ok (.text text, 3) :=
  @decodeOne_bytes (Resolved context.pool) context (fun _ operand => operand.index)
    (fun _ operand => operand.value) (.wideConstant ⟨index, some text, hindex, h⟩) offset rest
    ⟨hindex, h⟩ (by rw [Raw.width]; decide)

/-- The element at index `j` of `listFrom` comes from index `j` of the code. -/
theorem getElem?_listFrom {ρ : Operand → Type}
    (value : (operand : Operand) → ρ operand → operand.Value) (methods : List BootstrapMethod)
    (lines : LineTable) (offset : Nat) {code : List (Raw ρ)} {j : Nat} {raw : Raw ρ}
    (h : code[j]? = some raw) :
    ∃ position, (listFrom value methods lines offset code)[j]? = some
      { offset := position
        opcode := raw.opcode
        operation := raw.operation value methods position
        line := lines.lineAt position } := by
  induction code generalizing offset j with
  | nil => simp at h
  | cons first rest ih =>
    cases j with
    | zero =>
      obtain rfl := Option.some.inj h
      exact ⟨offset, rfl⟩
    | succ j => exact ih (offset + first.width offset) h

end Code

/-! ## From a loaded method to its bytes -/

/-- `List.Forall₂` relates the elements at equal indices. -/
theorem exists_getElem?_of_forall₂ {α β : Type} {R : α → β → Prop} {as : List α} {bs : List β}
    (h : List.Forall₂ R as bs) {i : Nat} {a : α} (ha : as[i]? = some a) :
    ∃ b, bs[i]? = some b ∧ R a b := by
  obtain ⟨hi, rfl⟩ := List.getElem?_eq_some_iff.mp ha
  have hi' := h.length_eq ▸ hi
  exact ⟨bs[i], List.getElem?_eq_getElem hi', h.get hi hi'⟩

/-- `load` succeeds iff `ofBytes?` and `build` do. -/
theorem Class.load_eq_ok_iff {unit : String} {file : Bytes} {c : Class} :
    Class.load unit file = .ok c ↔
      ∃ raw, RawClass.ofBytes? file = some raw ∧ raw.build = .ok c := by
  rw [Class.load]
  cases hfile : RawClass.ofBytes? file with
  | none => simp
  | some raw => cases hbuild : raw.build <;> simp [hbuild]

namespace RawClass

/-- The methods of a built class are `buildMethod` of the members, in order. -/
theorem methods_of_build {raw : RawClass} {c : Class} (h : raw.build = .ok c) :
    raw.methods.mapM (buildMethod raw.context) = .ok c.methods := by
  obtain ⟨_, -, h⟩ := bind_eq_ok.mp h
  obtain ⟨_, -, h⟩ := bind_eq_ok.mp h
  obtain ⟨_, -, h⟩ := bind_eq_ok.mp h
  obtain ⟨_, -, h⟩ := bind_eq_ok.mp h
  obtain ⟨methods, hmethods, h⟩ := bind_eq_ok.mp h
  obtain ⟨_, -, h⟩ := bind_eq_ok.mp h
  obtain rfl := Except.ok.inj h
  exact hmethods

/-- The instructions of a method decode from its last body. -/
theorem decode_of_buildMethod {context : Code.Context} {member : RawMember} {method : Method}
    {code : Bytes} {nested : List Attribute} (h : buildMethod context member = .ok method)
    (hlast : (Attribute.bodies member.attributes).getLast? = some (code, nested)) :
    Code.decode context (.ofEntries (Attribute.lines nested)) code = .ok method.instructions := by
  obtain ⟨bodies, hbodies, h⟩ := bind_eq_ok.mp h
  have hpairs := forall₂_of_mapM hbodies
  -- The results are as many as the bodies, so the last of them belongs to the last body.
  rw [List.getLast?_eq_getElem?] at hlast
  obtain ⟨⟨instructions, locals⟩, hbody, hbuilt⟩ := exists_getElem?_of_forall₂ hpairs hlast
  rw [hpairs.length_eq, ← List.getLast?_eq_getElem?] at hbody
  rw [hbody] at h
  obtain ⟨_, -, h⟩ := bind_eq_ok.mp h
  obtain ⟨_, -, h⟩ := bind_eq_ok.mp h
  obtain rfl := Except.ok.inj h
  obtain ⟨_, -, hbuilt⟩ := bind_eq_ok.mp hbuilt
  obtain ⟨_, hdecoded, hbuilt⟩ := bind_eq_ok.mp hbuilt
  obtain ⟨rfl, -⟩ := Prod.mk.inj (Except.ok.inj hbuilt)
  exact hdecoded

/-- In a built class, every `ldc_w` of `index` has the operation `text`. -/
theorem operation_of_literal {raw : RawClass} {c : Class} {index i : Nat} {text : String}
    {member : RawMember} {code : Bytes} {nested : List Attribute} (hindex : index < 65536)
    (hliteral : raw.pool.HasLiteral index (some text)) (hbuild : raw.build = .ok c)
    (hmember : raw.methods[i]? = some member)
    (hlast : (Attribute.bodies member.attributes).getLast? = some (code, nested)) :
    ∃ method, c.methods[i]? = some method ∧ ∀ instruction ∈ method.instructions,
      0x13 :: bytes2 index <+: code.drop instruction.offset →
        instruction.opcode = 0x13 ∧ instruction.operation = .text text := by
  have hpairs := forall₂_of_mapM (methods_of_build hbuild)
  obtain ⟨method, hmethod, hbuilt⟩ := exists_getElem?_of_forall₂ hpairs hmember
  refine ⟨method, hmethod, fun instruction hmem hbytes => ?_⟩
  obtain ⟨rest, hrest⟩ := hbytes
  obtain ⟨hop, width, hone⟩ := Code.decodeOne_of_mem (Nat.zero_le _)
    (decode_of_buildMethod hbuilt hlast) instruction hmem
  have hopcode : instruction.opcode = 0x13 := by
    rw [← List.head?_drop, ← hrest] at hop
    exact (Option.some.inj hop).symm
  have hliteral : Code.decodeOne raw.context instruction.offset 0x13 _ = _ :=
    Code.decodeOne_literal hindex hliteral instruction.offset rest
  rw [hopcode, ← hrest, hliteral] at hone
  exact ⟨hopcode, (Prod.mk.inj (Except.ok.inj hone)).1.symm⟩

end RawClass

/-! ## Class files that load a text -/

/-- A constant fills at most two slots. -/
theorem ConstantPool.length_slotsOf_le (constants : List Constant) :
    (slotsOf constants).length ≤ 2 * constants.length := by
  induction constants with
  | nil => exact le_rfl
  | cons constant rest ih =>
    have htwo : constant.slots ≤ 2 := by
      unfold Constant.slots
      split <;> decide
    rw [slotsOf] at ih ⊢
    rw [List.flatMap_cons, List.length_append, Constant.length_fill, List.length_cons]
    omega

namespace Symbols

theorem slotCount_le (symbols : Symbols) : symbols.slotCount ≤ 2 * symbols.length + 1 := by
  have hslots := ConstantPool.length_slotsOf_le symbols.constants
  have hlength : symbols.constants.length = symbols.length := List.length_map _
  rw [slotCount]
  omega

theorem length_collect_le (symbols : List Symbol) :
    (collect symbols).length ≤ (symbols.flatMap Symbol.family).length := by
  rw [collect, Text.length_distinct]
  exact List.toFinset_card_le _

end Symbols

namespace ClassDescription

/-- Instruction `j` of method `i` is an `ldc_w` of the string constant `text`. -/
def LoadsAt (description : ClassDescription) (i j : Nat) (text : String) : Prop :=
  ∃ method ∈ description.methods[i]?, ∃ body ∈ method.body,
    body.code[j]? = some (.wideConstant (.string text))

/-- A written description loads, with the operation `text` where it `LoadsAt`. -/
theorem exists_load_write (unit : String) {description : ClassDescription} {i j : Nat}
    {text : String} (hfits : description.Fits) (h : description.LoadsAt i j text) :
    ∃ c method instruction, Class.load unit description.write = .ok c ∧
      c.methods[i]? = some method ∧ method.instructions[j]? = some instruction ∧
      instruction.opcode = 0x13 ∧ instruction.operation = .text text := by
  obtain ⟨method, hmethod, body, hbody, hraw⟩ := h
  have hload : Class.load unit description.write = .ok description.model :=
    Class.load_eq_ok_iff.mpr ⟨_, ofBytes?_write hfits, build_raw hfits⟩
  have hmodel : description.model.methods[i]? = some (method.model
      ((description.bootstrapMethods.getD []).map BootstrapDescription.model)) := by
    rw [model, List.getElem?_map, Option.mem_def.mp hmethod]
    rfl
  obtain ⟨position, hinstruction⟩ := Code.getElem?_listFrom Code.Reference.value
    ((description.bootstrapMethods.getD []).map BootstrapDescription.model) body.lineTable 0 hraw
  refine ⟨_, _, ⟨position, 0x13, .text text, body.lineTable.lineAt position⟩, hload, hmodel, ?_,
    rfl, rfl⟩
  rw [MethodDescription.model, Option.mem_def.mp hbody]
  exact hinstruction

/-- A class whose one method loads `text`, drops it and loops. -/
def literalClass (text : String) : ClassDescription :=
  { minorVersion := 0
    majorVersion := 61
    constants := [.string text]
    flags := 0x0021
    name := "com/example/Greeting"
    superName := some "java/lang/Object"
    interfaces := []
    fields := []
    methods := [
      { flags := 0x0009
        name := "run"
        descriptor := "()V"
        body := some {
          maxStack := 1
          maxLocals := 0
          code := [.wideConstant (.string text), .plain 0x57 [] rfl rfl,
            .plain 0xa7 [0xff, 0xfc] rfl rfl]
          tables := [] }
        isMarkedSynthetic := false }]
    sourceFile := none
    bootstrapMethods := none }

theorem literalClass_loadsAt (text : String) : (literalClass text).LoadsAt 0 0 text :=
  ⟨_, rfl, _, rfl, rfl⟩

/-- `literalClass text` satisfies `Fits` for every text that fits a text entry. -/
theorem literalClass_fits {text : String}
    (hlength : (Text.encodeModified text.toList).length ≤ 65535) : (literalClass text).Fits := by
  have hcount : (literalClass text).symbols.slotCount < 65536 := by
    have hslots := Symbols.slotCount_le (literalClass text).symbols
    have hsymbols : (literalClass text).symbols.length ≤ 11 := Symbols.length_collect_le _
    omega
  refine ⟨hcount, ?_, ?_, ?_, ?_, ?_, ?_, ?_⟩
  · -- All texts but the given one are fixed.
    have hshort : ∀ symbol ∈ [Symbol.text text, .string text, .text "com/example/Greeting",
        .type "com/example/Greeting", .text "java/lang/Object", .type "java/lang/Object",
        .text "run", .text "()V", .text "Code", .text text, .string text], symbol.Short := by
      have htext : (Symbol.text text).Short := Nat.lt_succ_of_le hlength
      simp only [List.forall_mem_cons]
      exact ⟨htext, trivial, by decide, trivial, by decide, trivial, by decide, by decide,
        by decide, htext, trivial, by simp⟩
    exact fun symbol hsymbol => hshort symbol (Text.mem_distinct.mp hsymbol)
  · exact Nat.zero_lt_succ _
  · exact Nat.zero_lt_succ _
  · exact Nat.succ_lt_succ (Nat.zero_lt_succ _)
  · intro method hmethod body hbody
    obtain rfl := List.mem_singleton.mp hmethod
    obtain rfl := Option.some.inj hbody
    refine ⟨?_, ?_, Nat.zero_lt_succ _, fun _ h => absurd h List.not_mem_nil⟩
    · show 7 < 4294967296
      decide
    · have hsymbol : .string text ∈ (literalClass text).symbols :=
        Symbols.mem_collect List.mem_cons_self
      simp only [List.forall_mem_cons]
      exact ⟨(Symbols.slot_lt hsymbol).trans hcount, trivial, trivial, by simp⟩
  · rintro _ ⟨⟩
  · rintro _ ⟨⟩

end ClassDescription

/-- **Texts survive loading.**  Let the modified UTF-8 of `text` fit 65535 bytes.  Some description
that `Fits` `LoadsAt` it, and every written description that `LoadsAt` it loads to a class with the
operation `text` there.  In any file that `ofBytes?` accepts and whose pool `HoldsText`, an `ldc_w`
of the string constant decodes to `text`, and if the file loads, every such instruction has this
operation. -/
theorem load_literal (unit text : String)
    (hlength : (Text.encodeModified text.toList).length ≤ 65535) :
    (∃ description : ClassDescription, description.Fits ∧ description.LoadsAt 0 0 text) ∧
    (∀ (description : ClassDescription) (i j : Nat), description.Fits →
      description.LoadsAt i j text →
        ∃ c method instruction, Class.load unit description.write = .ok c ∧
          c.methods[i]? = some method ∧ method.instructions[j]? = some instruction ∧
          instruction.opcode = 0x13 ∧ instruction.operation = .text text) ∧
    ∀ (file : Bytes) (raw : RawClass) (slot index : Nat), RawClass.ofBytes? file = some raw →
      HoldsText file slot (Text.encodeModified text.toList) → index < 65536 →
      raw.pool.get? index = some (.string slot) →
        (∀ (offset : Nat) (rest : Bytes),
          Code.decodeOne raw.context offset 0x13 (0x13 :: bytes2 index ++ rest)
            = .ok (.text text, 3)) ∧
        ∀ (c : Class) (i : Nat) (member : RawMember) (code : Bytes) (nested : List Attribute),
          Class.load unit file = .ok c → raw.methods[i]? = some member →
          (Attribute.bodies member.attributes).getLast? = some (code, nested) →
            ∃ method, c.methods[i]? = some method ∧ ∀ instruction ∈ method.instructions,
              0x13 :: bytes2 index <+: code.drop instruction.offset →
                instruction.opcode = 0x13 ∧ instruction.operation = .text text := by
  refine ⟨?_, fun description i j hfits h => ClassDescription.exists_load_write unit hfits h, ?_⟩
  · exact ⟨_, ClassDescription.literalClass_fits hlength,
      ClassDescription.literalClass_loadsAt text⟩
  · intro file raw slot index hraw hholds hindex hstring
    have hliteral : raw.pool.HasLiteral index (some text) :=
      ⟨slot, hstring, RawClass.hasText_of_holdsText hlength hraw hholds⟩
    refine ⟨Code.decodeOne_literal hindex hliteral, ?_⟩
    intro c i member code nested hload hmember hlast
    obtain ⟨_, hfile, hbuild⟩ := Class.load_eq_ok_iff.mp hload
    obtain rfl := Option.some.inj (hraw.symm.trans hfile)
    exact RawClass.operation_of_literal hindex hliteral hbuild hmember hlast

/-- Characters of one, two and three bytes, NUL, and one outside the basic plane. -/
def mixedText : String :=
  "A\u0000é€𝄞"

/-- The written `literalClass mixedText` holds the text in slot 1. -/
theorem holdsText_mixedText :
    HoldsText (ClassDescription.literalClass mixedText).write 1
      (Text.encodeModified mixedText.toList) := by
  have hfile : (ClassDescription.literalClass mixedText).write
      = bytes4 RawClass.magic ++ ([0, 0, 0, 61] ++ (bytes2 10 ++ ([] ++
        (1 :: (bytes2 (Text.encodeModified mixedText.toList).length ++
          Text.encodeModified mixedText.toList) ++
          (ClassDescription.literalClass mixedText).write.drop 27)))) := by
    decide +kernel
  rw [hfile]
  exact HoldsText.intro rfl (by decide) .nil (by decide)

theorem load_literal_mixedText :
    Text.encodeModified mixedText.toList
        = [0x41, 0xC0, 0x80, 0xC3, 0xA9, 0xE2, 0x82, 0xAC, 0xED, 0xA0, 0xB4, 0xED, 0xB4, 0x9E] ∧
      ∃ c method instruction,
        Class.load "Greeting.class" (ClassDescription.literalClass mixedText).write = .ok c ∧
        c.methods[0]? = some method ∧ method.instructions[0]? = some instruction ∧
        instruction.operation = .text mixedText ∧
        ∀ instruction ∈ method.instructions,
          0x13 :: bytes2 2 <+: [0x13, 0, 2, 0x57, 0xa7, 0xff, 0xfc].drop instruction.offset →
            instruction.operation = .text mixedText := by
  have hencoded : Text.encodeModified mixedText.toList
      = [0x41, 0xC0, 0x80, 0xC3, 0xA9, 0xE2, 0x82, 0xAC, 0xED, 0xA0, 0xB4, 0xED, 0xB4, 0x9E] := by
    decide +kernel
  have hlength : (Text.encodeModified mixedText.toList).length ≤ 65535 := by
    rw [hencoded]
    decide
  have hfits := ClassDescription.literalClass_fits hlength
  obtain ⟨-, hwritten, hread⟩ := load_literal "Greeting.class" mixedText hlength
  obtain ⟨c, method, instruction, hload, hmethod, hinstruction, -, htext⟩ :=
    hwritten _ 0 0 hfits (ClassDescription.literalClass_loadsAt mixedText)
  obtain ⟨-, hloaded⟩ := hread _ _ 1 2 (ClassDescription.ofBytes?_write hfits) holdsText_mixedText
    (by decide) (by decide +kernel)
  obtain ⟨_, hmethod', hall⟩ := hloaded c 0 _ [0x13, 0, 2, 0x57, 0xa7, 0xff, 0xfc] [] hload rfl
    (by cbv)
  obtain rfl := Option.some.inj (hmethod.symm.trans hmethod')
  exact ⟨hencoded, c, method, instruction, hload, hmethod, hinstruction, htext,
    fun other hother hbytes => (hall other hother hbytes).2⟩

end ClassAudit
