import ClassAudit.Proofs.Literal

/-!
# Bootstrap methods are kept apart

The bootstrap table of a class file says which methods link its calls at run time.  Nothing else
depends on it: whatever stands in the table, and whether there is one at all, the class is built or
fails with the same fault, and of the class only the names of the linking methods differ.

## Shape of the proof

`unlinked` forgets the names of the linking methods, in a call, a body, a class.  Building commutes
with forgetting: the class file without its bootstrap tables is built to the unlinked class, with
the same faults (`build_unlinked`).  Two class files that differ in their tables alone are the same
without them, so what they are built to is the same up to forgetting.

What was forgotten is found again by following one instruction: its operand leads to a place in the
table, the handle there to a method (`Links`).
-/

namespace ClassAudit

/-! ## Forgetting the methods that link -/

/-- The operation with the bootstrap method of a `dynamicCall` erased. -/
def Operation.unlinked : Operation → Operation
  | dynamicCall site => .dynamicCall { site with bootstrapOwner := none, bootstrapName := none }
  | operation => operation

/-- The instruction with `Operation.unlinked` applied. -/
def Instruction.unlinked (instruction : Instruction) : Instruction :=
  { instruction with operation := instruction.operation.unlinked }

/-- The method with `Instruction.unlinked` applied to its code. -/
def Method.unlinked (method : Method) : Method :=
  { method with instructions := method.instructions.map Instruction.unlinked }

/-- The class with `Method.unlinked` applied to its methods. -/
def Class.unlinked (c : Class) : Class :=
  { c with methods := c.methods.map Method.unlinked }

/-- The attribute is a `bootstrapMethods`. -/
def Attribute.isBootstrapTable : Attribute → Bool
  | bootstrapMethods _ => true
  | _ => false

/-- The class file without its bootstrap tables. -/
def RawClass.unlinked (raw : RawClass) : RawClass :=
  { raw with attributes := raw.attributes.filter (!·.isBootstrapTable) }

/-! ## Results up to forgetting -/

section Results

variable {ε α β γ δ : Type}

/-- `>>=` commutes with maps of the results when both steps do. -/
theorem bind_eq_map_bind {f : α → γ} {g : β → δ} {x : Except ε α} {y : Except ε γ}
    {next : α → Except ε β} {next' : γ → Except ε δ} (h : y = f <$> x)
    (hnext : ∀ a, next' (f a) = g <$> next a) : (y >>= next') = g <$> (x >>= next) := by
  subst h
  cases x with
  | error e => rfl
  | ok a => exact hnext a

theorem mapM_eq_map_mapM {f : β → γ} {follow : α → Except ε β} {follow' : α → Except ε γ}
    (h : ∀ a, follow' a = f <$> follow a) (entries : List α) :
    entries.mapM follow' = List.map f <$> entries.mapM follow := by
  induction entries with
  | nil => rfl
  | cons entry rest ih =>
    rw [List.mapM_cons, List.mapM_cons]
    exact bind_eq_map_bind (h entry) fun value => bind_eq_map_bind ih fun values => rfl

/-- Two results with equal images under maps fail with the same errors. -/
theorem error_iff_of_map_eq {f : α → γ} {g : β → γ} {x : Except ε α} {y : Except ε β}
    (h : f <$> x = g <$> y) (e : ε) : x = .error e ↔ y = .error e := by
  cases x <;> cases y <;> simp_all [Functor.map, Except.map]

end Results

/-! ## Decoding -/

namespace Code

variable {context : Context} {offset : Nat} {op : UInt8} {code : Bytes}

/-- The context with an empty bootstrap table. -/
def Context.unlinked (context : Context) : Context :=
  { context with bootstrapMethods := [] }

theorem Shape.decode_unlinked (s : Shape) :
    s.decode context.unlinked offset op code
      = Prod.map Operation.unlinked id <$> s.decode context offset op code := by
  by_cases hs : s = .dynamicCall
  · subst hs
    -- The table is only asked for names, after everything that can fail.
    refine bind_eq_map_bind (id_map _).symm fun index => ?_
    refine bind_eq_map_bind ?_ fun operation => rfl
    exact bind_eq_map_bind (id_map _).symm fun call => rfl
  · have hsame : s.decode context.unlinked offset op code = s.decode context offset op code := by
      cases s with
      | dynamicCall => exact absurd rfl hs
      | _ => rfl
    rw [hsame]
    cases hresult : s.decode context offset op code with
    | error fault => rfl
    | ok result =>
      obtain ⟨operation, width⟩ := result
      cases operation with
      | dynamicCall site => exact absurd ((Shape.decode_call hresult).2 site rfl) hs
      | _ => rfl

theorem decodeOne_unlinked :
    decodeOne context.unlinked offset op code
      = Prod.map Operation.unlinked id <$> decodeOne context offset op code := by
  rw [decodeOne_eq, decodeOne_eq, Shape.decode_unlinked]

theorem decodeFrom_unlinked (lines : LineTable) (offset owed : Nat) (code : Bytes) :
    decodeFrom context.unlinked lines offset owed code
      = List.map Instruction.unlinked <$> decodeFrom context lines offset owed code := by
  induction code generalizing offset owed with
  | nil => rw [decodeFrom, decodeFrom]; rfl
  | cons op rest ih =>
    cases owed with
    | succ owed => exact ih (offset + 1) owed
    | zero =>
      rw [decodeFrom, decodeFrom]
      refine bind_eq_map_bind decodeOne_unlinked fun result => ?_
      obtain ⟨operation, width⟩ := result
      dsimp only [Prod.map, id]
      split_ifs
      · rfl
      · exact bind_eq_map_bind (ih (offset + 1) (width - 1)) fun others => rfl

/-- Inversion of `decodeOne` for a `dynamicCall`: the opcode, an index, and a constant that gives
the name, the descriptor and the place in the bootstrap table. -/
theorem exists_of_decodeOne_dynamicCall {site : DynamicCall} {width : Nat}
    (hop : code.head? = some op)
    (h : decodeOne context offset op code = .ok (.dynamicCall site, width)) :
    ∃ high low bootstrap, [Opcode.invokedynamic, high, low] <+: code ∧
      context.pool.HasDynamicCall (high.toNat * 256 + low.toNat) bootstrap site.name
        site.descriptor ∧
      site.bootstrapOwner = (context.bootstrapMethods[bootstrap]?).bind BootstrapMethod.owner ∧
      site.bootstrapName = (context.bootstrapMethods[bootstrap]?).bind BootstrapMethod.name := by
  rw [decodeOne_eq] at h
  have hshape := (Shape.decode_call h).2 site rfl
  have hopcode : ∀ op, shape op = .dynamicCall → op = Opcode.invokedynamic :=
    forall_byte (by decide +kernel)
  obtain rfl := hopcode op hshape
  rw [hshape] at h
  obtain ⟨index, hindex, h⟩ := bind_eq_ok.mp h
  obtain ⟨operation, hoperation, h⟩ := bind_eq_ok.mp h
  obtain ⟨rfl, -⟩ := Prod.mk.inj (Except.ok.inj h)
  obtain ⟨high, low, hhigh, hlow, rfl⟩ := operand2_eq_ok.mp hindex
  obtain ⟨bootstrap, name, descriptor, hcall, hsite⟩ := decodeDynamicCall_eq_ok.mp hoperation
  obtain rfl := Operation.dynamicCall.inj hsite
  obtain ⟨rest, rfl⟩ : ∃ rest, code = Opcode.invokedynamic :: high :: low :: rest := by
    rcases code with _ | ⟨_, _ | ⟨_, _ | ⟨_, rest⟩⟩⟩ <;> simp_all
  exact ⟨high, low, bootstrap, ⟨rest, rfl⟩, hcall, rfl, rfl⟩

end Code

/-! ## Building -/

namespace Attribute

theorem bootstrapHandles_filter (attributes : List Attribute) :
    bootstrapHandles (attributes.filter (!·.isBootstrapTable)) = [] := by
  induction attributes with
  | nil => rfl
  | cons first rest ih => cases first <;> exact ih

theorem sourceFile?_filter (attributes : List Attribute) :
    sourceFile? (attributes.filter (!·.isBootstrapTable)) = sourceFile? attributes := by
  induction attributes with
  | nil => rfl
  | cons first rest ih =>
    cases first with
    | sourceFile name => rfl
    | _ => exact ih

end Attribute

namespace RawClass

theorem buildBody_unlinked (context : Code.Context) (body : Bytes × List Attribute) :
    buildBody context.unlinked body
      = Prod.map (List.map Instruction.unlinked) id <$> buildBody context body := by
  refine bind_eq_map_bind (id_map _).symm fun locals => ?_
  exact bind_eq_map_bind (Code.decodeFrom_unlinked _ 0 0 body.1) fun instructions => rfl

theorem buildMethod_unlinked (context : Code.Context) (member : RawMember) :
    buildMethod context.unlinked member = Method.unlinked <$> buildMethod context member := by
  refine bind_eq_map_bind (mapM_eq_map_mapM (buildBody_unlinked context) _) fun bodies => ?_
  have hlast : (bodies.map (Prod.map (List.map Instruction.unlinked) id)).getLast?.getD ([], [])
      = Prod.map (List.map Instruction.unlinked) id (bodies.getLast?.getD ([], [])) := by
    rw [List.getLast?_map]
    cases bodies.getLast? <;> rfl
  rw [hlast]
  refine bind_eq_map_bind (id_map _).symm fun name => ?_
  exact bind_eq_map_bind (id_map _).symm fun descriptor => rfl

/-- The context of an unlinked class file is the unlinked context. -/
theorem context_unlinked (raw : RawClass) : raw.unlinked.context = raw.context.unlinked := by
  have hnone : Attribute.bootstrapHandles raw.unlinked.attributes = [] :=
    Attribute.bootstrapHandles_filter raw.attributes
  rw [context, hnone]
  rfl

/-- `build` commutes with `unlinked`, and fails with the same fault. -/
theorem build_unlinked (raw : RawClass) : raw.unlinked.build = Class.unlinked <$> raw.build := by
  have hsource : Attribute.sourceFile? raw.unlinked.attributes
      = Attribute.sourceFile? raw.attributes := Attribute.sourceFile?_filter raw.attributes
  unfold build
  rw [context_unlinked, hsource]
  refine bind_eq_map_bind (id_map _).symm fun name => ?_
  refine bind_eq_map_bind (id_map _).symm fun superName => ?_
  refine bind_eq_map_bind (id_map _).symm fun interfaces => ?_
  refine bind_eq_map_bind (id_map _).symm fun fields => ?_
  refine bind_eq_map_bind (mapM_eq_map_mapM (buildMethod_unlinked raw.context) _) fun methods => ?_
  exact bind_eq_map_bind (id_map _).symm fun sourceFile => rfl

end RawClass

/-! ## The method that links a call -/

/-- The owner and the name that the entry `bootstrap` of the table resolves to; `none` past the end
of the table and for a handle that leads to no method. -/
inductive ConstantPool.Links (pool : ConstantPool) (handles : List Nat) (bootstrap : Nat) :
    Option String → Option String → Prop
  | method {handle : Nat} {member : MemberRef} (entry : handles[bootstrap]? = some handle)
      (follows : pool.HasHandle handle member) :
      Links pool handles bootstrap (some member.owner) (some member.name)
  | pastEnd (ended : handles.length ≤ bootstrap) : Links pool handles bootstrap none none
  | dangling {handle : Nat} (entry : handles[bootstrap]? = some handle)
      (leads : ∀ member, ¬ pool.HasHandle handle member) : Links pool handles bootstrap none none

namespace RawClass

theorem links_context (raw : RawClass) (bootstrap : Nat) :
    raw.pool.Links (Attribute.bootstrapHandles raw.attributes) bootstrap
      ((raw.context.bootstrapMethods[bootstrap]?).bind BootstrapMethod.owner)
      ((raw.context.bootstrapMethods[bootstrap]?).bind BootstrapMethod.name) := by
  rw [context, List.getElem?_map]
  cases hentry : (Attribute.bootstrapHandles raw.attributes)[bootstrap]? with
  | none => exact .pastEnd (List.getElem?_eq_none_iff.mp hentry)
  | some handle =>
    rw [Option.map_some, Option.bind_some, Option.bind_some, bootstrapMethod]
    cases hhandle : raw.pool.methodHandle handle with
    | ok member => exact .method hentry (ConstantPool.methodHandle_eq_ok.mp hhandle)
    | error fault =>
      refine .dangling hentry fun member hmember => ?_
      rw [ConstantPool.methodHandle_eq_ok.mpr hmember] at hhandle
      cases hhandle

/-- Every `dynamicCall` of `c` carries the owner and the name that its entry in the bootstrap table
`Links` to.  The entry is given by the operand of the instruction in the last body of the method. -/
def Linked (raw : RawClass) (c : Class) : Prop :=
  ∀ (i : Nat) (method : Method), c.methods[i]? = some method →
    ∀ instruction ∈ method.instructions, ∀ site, instruction.operation = .dynamicCall site →
      ∃ member code nested high low bootstrap, raw.methods[i]? = some member ∧
        (Attribute.bodies member.attributes).getLast? = some (code, nested) ∧
        [Opcode.invokedynamic, high, low] <+: code.drop instruction.offset ∧
        raw.pool.HasDynamicCall (high.toNat * 256 + low.toNat) bootstrap site.name
          site.descriptor ∧
        raw.pool.Links (Attribute.bootstrapHandles raw.attributes) bootstrap site.bootstrapOwner
          site.bootstrapName

/-- A method with instructions has a last body. -/
theorem exists_body_of_buildMethod {context : Code.Context} {member : RawMember} {method : Method}
    {instruction : Instruction} (h : buildMethod context member = .ok method)
    (hmem : instruction ∈ method.instructions) :
    ∃ body, (Attribute.bodies member.attributes).getLast? = some body := by
  cases hlast : (Attribute.bodies member.attributes).getLast? with
  | some body => exact ⟨body, rfl⟩
  | none =>
    rw [List.getLast?_eq_none_iff] at hlast
    obtain ⟨bodies, hbodies, h⟩ := bind_eq_ok.mp h
    rw [hlast] at hbodies
    obtain rfl := Except.ok.inj hbodies
    obtain ⟨_, -, h⟩ := bind_eq_ok.mp h
    obtain ⟨_, -, h⟩ := bind_eq_ok.mp h
    obtain rfl := Except.ok.inj h
    exact absurd hmem List.not_mem_nil

theorem linked_of_build {raw : RawClass} {c : Class} (h : raw.build = .ok c) : raw.Linked c := by
  intro i method hmethod instruction hmem site hsite
  have hpairs := (forall₂_of_mapM (methods_of_build h)).flip
  obtain ⟨member, hmember, hbuilt⟩ := exists_getElem?_of_forall₂ hpairs hmethod
  obtain ⟨⟨code, nested⟩, hlast⟩ := exists_body_of_buildMethod hbuilt hmem
  obtain ⟨hop, width, hone⟩ := Code.decodeOne_of_mem (Nat.zero_le _)
    (decode_of_buildMethod hbuilt hlast) instruction hmem
  rw [hsite] at hone
  rw [← List.head?_drop] at hop
  obtain ⟨high, low, bootstrap, hbytes, hcall, howner, hname⟩ :=
    Code.exists_of_decodeOne_dynamicCall hop hone
  refine ⟨member, code, nested, high, low, bootstrap, hmember, hlast, hbytes, hcall, ?_⟩
  rw [howner, hname]
  exact raw.links_context bootstrap

/-- **Bootstrap tables affect the bootstrap names only.**  Let `attributes` agree with those of
`raw` up to bootstrap tables.  Then `build` fails with the same fault on either, or succeeds on both
with classes that are equal up to `unlinked`, and each is `Linked` to its own table. -/
theorem build_relinked (raw : RawClass) (attributes : List Attribute)
    (hsame : attributes.filter (!·.isBootstrapTable)
      = raw.attributes.filter (!·.isBootstrapTable)) :
    (∀ fault, { raw with attributes }.build = .error fault ↔ raw.build = .error fault) ∧
    ∀ c, raw.build = .ok c → raw.Linked c ∧
      ∃ c', { raw with attributes }.build = .ok c' ∧ c'.unlinked = c.unlinked ∧
        Linked { raw with attributes } c' := by
  have hunlinked : unlinked { raw with attributes } = raw.unlinked := by
    rw [unlinked, unlinked, hsame]
  have hbuild : Class.unlinked <$> { raw with attributes }.build
      = Class.unlinked <$> raw.build := by
    rw [← build_unlinked, ← build_unlinked, hunlinked]
  refine ⟨error_iff_of_map_eq hbuild, fun c hc => ⟨linked_of_build hc, ?_⟩⟩
  rw [hc] at hbuild
  obtain ⟨c', hc', hforgotten⟩ := map_eq_ok.mp hbuild
  exact ⟨c', hc', hforgotten, linked_of_build hc'⟩

/-- A class file with two `invokedynamic` instructions, for entries 0 and 1 of the bootstrap table.
Slot 7 of the pool is a method handle, slot 2 is not. -/
def callerFile (attributes : List Attribute) : RawClass :=
  { pool := .ofConstants [.utf8 "com/example/Text", .classInfo 1, .utf8 "link", .utf8 "()V",
      .nameAndType 3 4, .methodRef 2 5, .methodHandle 6 6, .utf8 "run", .nameAndType 8 4,
      .invokeDynamic 0 9, .invokeDynamic 1 9]
    flags := 0x0020
    thisClass := 2
    superClass := 0
    interfaces := []
    fields := []
    methods := [{
      flags := 0x0008
      name := 8
      descriptor := 4
      attributes := [.code [0xba, 0, 10, 0, 0, 0xba, 0, 11, 0, 0, 0xb1] []] }]
    attributes }

/-- The class of `callerFile`, with both calls linked to one method. -/
def caller (owner name : Option String) : Class :=
  { name := "com/example/Text"
    superName := none
    interfaces := []
    access := {}
    sourceFile := none
    fields := []
    methods := [{
      name := "run"
      descriptor := "()V"
      access := { isStatic := true }
      instructions := [⟨0, 0xba, .dynamicCall ⟨"run", "()V", owner, name⟩, none⟩,
        ⟨5, 0xba, .dynamicCall ⟨"run", "()V", owner, name⟩, none⟩, ⟨10, 0xb1, .other, none⟩]
      locals := [] }] }

/-- With two handles both calls have names.  With a table of one entry that is no handle neither
has, and `build` still succeeds. -/
theorem build_relinked_caller :
    (callerFile [.bootstrapMethods [7, 7]]).build
        = .ok (caller (some "com/example/Text") (some "link")) ∧
      ∃ c, (callerFile [.bootstrapMethods [2]]).build = .ok c ∧ c.unlinked = caller none none ∧
        (callerFile [.bootstrapMethods [2]]).Linked c := by
  have hbuild : (callerFile [.bootstrapMethods [7, 7]]).build
      = .ok (caller (some "com/example/Text") (some "link")) := by
    cbv
  obtain ⟨-, hok⟩ := build_relinked (callerFile [.bootstrapMethods [7, 7]])
    [.bootstrapMethods [2]] rfl
  exact ⟨hbuild, (hok _ hbuild).2⟩

end RawClass

end ClassAudit
