import ClassAudit.Proofs.DeadVariable
import ClassAudit.Proofs.Literal
import ClassAudit.Proofs.SlotOverflow
import ClassAudit.Proofs.Spelling
import Mathlib

/-!
# Slots of arguments

A call leaves its arguments in the first slots of the method: the receiver, unless the method is
static, and behind it the parameters one after the other, each in as many slots as its type takes.
An argument need not be read, so the check of local variables that are never read starts behind
these slots.

`Method.firstLocalSlot?` adds them up in 16 bits.  Where the parameters take at most 65535 slots,
their own sum fits.  The receiver is one slot more, and there is one case in which it does not fit:
an instance method whose parameters take exactly 65535 slots.  The check of its class aborts then,
and every analysis that makes it.  There are class files with such methods, since a descriptor has
one letter for two slots.

## Shape of the proof

`TypeDescriptor.exists_heldAt_iff` brings the places of the parameters together with the number of
their slots, by induction on the parameters; so a slot is that of an argument iff it is below
`Method.parameterWidth`.  `Method.abortsUnless_firstLocalSlot?` compares that number with 65535.
-/

namespace ClassAudit

/-! ## Where arguments lie -/

namespace TypeDescriptor

variable {type : TypeDescriptor} {types : List TypeDescriptor} {position slot : Nat}

/-- The sum of the `width`s of `types`. -/
def totalWidth (types : List TypeDescriptor) : Nat :=
  (types.map width).sum

/-- With values of `types` laid out from slot 0 on, the value at `position` covers `slot`. -/
def HeldAt (types : List TypeDescriptor) (position slot : Nat) : Prop :=
  ∃ type, types[position]? = some type ∧ totalWidth (types.take position) ≤ slot ∧
    slot < totalWidth (types.take position) + type.width

theorem totalWidth_cons : totalWidth (type :: types) = type.width + totalWidth types := rfl

theorem heldAt_cons_zero : HeldAt (type :: types) 0 slot ↔ slot < type.width := by
  simp [HeldAt, totalWidth]

theorem heldAt_cons_succ :
    HeldAt (type :: types) (position + 1) slot ↔
      type.width ≤ slot ∧ HeldAt types position (slot - type.width) := by
  simp only [HeldAt, List.getElem?_cons_succ, List.take_succ_cons, totalWidth_cons]
  constructor
  · rintro ⟨own, hown, hstart, hend⟩
    exact ⟨by omega, own, hown, by omega, by omega⟩
  · rintro ⟨hbehind, own, hown, hstart, hend⟩
    exact ⟨own, hown, by omega, by omega⟩

/-- `HeldAt` covers exactly the slots below `totalWidth`. -/
theorem exists_heldAt_iff : (∃ position, HeldAt types position slot) ↔ slot < totalWidth types := by
  induction types generalizing slot with
  | nil => simp [HeldAt, totalWidth]
  | cons type rest ih =>
    rw [totalWidth_cons]
    constructor
    · rintro ⟨_ | position, hheld⟩
      · have hslot := heldAt_cons_zero.mp hheld
        omega
      · obtain ⟨hbehind, hrest⟩ := heldAt_cons_succ.mp hheld
        have hslot := ih.mp ⟨position, hrest⟩
        omega
    · intro hslot
      by_cases hhere : slot < type.width
      · exact ⟨0, heldAt_cons_zero.mpr hhere⟩
      · have hbehind : type.width ≤ slot := Nat.le_of_not_lt hhere
        obtain ⟨position, hheld⟩ := ih.mpr (show slot - type.width < totalWidth rest by omega)
        exact ⟨position + 1, heldAt_cons_succ.mpr ⟨hbehind, hheld⟩⟩

end TypeDescriptor

/-- The `totalWidth` of the parameters. -/
def MethodDescriptor.width (type : MethodDescriptor) : Nat :=
  TypeDescriptor.totalWidth type.parameters

namespace Method

variable {method : Method} {type : MethodDescriptor} {entry : LocalVariable} {slot : Nat}

/-- The width of the receiver: 0 for a static method, 1 for an instance method. -/
def receiverWidth (method : Method) : Nat :=
  if method.access.isStatic then 0 else 1

/-- The parameter types of `type?`; the empty list when the descriptor does not parse. -/
def parameterTypes (method : Method) : List TypeDescriptor :=
  match method.type? with
  | some type => type.parameters
  | none => []

/-- The slots that a call fills: slot 0 with the receiver, and behind it the slots that `HeldAt`
gives the parameters. -/
inductive ArgumentSlot (method : Method) : Nat → Prop
  | receiver (hinstance : method.access.isStatic = false) : ArgumentSlot method 0
  | parameter {position slot : Nat}
      (hheld : TypeDescriptor.HeldAt method.parameterTypes position slot) :
      ArgumentSlot method (method.receiverWidth + slot)

theorem receiverWidth_of_static (hstatic : method.access.isStatic = true) :
    method.receiverWidth = 0 :=
  if_pos hstatic

theorem receiverWidth_of_instance (hinstance : method.access.isStatic = false) :
    method.receiverWidth = 1 := by
  simp [receiverWidth, hinstance]

theorem parameterWidth_eq (method : Method) :
    method.parameterWidth
      = method.receiverWidth + TypeDescriptor.totalWidth method.parameterTypes := by
  rw [parameterWidth, parameterTypes, receiverWidth]
  rcases method.type? with _ | type <;> rfl

theorem parameterWidth_of_type (htype : method.type? = some type) :
    method.parameterWidth = method.receiverWidth + type.width := by
  rw [parameterWidth_eq, parameterTypes, htype]
  rfl

/-- `ArgumentSlot` holds exactly of the slots below `parameterWidth`. -/
theorem argumentSlot_iff : method.ArgumentSlot slot ↔ slot < method.parameterWidth := by
  rw [parameterWidth_eq]
  constructor
  · rintro (hinstance | hheld)
    · rw [receiverWidth_of_instance hinstance]
      omega
    · have hslot := TypeDescriptor.exists_heldAt_iff.mp ⟨_, hheld⟩
      exact Nat.add_lt_add_left hslot _
  · intro hslot
    by_cases hbefore : slot < method.receiverWidth
    · -- only the receiver lies there
      rcases hstatic : method.access.isStatic with _ | _
      · rw [receiverWidth_of_instance hstatic, Nat.lt_one_iff] at hbefore
        exact hbefore ▸ .receiver hstatic
      · rw [receiverWidth_of_static hstatic] at hbefore
        exact absurd hbefore (Nat.not_lt_zero _)
    · obtain ⟨behind, rfl⟩ := Nat.exists_eq_add_of_le (Nat.le_of_not_lt hbefore)
      obtain ⟨position, hheld⟩ :=
        TypeDescriptor.exists_heldAt_iff.mpr (Nat.lt_of_add_lt_add_left hslot)
      exact .parameter hheld

instance (method : Method) : DecidablePred method.ArgumentSlot := fun _ =>
  decidable_of_iff _ argumentSlot_iff.symm

/-! ## The first slot behind them -/

/-- For parameters of at most 65535 slots, `firstLocalSlot` exceeds 65535 only for an instance
method with all 65535. -/
theorem firstLocalSlot_le_iff (htype : method.type? = some type) (hwidth : type.width ≤ 65535) :
    method.firstLocalSlot ≤ 65535 ↔ method.access.isStatic = true ∨ type.width < 65535 := by
  rw [firstLocalSlot_eq, parameterWidth_of_type htype]
  rcases hstatic : method.access.isStatic with _ | _
  · rw [receiverWidth_of_instance hstatic]
    simp only [Bool.false_eq_true, false_or]
    omega
  · rw [receiverWidth_of_static hstatic]
    simp only [true_or, iff_true]
    omega

/-! ## Variables that are reported -/

/-- The method with the entries of its local variable table dropped whose slot is an `ArgumentSlot`.
-/
def withoutArguments (method : Method) : Method :=
  { method with locals := method.locals.filter fun entry => ¬ method.ArgumentSlot entry.slot }

theorem not_argumentSlot_of_neglects (hneglects : method.neglects entry = true) :
    ¬ method.ArgumentSlot entry.slot := by
  rw [argumentSlot_iff]
  exact Nat.not_lt.mpr (neglects_iff.mp hneglects).behind

theorem not_argumentSlot_of_mem_unreadLocals (hentry : entry ∈ method.unreadLocals) :
    ¬ method.ArgumentSlot entry.slot := by
  rw [unreadLocals_eq] at hentry
  exact not_argumentSlot_of_neglects (List.mem_filter.mp hentry).2

theorem unreadLocals_withoutArguments (method : Method) :
    method.withoutArguments.unreadLocals = method.unreadLocals := by
  have hfilter : (method.locals.filter fun entry => ¬ method.ArgumentSlot entry.slot).filter
      method.neglects = method.locals.filter method.neglects := by
    rw [List.filter_filter]
    apply List.filter_congr
    intro entry _
    by_cases hneglects : method.neglects entry = true
    · simp [hneglects, not_argumentSlot_of_neglects hneglects]
    · simp [hneglects]
  exact congrArg (Text.distinctBy entryKey) hfilter

end Method

/-! ## Class files with many parameters -/

/-- `encodeModifiedChar` writes an ASCII character other than NUL as one byte. -/
theorem Text.length_encodeModifiedChar {c : Char} (hpos : 0 < c.toNat) (hascii : c.toNat < 0x80) :
    (encodeModifiedChar c).length = 1 := by
  rw [encodeModifiedChar, if_neg hpos.ne', if_pos hascii]
  rfl

namespace MethodDescriptor

/-- A descriptor with `parameterSlots` equal to `count`: `count / 2` parameters of type `long`, and
an `int` when `count` is odd. -/
def ofSlots (count : Nat) : MethodDescriptor :=
  { parameters := List.replicate (count / 2) (.simple .long)
      ++ List.replicate (count % 2) (.simple .int)
    result := .simple .void }

theorem width_ofSlots (count : Nat) : (ofSlots count).width = count := by
  have hwidth : (ofSlots count).width = count / 2 * 2 + count % 2 := by
    simp [width, ofSlots, TypeDescriptor.totalWidth, TypeDescriptor.width]
  omega

theorem spelled_ofSlots (count : Nat) : (ofSlots count).Spelled (ofSlots count).render := by
  have hparameters : List.Forall₂ TypeDescriptor.Spelled (ofSlots count).parameters
      ((ofSlots count).parameters.map TypeDescriptor.render) := by
    rw [List.forall₂_map_right_iff, List.forall₂_same]
    intro type hmem
    rcases List.mem_append.mp hmem with hlong | hint
    · rw [List.eq_of_mem_replicate hlong]
      exact .simple .long
    · rw [List.eq_of_mem_replicate hint]
      exact .simple .int
  rw [render, List.flatMap_def]
  exact .intro hparameters (.simple .void)

/-- The modified UTF-8 length of a rendered `ofSlots count`. -/
theorem length_encodeModified_ofSlots (count : Nat) :
    (Text.encodeModified (ofSlots count).render).length = count / 2 + count % 2 + 3 := by
  have hrender : (ofSlots count).render
      = '(' :: (List.replicate (count / 2) 'J'
          ++ (List.replicate (count % 2) 'I' ++ [')', 'V'])) := by
    simp [render, ofSlots, TypeDescriptor.render, SimpleType.render, List.flatMap_replicate]
  have hlength : (Text.encodeModified (ofSlots count).render).length
      = 1 + (count / 2 + (count % 2 + 2)) := by
    rw [hrender, Text.encodeModified]
    simp [List.flatMap_replicate, Text.length_encodeModifiedChar]
  omega

end MethodDescriptor

/-- An instance method with `count` parameter slots that throws `null`, and whose local variable
table lists the receiver. -/
def crowdedMethod (count : Nat) : MethodDescription :=
  { flags := 0x0001
    name := "total"
    descriptor := String.ofList (MethodDescriptor.ofSlots count).render
    body := some {
      maxStack := 1
      maxLocals := 65535
      code := [.plain 0x01 [] rfl rfl, .plain 0xbf [] rfl rfl]
      tables := [.localVariables [⟨0, 2, "this", "Lcom/example/Crowd;", 0⟩]] }
    isMarkedSynthetic := false }

/-- A class whose one method is `crowdedMethod count`. -/
def crowdedClass (count : Nat) : ClassDescription :=
  { minorVersion := 0
    majorVersion := 61
    constants := []
    flags := 0x0021
    name := "com/example/Crowd"
    superName := some "java/lang/Object"
    interfaces := []
    fields := []
    methods := [crowdedMethod count]
    sourceFile := none
    bootstrapMethods := none }

theorem type?_crowdedMethod (count : Nat) :
    ((crowdedMethod count).model []).type? = some (.ofSlots count) := by
  refine (MethodDescriptor.canonical_ofText?.eq_some_iff _ _).mpr ?_
  rw [crowdedMethod, MethodDescription.model, String.toList_ofList]
  exact MethodDescriptor.spelled_ofSlots count

theorem isStatic_crowdedMethod (count : Nat) :
    ((crowdedMethod count).model []).access.isStatic = false := by
  dsimp only [MethodDescription.model, crowdedMethod]
  decide

/-- `crowdedClass count` satisfies `ClassDescription.Fits` for every `count` up to 65535. -/
theorem crowdedClass_fits {count : Nat} (hcount : count ≤ 65535) : (crowdedClass count).Fits := by
  have hpool : (crowdedClass count).symbols.slotCount < 65536 := by
    have hslots := Symbols.slotCount_le (crowdedClass count).symbols
    have hsymbols : (crowdedClass count).symbols.length ≤ 10 := Symbols.length_collect_le _
    omega
  refine ⟨hpool, ?_, ?_, ?_, ?_, ?_, ?_, ?_⟩
  · -- All texts but the descriptor are fixed.
    have hshort : ∀ symbol ∈ [Symbol.text "com/example/Crowd", .type "com/example/Crowd",
        .text "java/lang/Object", .type "java/lang/Object", .text "total",
        .text (String.ofList (MethodDescriptor.ofSlots count).render), .text "Code",
        .text "LocalVariableTable", .text "this", .text "Lcom/example/Crowd;"], symbol.Short := by
      have htext : (Symbol.text (String.ofList (MethodDescriptor.ofSlots count).render)).Short := by
        rw [Symbol.Short, String.toList_ofList, MethodDescriptor.length_encodeModified_ofSlots]
        omega
      simp only [List.forall_mem_cons]
      exact ⟨by decide, trivial, by decide, trivial, by decide, htext, by decide, by decide,
        by decide, by decide, by simp⟩
    exact fun symbol hsymbol => hshort symbol (Text.mem_distinct.mp hsymbol)
  · exact Nat.zero_lt_succ _
  · exact Nat.zero_lt_succ _
  · exact Nat.succ_lt_succ (Nat.zero_lt_succ _)
  · intro method hmethod body hbody
    obtain rfl := List.mem_singleton.mp hmethod
    obtain rfl := Option.some.inj hbody
    refine ⟨?_, ?_, ?_, ?_⟩
    · show 2 < 4294967296
      decide
    · simp [Code.Raw.All]
    · exact Nat.succ_lt_succ (Nat.zero_lt_succ _)
    · simp [DebugTable.Fits]
  · rintro _ ⟨⟩
  · rintro _ ⟨⟩

/-! ## Findings -/

namespace Check

/-- `unreadVariables` depends on a method only through its `name`, `instructions` and
`unreadLocals`. -/
theorem unreadVariables_replace (c : Class) (front back : List Method) {method other : Method}
    (hname : other.name = method.name) (hcode : other.instructions = method.instructions)
    (hlocals : other.unreadLocals = method.unreadLocals) :
    unreadVariables { c with methods := front ++ other :: back }
      = unreadVariables { c with methods := front ++ method :: back } := by
  have hreads : other.fieldReads = method.fieldReads := by
    rw [Method.fieldReads, Method.operations, hcode]
    rfl
  have hfields : ({ c with methods := front ++ other :: back } : Class).unreadFields
      = ({ c with methods := front ++ method :: back } : Class).unreadFields := by
    simp only [Class.unreadFields, Class.readFields, List.flatMap_append, List.flatMap_cons, hreads]
  have hwarning : localWarning c other = localWarning c method := by
    funext entry
    rw [localWarning, localWarning, hname]
  rw [unreadVariables_eq, unreadVariables_eq, hfields]
  simp only [List.flatMap_append, List.flatMap_cons, hlocals, hwarning]

/-- `run?` depends on a method only through its `name`, `instructions`, `firstLocalSlot` and
`unreadLocals`. -/
theorem run?_replace (criteria : Criteria) (known : Option Registry) (c : Class)
    (front back : List Method) {method other : Method} (hname : other.name = method.name)
    (hcode : other.instructions = method.instructions)
    (hfirst : other.firstLocalSlot = method.firstLocalSlot)
    (hlocals : other.unreadLocals = method.unreadLocals) :
    unusedVariable.run? criteria known { c with methods := front ++ other :: back }
      = unusedVariable.run? criteria known { c with methods := front ++ method :: back } := by
  have hother := abortsUnless_unreadVariables? { c with methods := front ++ other :: back }
  have hmethod := abortsUnless_unreadVariables? { c with methods := front ++ method :: back }
  have hfits : ({ c with methods := front ++ other :: back } : Class).SlotsFit ↔
      ({ c with methods := front ++ method :: back } : Class).SlotsFit := by
    unfold Class.SlotsFit
    simp only [List.mem_append, List.mem_cons, or_imp, forall_and, forall_eq, hfirst]
    rfl
  rw [unreadVariables_replace c front back hname hcode hlocals] at hother
  exact (hother.congr hfits).unique hmethod

/-- The check leaves the arguments of `method` alone: `firstLocalSlot?` is exact, `unreadLocals?`
holds no `ArgumentSlot`, and `run?` gives the same on `withoutArguments`. -/
structure SparesArguments (method : Method) : Prop where
  counted : ∃ first, method.firstLocalSlot? = some first ∧ first.toNat = method.parameterWidth
  unreported : ∃ entries, method.unreadLocals? = some entries ∧
    ∀ entry ∈ entries, ¬ method.ArgumentSlot entry.slot
  unlisted : ∀ (criteria : Criteria) (known : Option Registry) (c : Class)
    (front back : List Method),
    unusedVariable.run? criteria known
        { c with methods := front ++ method.withoutArguments :: back }
      = unusedVariable.run? criteria known { c with methods := front ++ method :: back }

/-- `SparesArguments` holds exactly where `firstLocalSlot` fits 16 bits. -/
theorem sparesArguments_iff {method : Method} :
    SparesArguments method ↔ method.firstLocalSlot ≤ 65535 := by
  constructor
  · rintro ⟨⟨first, -, hfirst⟩, -, -⟩
    rw [Method.firstLocalSlot_eq, ← hfirst]
    exact Nat.le_of_lt_succ first.toNat_lt
  · intro hfits
    refine ⟨⟨_, method.abortsUnless_firstLocalSlot?.returns hfits, ?_⟩,
      ⟨_, method.abortsUnless_unreadLocals?.returns hfits,
        fun _ => Method.not_argumentSlot_of_mem_unreadLocals⟩, ?_⟩
    · rw [UInt16.toNat_ofNat_of_lt' (Nat.lt_succ_of_le hfits), Method.firstLocalSlot_eq]
    · intro criteria known c front back
      exact run?_replace criteria known c front back rfl rfl rfl
        method.unreadLocals_withoutArguments

/-- `firstLocalSlot?` overflows.  With it aborts every `analyze?` of a class with the method, every
`analyzeAmong?` and `runAll?` with such a class among the targets, and every `Options.run` with such
an analysis, if the checks include `unusedVariable`. -/
structure Aborts (method : Method) : Prop where
  overflow : method.firstLocalSlot? = none
  alone : ∀ (analyzer : Analyzer) (c : Class), .unusedVariable ∈ analyzer.checks →
    c.isInterface = false → method ∈ c.methods → analyzer.analyze? c = none
  analysis : ∀ (analyzer : Analyzer) (targets others : List Class),
    .unusedVariable ∈ analyzer.checks →
      (∃ c ∈ targets, c.isInterface = false ∧ method ∈ c.methods) →
        analyzer.analyzeAmong? targets others = none
  selection : ∀ (checks : List Check) (criteria : Criteria) (classes : List Class),
    .unusedVariable ∈ checks →
      (∃ c ∈ classes, c.isInterface = false ∧ method ∈ c.methods) →
        runAll? checks criteria classes = none
  run : ∀ (options : Options) (arguments : List String) (find : String → Option FileTree)
    (input : String) (analyzer : Analyzer) (scan : Scan),
    (∀ path ∈ input :: options.classpath, (find path).isSome) →
      options.analyzer find = .ok analyzer → Scan.run find input options.classpath = .ok scan →
        .unusedVariable ∈ analyzer.checks →
          (∃ c ∈ scan.classes, c.isInterface = false ∧ method ∈ c.methods) →
            options.run arguments find input = .error .slotOverflow

theorem aborts_iff {method : Method} : Aborts method ↔ ¬ method.firstLocalSlot ≤ 65535 := by
  have hfirst := method.abortsUnless_firstLocalSlot?
  constructor
  · exact fun haborts => hfirst.eq_none_iff.mp haborts.overflow
  · intro hlarge
    have hclass : ∀ c : Class, c.isInterface = false → method ∈ c.methods → ¬ c.SlotsFit :=
      fun c hclass hmethod hfits => hlarge (hfits hclass method hmethod)
    refine ⟨hfirst.aborts hlarge, ?_, ?_, ?_, ?_⟩
    · intro analyzer c hcheck hc hmethod
      exact (analyzer.abortsUnless_findingsIn? none c).aborts fun hfits =>
        hclass c hc hmethod (hfits hcheck)
    · rintro analyzer targets others hcheck ⟨c, hmem, hc, hmethod⟩
      exact (analyzer.abortsUnless_analyzeAmong? targets others).aborts fun hfits =>
        hclass c hc hmethod (hfits hcheck c hmem)
    · rintro checks criteria classes hcheck ⟨c, hmem, hc, hmethod⟩
      exact (abortsUnless_runAll? checks criteria classes).aborts fun hfits =>
        hclass c hc hmethod (hfits hcheck c hmem)
    · rintro options arguments find input analyzer scan hfound hanalyzer hscan hcheck
        ⟨c, hmem, hc, hmethod⟩
      rw [Options.run_eq_slotOverflow_iff]
      exact ⟨hfound, analyzer, scan, hanalyzer, hscan, hcheck, c, hmem, hclass c hc hmethod⟩

theorem isInterface_crowdedClass (count : Nat) :
    (crowdedClass count).model.isInterface = false := by
  dsimp only [Class.isInterface, ClassDescription.model, crowdedClass]
  decide

theorem slotsFit_crowdedClass_iff (count : Nat) :
    (crowdedClass count).model.SlotsFit
      ↔ ((crowdedMethod count).model []).firstLocalSlot ≤ 65535 := by
  have hmethods : (crowdedClass count).model.methods = [(crowdedMethod count).model []] := rfl
  rw [Class.SlotsFit, isInterface_crowdedClass, hmethods, List.forall_mem_singleton,
    imp_iff_right rfl]

/-- The table of `crowdedClass` lists only the receiver, so `unreadVariables` is empty. -/
theorem unreadVariables_crowdedClass (count : Nat) :
    unreadVariables (crowdedClass count).model = [] := by
  have hlocals : ((crowdedMethod count).model []).unreadLocals = [] := by
    rw [← Method.unreadLocals_withoutArguments, Method.withoutArguments]
    have hnone : ((crowdedMethod count).model []).locals.filter
        (fun entry => ¬ ((crowdedMethod count).model []).ArgumentSlot entry.slot) = [] := by
      rw [List.filter_eq_nil_iff]
      intro entry hentry
      obtain rfl := List.mem_singleton.mp hentry
      rw [decide_eq_true_eq, not_not]
      exact .receiver (isStatic_crowdedMethod count)
    rw [hnone]
    rfl
  have hmethods : (crowdedClass count).model.methods = [(crowdedMethod count).model []] := rfl
  have hfields : (crowdedClass count).model.unreadFields = [] := rfl
  rw [unreadVariables, hmethods, List.flatMap_singleton, hlocals, hfields]
  exact ite_self _

/-- **Arguments are never reported.**  Let `type?` be `some type` with `type.width ≤ 65535`.  Then
`parameterSlots?` is exact.  `SparesArguments` holds iff the method is static or
`type.width < 65535`, and `Aborts` holds in the remaining case, an instance method with 65535
parameter slots.  Whatever `unreadLocals?` returns holds no `ArgumentSlot`. -/
theorem arguments_spared {method : Method} {type : MethodDescriptor}
    (htype : method.type? = some type) (hwidth : type.width ≤ 65535) :
    (∃ slots, type.parameterSlots? = some slots ∧ slots.toNat = type.width) ∧
    (SparesArguments method ↔ method.access.isStatic = true ∨ type.width < 65535) ∧
    (Aborts method ↔ method.access.isStatic = false ∧ type.width = 65535) ∧
    ∀ entries, method.unreadLocals? = some entries →
      ∀ entry ∈ entries, ¬ method.ArgumentSlot entry.slot := by
  have hfits := Method.firstLocalSlot_le_iff htype hwidth
  refine ⟨?_, sparesArguments_iff.trans hfits, ?_, fun entries hentries => ?_⟩
  · have hslots : type.parameterSlots ≤ 65535 := type.parameterSlots_eq.trans_le hwidth
    refine ⟨_, type.abortsUnless_parameterSlots?.returns hslots, ?_⟩
    rw [UInt16.toNat_ofNat_of_lt' (Nat.lt_succ_of_le hslots), type.parameterSlots_eq]
    rfl
  · rw [aborts_iff, hfits, not_or, Bool.not_eq_true]
    exact and_congr_right fun _ => by omega
  · have hlocals := method.abortsUnless_unreadLocals?
    by_cases hlimit : method.firstLocalSlot ≤ 65535
    · obtain rfl : method.unreadLocals = entries :=
        Option.some.inj ((hlocals.returns hlimit).symm.trans hentries)
      exact fun _ => Method.not_argumentSlot_of_mem_unreadLocals
    · rw [hlocals.aborts hlimit] at hentries
      cases hentries

/-- With 65534 parameter slots the receiver ends at slot 65534 and `SparesArguments` holds. -/
theorem arguments_spared_crowded :
    let criteria : Criteria := { settings := {}, secretPatterns := [] }
    let method := (crowdedMethod 65534).model []
    method.type? = some (.ofSlots 65534) ∧ (MethodDescriptor.ofSlots 65534).width = 65534 ∧
      SparesArguments method ∧
      unusedVariable.run? criteria none (crowdedClass 65534).model = some [] := by
  intro criteria method
  have htype : method.type? = some (.ofSlots 65534) := type?_crowdedMethod 65534
  have hwidth := MethodDescriptor.width_ofSlots 65534
  obtain ⟨-, hspares, -⟩ := arguments_spared htype (by omega)
  have hspared : SparesArguments method := hspares.mpr (.inr (by omega))
  have hfits := (slotsFit_crowdedClass_iff 65534).mpr (sparesArguments_iff.mp hspared)
  refine ⟨htype, hwidth, hspared, ?_⟩
  rw [← unreadVariables_crowdedClass 65534]
  exact (abortsUnless_unreadVariables? _).returns hfits

/-- With 65535 parameter slots `run?` returns `none`, on a class that `Class.load` accepts. -/
theorem crowdedClass_aborts :
    let criteria : Criteria := { settings := {}, secretPatterns := [] }
    let c := (crowdedClass 65535).model
    let method := (crowdedMethod 65535).model []
    Class.load "Crowd.class" (crowdedClass 65535).write = .ok c ∧ c.methods = [method] ∧
      method.type? = some (.ofSlots 65535) ∧ (MethodDescriptor.ofSlots 65535).width = 65535 ∧
      method.ArgumentSlot 0 ∧ ¬ SparesArguments method ∧ Aborts method ∧
      unusedVariable.run? criteria none c = none := by
  intro criteria c method
  have hfits : (crowdedClass 65535).Fits := crowdedClass_fits le_rfl
  have htype : method.type? = some (.ofSlots 65535) := type?_crowdedMethod 65535
  have hwidth := MethodDescriptor.width_ofSlots 65535
  have hinstance : method.access.isStatic = false := isStatic_crowdedMethod 65535
  have hlarge : ¬ method.firstLocalSlot ≤ 65535 := by
    rw [Method.firstLocalSlot_le_iff htype hwidth.le, hinstance, hwidth]
    decide
  exact ⟨Class.load_eq_ok_iff.mpr ⟨_, ClassDescription.ofBytes?_write hfits,
      ClassDescription.build_raw hfits⟩, rfl, htype, hwidth, .receiver hinstance,
    mt sparesArguments_iff.mp hlarge, aborts_iff.mpr hlarge,
    (abortsUnless_unreadVariables? c).aborts (mt (slotsFit_crowdedClass_iff 65535).mp hlarge)⟩

end Check

end ClassAudit
