import ClassAudit.Analyzer
import ClassAudit.Proofs.Resolution
import Mathlib

/-!
# Chained pairs of calls

The count of chained calls goes through a code once and remembers the call just before.  It can be
told without that memory: it is the number of positions at which a call hands out something to
reach through and the very next instruction is a call on it.  So an instruction that is no call can
part one pair at most, and never makes one.

## Shape of the proof

`Joins` says of a remembered call and the next operation that they are a pair.  `countFrom_cons` is
the step of the count: a pair counts one, and what is remembered next depends on the operation
alone.  By it the count of a whole code is that of its positions (`countFrom_eq`), and what was
remembered in front of a code decides about one pair and no more (`countFrom_near`).
-/

namespace ClassAudit

namespace CallChain

/-! ## Pairs -/

/-- The types whose own methods are chained by design: `String`, its builders, `Optional` and the
streams. -/
def Fluent (name : String) : Prop :=
  name = "java/lang/String" ∨ name = "java/lang/StringBuilder" ∨ name = "java/lang/StringBuffer" ∨
    name = "java/util/Optional" ∨ "java/util/stream/".toList <+: name.toList

/-- The result of the call is an array, or an object of a type other than `site.owner` that is not
`Fluent`. -/
def HandsOut (site : CallSite) : Prop :=
  ∃ type, MethodDescriptor.ofText? site.descriptor = some type ∧
    ((∃ component dimensions, type.result = .array component dimensions) ∨
      ∃ name, type.result = .simple (.object name) ∧ name ≠ site.owner ∧ ¬ Fluent name)

/-- `second` follows `first`, which `HandsOut` a receiver for it. -/
def Chained (first second : CallSite) : Prop :=
  HandsOut first ∧ second.kind ≠ .static

/-- The operations at `position` and `position + 1` are calls and `Chained`. -/
def ChainedAt (operations : List Operation) (position : Nat) : Prop :=
  ∃ first second, operations[position]? = some (.call first) ∧
    operations[position + 1]? = some (.call second) ∧ Chained first second

/-- `operation` is a call that is `Chained` to the call `previous`. -/
def Joins (previous : Option CallSite) (operation : Option Operation) : Prop :=
  ∃ first second, previous = some first ∧ operation = some (.call second) ∧ Chained first second

variable {first second : CallSite}

theorem isFluentType_iff {name : String} : isFluentType name = true ↔ Fluent name := by
  simp [isFluentType, Fluent, Text.startsWith, or_assoc]

theorem reachesThrough_iff : reachesThrough first second = true ↔ Chained first second := by
  rw [reachesThrough, CallSite.resultType?, Chained, HandsOut]
  rcases MethodDescriptor.ofText? first.descriptor with _ | ⟨parameters, result⟩
  · simp
  · rcases result with simple | ⟨component, dimensions⟩
    · -- only objects are references among the simple types; `void` is none either
      rcases simple with _ | _ | _ | _ | _ | _ | _ | _ | _ | name <;>
        simp [TypeDescriptor.isReference, TypeDescriptor.internalName?, ← isFluentType_iff]
      tauto
    · simp [TypeDescriptor.isReference, TypeDescriptor.internalName?]

/-- `Joins` is what `reachesThrough` decides on the two call sites. -/
theorem joins_iff {previous : Option CallSite} {operation : Option Operation} :
    Joins previous operation ↔ (previous.any fun first =>
      (operation.bind Operation.call?).any (reachesThrough first)) = true := by
  simp only [Joins, Option.any_eq_true, Option.bind_eq_some_iff, Operation.call?_eq_some_iff,
    reachesThrough_iff]
  constructor
  · rintro ⟨first, second, hfirst, hsecond, hchained⟩
    exact ⟨first, hfirst, second, ⟨_, hsecond, rfl⟩, hchained⟩
  · rintro ⟨first, hfirst, second, ⟨_, hsecond, rfl⟩, hchained⟩
    exact ⟨first, second, hfirst, hsecond, hchained⟩

/-- Nothing `Joins` with no previous call. -/
theorem not_joins_none (operation : Option Operation) : ¬ Joins none operation := by
  rintro ⟨_, _, hprevious, _⟩
  cases hprevious

theorem chainedAt_iff {operations : List Operation} {position : Nat} :
    ChainedAt operations position ↔
      Joins (operations[position]?.bind Operation.call?) operations[position + 1]? := by
  simp only [ChainedAt, Joins, Option.bind_eq_some_iff, Operation.call?_eq_some_iff,
    exists_eq_right]

instance (previous : Option CallSite) (operation : Option Operation) :
    Decidable (Joins previous operation) :=
  decidable_of_iff _ joins_iff.symm

instance (operations : List Operation) : DecidablePred (ChainedAt operations) := fun _ =>
  decidable_of_iff _ chainedAt_iff.symm

/-! ## The count -/

/-- The step of `countFrom`: a pair is counted where the operation `Joins` the remembered call. -/
theorem countFrom_cons (previous : Option CallSite) (operation : Operation)
    (rest : List Operation) :
    countFrom previous (operation :: rest)
      = (if Joins previous (some operation) then 1 else 0) + countFrom operation.call? rest := by
  have hjoins := @joins_iff previous (some operation)
  cases operation <;> simp_all [countFrom, Operation.call?]

/-- The run of `countFrom`: the number of positions that are `ChainedAt`, and one more if the first
operation `Joins` the remembered call. -/
theorem countFrom_eq (previous : Option CallSite) (operations : List Operation) :
    countFrom previous operations
      = (if Joins previous operations.head? then 1 else 0)
        + Nat.count (ChainedAt operations) operations.length := by
  induction operations generalizing previous with
  | nil =>
    have hnone : ¬ Joins previous none := by
      rintro ⟨_, _, _, hcall, _⟩
      cases hcall
    simp [countFrom, hnone]
  | cons operation rest ih =>
    -- the pair at position 0 is the one that `rest` begins with, when `operation` is remembered
    have hzero : ChainedAt (operation :: rest) 0 ↔ Joins operation.call? rest.head? := by
      rw [chainedAt_iff]
      simp [List.head?_eq_getElem?]
    have hsucc : (fun position => ChainedAt (operation :: rest) (position + 1))
        = ChainedAt rest := by
      funext position
      simp [ChainedAt]
    rw [countFrom_cons, ih, List.length_cons, Nat.count_succ', List.head?_cons]
    simp only [hzero, hsucc]
    omega

/-- The remembered call changes `countFrom` by at most one. -/
theorem countFrom_near (previous : Option CallSite) (operations : List Operation) :
    countFrom none operations ≤ countFrom previous operations ∧
      countFrom previous operations ≤ countFrom none operations + 1 := by
  rw [countFrom_eq previous, countFrom_eq none, if_neg (not_joins_none _)]
  split <;> omega

/-- Inserting an operation that is no call never raises `countFrom` and lowers it by at most one. -/
theorem countFrom_insert (previous : Option CallSite) (before after : List Operation)
    {operation : Operation} (hcall : operation.call? = none) :
    countFrom previous (before ++ operation :: after) ≤ countFrom previous (before ++ after) ∧
      countFrom previous (before ++ after)
        ≤ countFrom previous (before ++ operation :: after) + 1 := by
  induction before generalizing previous with
  | nil =>
    have hnot : ¬ Joins previous (some operation) := by
      rw [joins_iff, Option.bind_some, hcall]
      simp
    rw [List.nil_append, List.nil_append, countFrom_cons, if_neg hnot, hcall, Nat.zero_add]
    exact countFrom_near previous after
  | cons front before ih =>
    rw [List.cons_append, List.cons_append, countFrom_cons, countFrom_cons]
    have hrest := ih front.call?
    omega

/-- `count` is the number of positions that are `ChainedAt`. -/
theorem count_eq (method : Method) :
    count method = Nat.count (ChainedAt method.operations) method.operations.length := by
  rw [count, countFrom_eq, if_neg (not_joins_none _), Nat.zero_add]

/-! ## The findings -/

/-- `finding` reports `count method`: an info for one or two pairs, a warning from three on. -/
structure Reports (c : Class) (method : Method) (finding : Finding) : Prop where
  check : finding.check = "LEAST_KNOWLEDGE"
  location : finding.location = c.callLocation method
  info_iff : finding.severity = .info ↔ count method = 1 ∨ count method = 2
  warning_iff : finding.severity = .warning ↔ 3 ≤ count method

theorem exists_methodChainFindings (c : Class) {method : Method} (h : 0 < count method) :
    ∃ finding, Check.methodChainFindings c method = [finding] ∧ Reports c method finding := by
  have hne : count method ≠ 0 := by omega
  refine ⟨_, by rw [Check.methodChainFindings, if_neg hne], rfl, rfl, ?_, ?_⟩
  · rw [Check.report, Check.manyChains]
    split
    · simp only [reduceCtorEq, false_iff]
      omega
    · simp only [true_iff]
      omega
  · rw [Check.report, Check.manyChains]
    split <;> simp_all

/-- `methodChainFindings` yields one finding that `Reports` for each method with a positive `count`,
in order. -/
theorem forall₂_methodChainFindings (c : Class) (methods : List Method) :
    List.Forall₂ (Reports c) (methods.filter fun method => 0 < count method)
      (methods.flatMap (Check.methodChainFindings c)) := by
  induction methods with
  | nil => exact .nil
  | cons method rest ih =>
    rw [List.filter_cons, List.flatMap_cons]
    by_cases hchains : 0 < count method
    · obtain ⟨finding, hfinding, hreports⟩ := exists_methodChainFindings c hchains
      rw [if_pos (decide_eq_true hchains), hfinding]
      exact .cons hreports ih
    · have hnone : Check.methodChainFindings c method = [] := by
        rw [Check.methodChainFindings, if_pos (by omega)]
      rw [if_neg (by simpa using hchains), hnone]
      exact ih

/-- **`count` is the number of chained pairs.**  It counts the positions that are `ChainedAt`.
Inserting an instruction that is no call never raises it and lowers it by at most one.  An interface
has no findings; any other class has one that `Reports` for each method with a positive `count` that
is no initializer, in the order of the methods. -/
theorem chains_exact (criteria : Criteria) (known : Option Registry) (c : Class) :
    (∀ method : Method,
      count method = Nat.count (ChainedAt method.operations) method.operations.length) ∧
    (∀ (method : Method) (before after : List Instruction) (inserted : Instruction),
      (∀ site, inserted.operation ≠ .call site) →
        count { method with instructions := before ++ inserted :: after }
          ≤ count { method with instructions := before ++ after } ∧
        count { method with instructions := before ++ after }
          ≤ count { method with instructions := before ++ inserted :: after } + 1) ∧
    (c.isInterface = true → Check.leastKnowledge.run criteria known c = []) ∧
    (c.isInterface = false → List.Forall₂ (Reports c)
      ((c.methods.filter fun method => !method.isInitializer).filter fun method => 0 < count method)
      (Check.leastKnowledge.run criteria known c)) := by
  refine ⟨count_eq, ?_, ?_, ?_⟩
  · intro method before after inserted hinserted
    have hcall : inserted.operation.call? = none := by
      rw [Option.eq_none_iff_forall_ne_some]
      intro site hsite
      exact hinserted site (Operation.call?_eq_some_iff.mp hsite)
    have hinsert := countFrom_insert none (before.map Instruction.operation)
      (after.map Instruction.operation) hcall
    simpa only [count, Method.operations, List.map_append, List.map_cons] using hinsert
  · intro hinterface
    rw [Check.run, Check.callChains, if_pos hinterface]
  · intro hclass
    rw [Check.run, Check.callChains, if_neg (by simp [hclass])]
    exact forall₂_methodChainFindings c _

/-- A virtual call without arguments. -/
def callTo (owner name result : String) : Instruction :=
  { offset := 0
    opcode := 0xb6
    operation := .call { owner, name, descriptor := "()" ++ result, kind := .virtual, offset := 0 }
    line := none }

/-- A method that calls `city`, `mayor`, `name` and `length`, each on the result of the call before.
-/
def greet : Method :=
  { name := "greet"
    descriptor := "()V"
    access := {}
    instructions :=
      [callTo "Visitor" "city" "LCity;", callTo "City" "mayor" "LMayor;",
       callTo "Mayor" "name" "Ljava/lang/String;", callTo "java/lang/String" "length" "I"]
    locals := [] }

/-- A class whose one method is `greet`. -/
def visitor : Class :=
  { Registry.outline "Visitor" [] with methods := [greet] }

/-- A branch after the first call of `greet` lowers `count` from 2 to 1.  The call of `length` joins
no pair, since `String` is `Fluent`. -/
theorem chains_exact_visitor :
    let criteria : Criteria := { settings := {}, secretPatterns := [] }
    let jump : Instruction := { offset := 0, opcode := 0x99, operation := .branch, line := none }
    let parted : Method := { greet with instructions := greet.instructions.insertIdx 1 jump }
    (∀ site, jump.operation ≠ .call site) ∧ count greet = 2 ∧ count parted = 1 ∧
      count parted ≤ count greet ∧ count greet ≤ count parted + 1 ∧
      visitor.isInterface = false ∧
      List.Forall₂ (Reports visitor) [greet] (Check.leastKnowledge.run criteria none visitor) := by
  intro criteria jump parted
  have hjump : ∀ site, jump.operation ≠ .call site := by
    intro site hcall
    cases hcall
  have hcount : count greet = 2 := by decide +kernel
  have hnamed : greet.isInitializer = false := by decide
  obtain ⟨-, hinsert, -, hfindings⟩ := chains_exact criteria none visitor
  have hparted := hinsert greet (greet.instructions.take 1) (greet.instructions.drop 1) jump hjump
  refine ⟨hjump, hcount, by decide +kernel, hparted.1, hparted.2, rfl, ?_⟩
  have hreported : ((visitor.methods.filter fun method => !method.isInitializer).filter
      fun method => 0 < count method) = [greet] := by
    simp [visitor, hnamed, hcount]
  rw [← hreported]
  exact hfindings rfl

end CallChain

end ClassAudit
