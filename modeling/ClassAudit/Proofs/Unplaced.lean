import ClassAudit.Analyzer
import ClassAudit.Proofs.Registry
import Mathlib

/-!
# Code without its positions

An instruction does something, and it stands somewhere: at an offset, under an opcode, perhaps at a
line of the source.  `Class.unplaced` leaves of a class what its code does.  Twelve of the checks
find in such a class the very same as in the class itself (`Check.run_unplaced_of_not_lined`); the
other two report lines, and what positions have to do with theirs is in another module.

## Shape of the proof

A check sees a class through a few views: its calls, the fields it reads, its branches, the steps it
leaves open.  Each view is compared once with that of the class without positions, and a check is
then opened just far enough to rewrite the views that it takes.
-/

namespace ClassAudit

/-! ## Code without its positions -/

/-- `site` without its offset. -/
@[simps]
def CallSite.unplaced (site : CallSite) : CallSite :=
  { site with offset := 0 }

/-- The operation with its `CallSite` `unplaced`. -/
def Operation.unplaced : Operation → Operation
  | .call site => .call site.unplaced
  | operation => operation

/-- The instruction reduced to its operation, `unplaced`. -/
def Instruction.unplaced (instruction : Instruction) : Instruction :=
  { offset := 0, opcode := 0, operation := instruction.operation.unplaced, line := none }

/-- The variable without its range in the code. -/
@[simps]
def LocalVariable.unplaced (entry : LocalVariable) : LocalVariable :=
  { entry with startOffset := 0, length := 0 }

/-- The method with its instructions and variables `unplaced`. -/
@[simps]
def Method.unplaced (method : Method) : Method :=
  { method with
    instructions := method.instructions.map Instruction.unplaced
    locals := method.locals.map LocalVariable.unplaced }

/-- The class with its methods `unplaced`. -/
@[simps]
def Class.unplaced (c : Class) : Class :=
  { c with methods := c.methods.map Method.unplaced }

/-- The registry with its classes `unplaced`. -/
def Registry.unplaced (registry : Registry) : Registry :=
  { classes := registry.classes.map Class.unplaced }

/-- `distinctBy` commutes with `map`. -/
theorem Text.distinctBy_map {α β γ : Type} [DecidableEq γ] (key : β → γ) (f : α → β)
    (values : List α) : distinctBy key (values.map f) = (distinctBy (key ∘ f) values).map f := by
  induction values with
  | nil => rfl
  | cons a rest ih => simp [distinctBy, ih, List.filter_map, Function.comp_def]

namespace Operation

variable (operation : Operation)

@[simp]
theorem call?_unplaced : operation.unplaced.call? = operation.call?.map CallSite.unplaced := by
  cases operation <;> rfl

@[simp]
theorem field?_unplaced : operation.unplaced.field? = operation.field? := by
  cases operation <;> rfl

@[simp]
theorem readField?_unplaced : operation.unplaced.readField? = operation.readField? := by
  cases operation <;> rfl

@[simp]
theorem usedSlot?_unplaced : operation.unplaced.usedSlot? = operation.usedSlot? := by
  cases operation <;> rfl

@[simp]
theorem isBranching_unplaced : operation.unplaced.isBranching = operation.isBranching := by
  cases operation <;> rfl

end Operation

namespace Method

variable (method : Method)

@[simp]
theorem operations_unplaced :
    method.unplaced.operations = method.operations.map Operation.unplaced := by
  simp [operations, Instruction.unplaced]

@[simp]
theorem calls_unplaced : method.unplaced.calls = method.calls.map CallSite.unplaced := by
  simp [calls, List.filterMap_map, List.map_filterMap]

@[simp]
theorem fieldUses_unplaced : method.unplaced.fieldUses = method.fieldUses := by
  simp [fieldUses, List.filterMap_map]

@[simp]
theorem fieldReads_unplaced : method.unplaced.fieldReads = method.fieldReads := by
  simp [fieldReads, List.filterMap_map]

@[simp]
theorem branchCount_unplaced : method.unplaced.branchCount = method.branchCount := by
  simp [branchCount, List.countP_map, Function.comp_def]

@[simp]
theorem readSlots_unplaced : method.unplaced.readSlots = method.readSlots := by
  simp [readSlots, List.filterMap_map]

/-- `unreadLocals` does not depend on positions. -/
@[simp]
theorem unreadLocals_unplaced :
    method.unplaced.unreadLocals = method.unreadLocals.map LocalVariable.unplaced := by
  have hslot : method.unplaced.firstLocalSlot = method.firstLocalSlot := rfl
  simp [unreadLocals, unreadLocalsFrom, hslot, List.filter_map, Text.distinctBy_map,
    Function.comp_def]

end Method

namespace Class

variable (c : Class)

/-- A `filter` on methods that does not depend on positions. -/
theorem filter_methods_unplaced {p : Method → Bool}
    (hp : ∀ method : Method, p method.unplaced = p method) :
    c.unplaced.methods.filter p = (c.methods.filter p).map Method.unplaced := by
  rw [unplaced_methods, List.filter_map]
  congr 2
  funext method
  exact hp method

@[simp]
theorem declaredMethods_unplaced :
    c.unplaced.declaredMethods = c.declaredMethods.map Method.unplaced :=
  c.filter_methods_unplaced fun _ => rfl

@[simp]
theorem calls_unplaced : c.unplaced.calls = c.calls.map CallSite.unplaced := by
  simp [calls, List.flatMap_map, List.map_flatMap]

@[simp]
theorem delegations_unplaced (owner : String) :
    c.unplaced.delegations owner = (c.delegations owner).map CallSite.unplaced := by
  rw [delegations, c.filter_methods_unplaced fun _ => rfl, delegations, List.flatMap_map]
  simp only [Method.calls_unplaced]
  rw [← List.map_flatMap, List.filter_map]
  rfl

@[simp]
theorem readFields_unplaced : c.unplaced.readFields = c.readFields := by
  simp [readFields, List.flatMap_map]

end Class

namespace Registry

variable (registry : Registry) (name : String)

theorem ofClasses_unplaced (classes : List Class) :
    ofClasses (classes.map Class.unplaced) = (ofClasses classes).unplaced := by
  unfold ofClasses unplaced
  rw [Text.distinctBy_map, List.map_mergeSort]
  · rfl
  · intro a _ b _
    rfl

@[simp]
theorem resolve?_unplaced :
    registry.unplaced.resolve? name = (registry.resolve? name).map Class.unplaced := by
  simp [resolve?, unplaced, List.find?_map]

@[simp]
theorem implementers_unplaced :
    registry.unplaced.implementers name = (registry.implementers name).map Class.unplaced := by
  simp [implementers, unplaced, List.filter_map, Function.comp_def, Class.isInterface,
    Class.implements]

end Registry

/-! ## Checks that see no positions -/

namespace Check

variable (c : Class) (known : Option Registry) (settings : Settings)

theorem touched_unplaced (method : Method) :
    CohesionGraph.touched c.unplaced method.unplaced = CohesionGraph.touched c method := by
  unfold CohesionGraph.touched
  rw [method.fieldUses_unplaced]
  rfl

theorem cohesionGraph_unplaced : CohesionGraph.ofClass? c.unplaced = CohesionGraph.ofClass? c := by
  unfold CohesionGraph.ofClass?
  rw [c.filter_methods_unplaced fun _ => rfl]
  dsimp only
  rw [List.length_map, List.map_map]
  simp only [Function.comp_def, touched_unplaced]
  rfl

theorem responsibilities_unplaced :
    responsibilities settings c.unplaced = responsibilities settings c := by
  have hcount : c.unplaced.declaredMethods.length = c.declaredMethods.length := by simp
  unfold responsibilities sizeFindings cohesionFindings isGodClass hasTooManyMethods
  rw [hcount, cohesionGraph_unplaced]
  rfl

theorem branchFindings_unplaced :
    branchFindings settings c.unplaced = branchFindings settings c := by
  unfold branchFindings methodBranchFindings
  rw [c.filter_methods_unplaced fun _ => rfl]
  dsimp only
  rw [List.map_map, List.flatMap_map]
  simp only [Function.comp_def, Method.branchCount_unplaced]
  rfl

theorem countFrom_unplaced (previous : Option CallSite) (operations : List Operation) :
    CallChain.countFrom (previous.map CallSite.unplaced) (operations.map Operation.unplaced)
      = CallChain.countFrom previous operations := by
  induction operations generalizing previous with
  | nil => rfl
  | cons operation rest ih =>
    cases operation with
    | call site =>
      have hrest := ih (some site)
      cases previous with
      | none => exact congrArg (0 + ·) hrest
      | some first => exact congrArg (_ + ·) hrest
    | _ => exact ih none

theorem callChains_unplaced : callChains c.unplaced = callChains c := by
  have hcount (method : Method) : CallChain.count method.unplaced = CallChain.count method := by
    rw [CallChain.count, Method.operations_unplaced]
    exact countFrom_unplaced none method.operations
  unfold callChains methodChainFindings
  rw [c.filter_methods_unplaced fun _ => rfl, List.flatMap_map]
  simp only [hcount]
  rfl

theorem collectionTypes_unplaced : collectionTypes c.unplaced = collectionTypes c := by
  unfold collectionTypes
  rw [c.filter_methods_unplaced fun _ => rfl, List.flatMap_map]
  rfl

theorem openSteps_unplaced : openSteps c.unplaced = openSteps c := by
  unfold openSteps
  rw [c.filter_methods_unplaced fun _ => rfl, List.map_map]
  rfl

theorem calledSteps_unplaced (method : Method) :
    calledSteps c.unplaced method.unplaced = calledSteps c method := by
  unfold calledSteps
  rw [method.calls_unplaced, openSteps_unplaced, List.filter_map]
  dsimp only
  rw [List.map_map]
  rfl

theorem templates_unplaced : templates c.unplaced = templates c := by
  unfold templates templateFinding?
  rw [openSteps_unplaced, c.filter_methods_unplaced fun _ => rfl, List.filterMap_map]
  simp only [Function.comp_def, calledSteps_unplaced]
  rfl

theorem unreadVariables_unplaced : unreadVariables c.unplaced = unreadVariables c := by
  unfold unreadVariables Class.unreadFields
  rw [c.readFields_unplaced, Class.unplaced_methods, List.flatMap_map]
  simp only [Method.unreadLocals_unplaced, List.map_map]
  rfl

theorem methodLengths_unplaced : methodLengths settings c.unplaced = methodLengths settings c := by
  unfold methodLengths lengthFinding?
  rw [c.filter_methods_unplaced fun _ => rfl, List.filterMap_map]
  simp only [Function.comp_def, Method.unplaced_instructions, List.length_map]
  rfl

theorem methodNames_unplaced : methodNames c.unplaced = methodNames c := by
  unfold methodNames
  rw [c.filter_methods_unplaced fun _ => rfl, List.map_map]
  rfl

theorem fieldClasses_unplaced (registry : Registry) :
    fieldClasses registry.unplaced c.unplaced = (fieldClasses registry c).map Class.unplaced := by
  unfold fieldClasses
  rw [List.map_filterMap]
  simp only [Registry.resolve?_unplaced]
  rfl

theorem couplingFindings_unplaced (registry : Registry) :
    couplingFindings registry.unplaced c.unplaced = couplingFindings registry c := by
  have hdependencies :
      concreteDependencies registry.unplaced c.unplaced = concreteDependencies registry c := by
    unfold concreteDependencies
    rw [fieldClasses_unplaced, List.filter_map]
    dsimp only
    rw [List.map_map]
    rfl
  unfold couplingFindings
  rw [hdependencies, fieldClasses_unplaced, List.any_map]
  rfl

theorem extensionFindings_unplaced (registry : Registry) :
    extensionFindings registry.unplaced c.unplaced = extensionFindings registry c := by
  unfold extensionFindings
  rw [Registry.implementers_unplaced, List.map_map]
  rfl

theorem extensibility_unplaced :
    extensibility settings (known.map Registry.unplaced) c.unplaced
      = extensibility settings known c := by
  unfold extensibility
  rw [branchFindings_unplaced]
  cases known with
  | none => rfl
  | some registry =>
    dsimp only [Option.map_some]
    rw [extensionFindings_unplaced, couplingFindings_unplaced]
    rfl

theorem adapters_unplaced :
    adapters (known.map Registry.unplaced) c.unplaced = adapters known c := by
  have hconfidence (adaptee : String) :
      adapterConfidence? (known.map Registry.unplaced) c.unplaced adaptee
        = adapterConfidence? known c adaptee := by
    cases known with
    | none => rfl
    | some registry =>
      have htargets :
          targetsVerified registry.unplaced c.unplaced = targetsVerified registry c := by
        unfold targetsVerified
        simp only [Registry.resolve?_unplaced, Option.any_map]
        rfl
      dsimp only [Option.map_some, adapterConfidence?]
      rw [htargets, Registry.resolve?_unplaced]
      cases registry.resolve? adaptee <;> rfl
  unfold adapters adapterFinding?
  simp only [hconfidence, Class.delegations_unplaced, List.length_map]
  rfl

theorem decorators_unplaced :
    decorators (known.map Registry.unplaced) c.unplaced = decorators known c := by
  have hconfidence (type : String) :
      typeConfidence (known.map Registry.unplaced) type = typeConfidence known type := by
    cases known with
    | none => rfl
    | some registry =>
      dsimp only [Option.map_some, typeConfidence]
      rw [Registry.resolve?_unplaced]
      cases registry.resolve? type <;> rfl
  unfold decorators decoratorFinding?
  simp only [hconfidence, Class.delegations_unplaced, List.length_map]
  rfl

theorem implementationFinding_unplaced (registry : Registry) (field : Field) (strategy : Class) :
    implementationFinding registry.unplaced c.unplaced field strategy.unplaced
      = implementationFinding registry c field strategy := by
  unfold implementationFinding
  rw [Registry.implementers_unplaced, List.map_map]
  rfl

theorem idleStrategyFinding?_unplaced (field : Field) (strategy : Class) :
    idleStrategyFinding? c.unplaced field strategy.unplaced
      = idleStrategyFinding? c field strategy := by
  unfold idleStrategyFinding?
  rw [c.calls_unplaced, List.any_map]
  rfl

theorem strategies_unplaced :
    strategies (known.map Registry.unplaced) c.unplaced = strategies known c := by
  cases known with
  | none => rfl
  | some registry =>
    have hfields : strategyFieldFindings registry.unplaced c.unplaced
        = strategyFieldFindings registry c := by
      funext field
      have htype : strategyType? c.unplaced field = strategyType? c field := rfl
      unfold strategyFieldFindings
      rw [htype]
      cases strategyType? c field with
      | none => rfl
      | some type =>
        dsimp only
        rw [Registry.resolve?_unplaced]
        cases registry.resolve? type with
        | none => rfl
        | some strategy =>
          dsimp only [Option.map_some]
          rw [implementationFinding_unplaced, idleStrategyFinding?_unplaced]
          rfl
    unfold strategies
    dsimp only [Option.map_some]
    rw [hfields]
    rfl

/-- The findings of the check have a line. -/
def reportsLines : Check → Bool
  | .security => true
  | .consolePrint => true
  | _ => false

/-- `run` of a check without `reportsLines` does not depend on positions. -/
theorem run_unplaced_of_not_lined {check : Check} (h : check.reportsLines = false)
    (criteria : Criteria) :
    check.run criteria (known.map Registry.unplaced) c.unplaced = check.run criteria known c := by
  cases check with
  | singleResponsibility => exact responsibilities_unplaced c criteria.settings
  | openClosed => exact extensibility_unplaced c known criteria.settings
  | leastKnowledge => exact callChains_unplaced c
  | programToInterface => exact collectionTypes_unplaced c
  | security => cases h
  | adapterPattern => exact adapters_unplaced c known
  | decoratorPattern => exact decorators_unplaced c known
  | strategyPattern => exact strategies_unplaced c known
  | templateMethod => exact templates_unplaced c
  | unusedVariable => exact unreadVariables_unplaced c
  | methodLength => exact methodLengths_unplaced c criteria.settings
  | methodNaming => exact methodNames_unplaced c
  | fieldNaming => rfl
  | consolePrint => cases h

end Check

end ClassAudit
