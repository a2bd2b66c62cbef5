import ClassAudit.Proofs.Context
import ClassAudit.Proofs.Unplaced
import Mathlib

/-!
# What positions can show

Where an instruction stands has no part in what is found.  Classes that differ in positions only get
the same findings, one for one, and these differ in their lines only.  A line is that of an
instruction in a method of the name that the finding gives, and a method without lines adds no
finding that has one.

## Shape of the proof

What a check finds in a class without positions is what it finds in the class, without the lines
(`Check.run_unplaced`).  Two classes that differ in positions only are one and the same without
them, so their findings are one and the same without lines.  Twelve of the checks report no lines
and see no positions.  The other two go through the code of one method after the other; there the
scans are followed instruction by instruction, with the lines that they pick up.
-/

namespace ClassAudit

/-! ## Findings without lines -/

/-- The finding with its `line` erased. -/
def Finding.unplaced (finding : Finding) : Finding :=
  { finding with location := { finding.location with line := none } }

/-- No finding has a `line`. -/
def Unlined (findings : List Finding) : Prop :=
  ∀ finding ∈ findings, finding.location.line = none

/-- The findings with a `line`. -/
def lined (findings : List Finding) : List Finding :=
  findings.filter (·.location.line.isSome)

section Unlined

variable {α : Type} {findings more : List Finding} {values : List α}

@[simp]
theorem unlined_nil : Unlined [] := by
  simp [Unlined]

@[simp]
theorem unlined_cons {finding : Finding} :
    Unlined (finding :: findings) ↔ finding.location.line = none ∧ Unlined findings := by
  simp [Unlined]

@[simp]
theorem unlined_append : Unlined (findings ++ more) ↔ Unlined findings ∧ Unlined more := by
  simp [Unlined, or_imp, forall_and]

@[simp]
theorem unlined_ite {p : Prop} [Decidable p] :
    Unlined (if p then findings else more) ↔ if p then Unlined findings else Unlined more := by
  split <;> rfl

@[simp]
theorem unlined_toList_ite {p : Prop} [Decidable p] {finding? other? : Option Finding} :
    Unlined (if p then finding? else other?).toList
      ↔ if p then Unlined finding?.toList else Unlined other?.toList := by
  split <;> rfl

@[simp]
theorem unlined_flatMap {f : α → List Finding} :
    Unlined (values.flatMap f) ↔ ∀ a ∈ values, Unlined (f a) := by
  simp only [Unlined, List.mem_flatMap]
  grind

@[simp]
theorem unlined_map {f : α → Finding} :
    Unlined (values.map f) ↔ ∀ a ∈ values, (f a).location.line = none := by
  simp [Unlined]

@[simp]
theorem unlined_filterMap {f : α → Option Finding} :
    Unlined (values.filterMap f) ↔ ∀ a ∈ values, Unlined (f a).toList := by
  rw [List.filterMap_eq_flatMap_toList, unlined_flatMap]

/-- `unplaced` is the identity on `Unlined` findings. -/
theorem Unlined.map_unplaced (h : Unlined findings) : findings.map Finding.unplaced = findings := by
  have hsame : ∀ finding ∈ findings, finding.unplaced = id finding := by
    rintro ⟨check, severity, message, ⟨className, member, line⟩, confidence⟩ hfinding
    obtain rfl : line = none := h _ hfinding
    rfl
  rw [List.map_congr_left hsame, List.map_id]

theorem Unlined.lined_eq_nil (h : Unlined findings) : lined findings = [] := by
  apply List.filter_eq_nil_iff.mpr
  intro finding hfinding
  simp [h finding hfinding]

end Unlined

namespace Check

variable (c : Class) (known : Option Registry) (settings : Settings)

@[simp]
theorem line_report (check : Check) (severity : Severity) (location : Location) (message : String)
    (confidence : Option Confidence) :
    (check.report severity location message confidence).location.line = location.line :=
  rfl

@[simp]
theorem line_location : c.location.line = none :=
  rfl

@[simp]
theorem line_memberLocation (member : String) : (c.memberLocation member).line = none :=
  rfl

@[simp]
theorem line_callLocation (method : Method) : (c.callLocation method).line = none :=
  rfl

theorem unlined_responsibilities : Unlined (responsibilities settings c) := by
  unfold responsibilities sizeFindings cohesionFindings
  cases CohesionGraph.ofClass? c <;> simp

theorem unlined_extensibility : Unlined (extensibility settings known c) := by
  unfold extensibility branchFindings methodBranchFindings couplingFindings extensionFindings
    possibleExtension
  cases known <;> simp

theorem unlined_callChains : Unlined (callChains c) := by
  simp [callChains, methodChainFindings]

theorem unlined_collectionFinding? (place type : String) {location : Location}
    (hline : location.line = none) : Unlined (collectionFinding? place location type).toList := by
  unfold collectionFinding?
  cases preferredInterface? type <;> simp [hline]

theorem unlined_collectionTypes : Unlined (collectionTypes c) := by
  unfold collectionTypes
  rw [unlined_append]
  constructor
  · have hdeclared : Unlined ((c.fields.filter (!·.access.isSynthetic)).filterMap fun field =>
        collectionFinding? "Field" (c.memberLocation field.name) field.typeName) := by
      rw [unlined_filterMap]
      intro field _
      exact unlined_collectionFinding? _ _ rfl
    intro finding hfinding
    exact hdeclared finding (List.mem_of_find?_eq_some (Text.mem_distinctBy.mp hfinding))
  · unfold methodCollections
    simp only [unlined_flatMap, unlined_append, unlined_filterMap]
    intro method _
    exact ⟨unlined_collectionFinding? _ _ rfl, fun _ _ => unlined_collectionFinding? _ _ rfl⟩

theorem unlined_adapters : Unlined (adapters known c) := by
  simp only [adapters, unlined_ite, unlined_nil, unlined_filterMap]
  split
  · trivial
  · intro field _
    unfold adapterFinding?
    cases adaptee? c field with
    | none => simp
    | some adaptee => cases hconfidence : adapterConfidence? known c adaptee <;> simp [hconfidence]

theorem unlined_decorators : Unlined (decorators known c) := by
  simp only [decorators, unlined_ite, unlined_nil, unlined_filterMap]
  split
  · intro field _
    unfold decoratorFinding?
    cases field.objectType? <;> simp
  · trivial

theorem unlined_strategies : Unlined (strategies known c) := by
  cases known with
  | none => exact unlined_nil
  | some registry =>
    simp only [strategies, unlined_ite, unlined_nil, unlined_flatMap]
    split
    · trivial
    · intro field _
      unfold strategyFieldFindings
      cases strategyType? c field with
      | none => exact unlined_nil
      | some type =>
        dsimp only
        cases registry.resolve? type with
        | none => simp
        | some strategy =>
          have hmain : (implementationFinding registry c field strategy).location.line = none := by
            unfold implementationFinding
            dsimp only
            split <;> rfl
          simp [hmain, idleStrategyFinding?]

theorem unlined_templates : Unlined (templates c) := by
  simp [templates, templateFinding?]

theorem unlined_unreadVariables : Unlined (unreadVariables c) := by
  simp [unreadVariables, unreadLocal, unreadField]

theorem unlined_methodLengths : Unlined (methodLengths settings c) := by
  simp [methodLengths, lengthFinding?]

theorem unlined_methodNames : Unlined (methodNames c) := by
  simp [methodNames]

theorem unlined_fieldNames : Unlined (fieldNames c) := by
  simp [fieldNames]

/-- A check without `reportsLines` has `Unlined` findings. -/
theorem unlined_run {check : Check} (h : check.reportsLines = false) (criteria : Criteria) :
    Unlined (check.run criteria known c) := by
  cases check with
  | singleResponsibility => exact unlined_responsibilities c criteria.settings
  | openClosed => exact unlined_extensibility c known criteria.settings
  | leastKnowledge => exact unlined_callChains c
  | programToInterface => exact unlined_collectionTypes c
  | security => cases h
  | adapterPattern => exact unlined_adapters c known
  | decoratorPattern => exact unlined_decorators c known
  | strategyPattern => exact unlined_strategies c known
  | templateMethod => exact unlined_templates c
  | unusedVariable => exact unlined_unreadVariables c
  | methodLength => exact unlined_methodLengths c criteria.settings
  | methodNaming => exact unlined_methodNames c
  | fieldNaming => exact unlined_fieldNames c
  | consolePrint => cases h

end Check

/-! ## Secrets and prints -/

namespace ConsolePrint

/-- The print with its `line` erased. -/
def unplaced (print : ConsolePrint) : ConsolePrint :=
  { print with line := none }

theorem stream?_unplaced (operation : Operation) :
    stream? operation.unplaced = stream? operation := by
  cases operation <;> rfl

theorem print?_unplaced (operation : Operation) : print? operation.unplaced = print? operation := by
  cases operation <;> rfl

/-- `scan` commutes with `unplaced`. -/
theorem scan_unplaced (taken : Option String) (instructions : List Instruction) :
    scan taken (instructions.map Instruction.unplaced)
      = (scan taken instructions).map unplaced := by
  induction instructions generalizing taken with
  | nil => rfl
  | cons instruction rest ih =>
    rw [List.map_cons]
    unfold scan
    dsimp only [Instruction.unplaced]
    rw [stream?_unplaced, print?_unplaced]
    split
    · exact ih _
    · rw [List.map_cons, ih]
      rfl
    · exact ih _

/-- A print of `scan` has the line of one of the instructions. -/
theorem line_of_mem_scan {taken : Option String} {instructions : List Instruction}
    {print : ConsolePrint} (h : print ∈ scan taken instructions) :
    ∃ instruction ∈ instructions, instruction.line = print.line := by
  induction instructions generalizing taken with
  | nil => cases h
  | cons instruction rest ih =>
    have hrest {taken' : Option String} (h : print ∈ scan taken' rest) :
        ∃ found ∈ instruction :: rest, found.line = print.line := by
      obtain ⟨found, hfound, hline⟩ := ih h
      exact ⟨found, List.mem_cons_of_mem _ hfound, hline⟩
    unfold scan at h
    split at h
    · exact hrest h
    · rcases List.mem_cons.mp h with rfl | h
      · exact ⟨instruction, List.mem_cons_self, rfl⟩
      · exact hrest h
    · exact hrest h

end ConsolePrint

theorem QuerySignals.ofOperations_unplaced (operations : List Operation) :
    ofOperations (operations.map Operation.unplaced) = ofOperations operations := by
  have hobserve (signals : QuerySignals) (operation : Operation) :
      signals.observe operation.unplaced = signals.observe operation := by
    cases operation <;> rfl
  rw [ofOperations, List.foldl_map]
  simp only [hobserve]
  rfl

namespace Check

variable (criteria : Criteria) (c : Class) (method : Method)

theorem secretFinding?_unplaced (instruction : Instruction) :
    secretFinding? criteria c.unplaced method.unplaced instruction.unplaced
      = (secretFinding? criteria c method instruction).map Finding.unplaced := by
  unfold secretFinding? Instruction.unplaced
  cases instruction.operation with
  | text value =>
    dsimp only [Operation.unplaced]
    rw [Option.map_map]
    rfl
  | _ => rfl

theorem injectionFinding?_unplaced :
    injectionFinding? c.unplaced method.unplaced = injectionFinding? c method := by
  unfold injectionFinding?
  rw [method.operations_unplaced, QuerySignals.ofOperations_unplaced]
  rfl

theorem unlined_injectionFinding? : Unlined (injectionFinding? c method).toList := by
  simp [injectionFinding?, QuerySignals.verdict?]

theorem securityFindings_unplaced :
    securityFindings criteria c.unplaced = (securityFindings criteria c).map Finding.unplaced := by
  rw [securityFindings_eq, securityFindings_eq]
  unfold secretFindings
  rw [Class.unplaced_methods, List.flatMap_map, List.map_flatMap]
  apply List.flatMap_congr
  intro method _
  rw [Method.unplaced_instructions, List.filterMap_map, List.map_append, List.map_filterMap,
    injectionFinding?_unplaced, (unlined_injectionFinding? c method).map_unplaced]
  simp only [Function.comp_def, secretFinding?_unplaced]

theorem consolePrints_unplaced :
    consolePrints c.unplaced = (consolePrints c).map Finding.unplaced := by
  unfold consolePrints
  rw [Class.unplaced_methods, List.flatMap_map, List.map_flatMap]
  apply List.flatMap_congr
  intro method _
  rw [Method.unplaced_instructions, ConsolePrint.scan_unplaced, List.map_map, List.map_map]
  rfl

/-- `run` commutes with `unplaced`, for the class and the registry alike. -/
theorem run_unplaced (check : Check) (known : Option Registry) :
    check.run criteria (known.map Registry.unplaced) c.unplaced
      = (check.run criteria known c).map Finding.unplaced := by
  cases hlines : check.reportsLines with
  | false =>
    rw [run_unplaced_of_not_lined c known hlines,
      (unlined_run c known hlines criteria).map_unplaced]
  | true =>
    cases check with
    | security => exact securityFindings_unplaced criteria c
    | consolePrint => exact consolePrints_unplaced c
    | _ => cases hlines

end Check

/-! ## Whose lines they are -/

/-- `c` with `method` as its only method. -/
def Class.alone (c : Class) (method : Method) : Class :=
  { c with methods := [method] }

namespace Check

variable (criteria : Criteria) (c : Class) (method : Method)

/-- The location of `finding` is `method`, with the line of one of its instructions. -/
def Locates (method : Method) (finding : Finding) : Prop :=
  finding.location.member = some method.name ∧
    ∃ instruction ∈ method.instructions, instruction.line = finding.location.line

theorem locates_of_mem_secretFindings {finding : Finding}
    (h : finding ∈ secretFindings criteria c method) : Locates method finding := by
  obtain ⟨instruction, hinstruction, hfinding⟩ := List.mem_filterMap.mp h
  unfold secretFinding? at hfinding
  split at hfinding
  · obtain ⟨confidence, -, rfl⟩ := Option.map_eq_some_iff.mp hfinding
    exact ⟨rfl, instruction, hinstruction, rfl⟩
  · cases hfinding

/-- The `lined` findings of `run` are those on each method `alone`, concatenated. -/
theorem lined_run (check : Check) (known : Option Registry) :
    lined (check.run criteria known c)
      = c.methods.flatMap fun method => lined (check.run criteria known (c.alone method)) := by
  cases hlines : check.reportsLines with
  | false =>
    rw [Unlined.lined_eq_nil (unlined_run c known hlines criteria), eq_comm,
      List.flatMap_eq_nil_iff]
    intro method _
    exact Unlined.lined_eq_nil (unlined_run _ known hlines criteria)
  | true =>
    cases check with
    | security =>
      unfold lined run
      rw [securityFindings_eq, List.filter_flatMap]
      simp only [securityFindings_eq, Class.alone, List.flatMap_cons, List.flatMap_nil,
        List.append_nil]
      rfl
    | consolePrint =>
      unfold lined run consolePrints
      rw [List.filter_flatMap]
      simp only [Class.alone, List.flatMap_cons, List.flatMap_nil, List.append_nil]
      rfl
    | _ => cases hlines

/-- A `lined` finding on a method `alone` `Locates` it. -/
theorem locates_of_mem_lined {check : Check} {known : Option Registry} {finding : Finding}
    (h : finding ∈ lined (check.run criteria known (c.alone method))) : Locates method finding := by
  obtain ⟨hfinding, hline⟩ := List.mem_filter.mp h
  cases hlines : check.reportsLines with
  | false => simp [unlined_run _ known hlines criteria finding hfinding] at hline
  | true =>
    cases check with
    | security =>
      rw [run, securityFindings_eq] at hfinding
      obtain ⟨other, hother, hfinding⟩ := List.mem_flatMap.mp hfinding
      obtain rfl : other = method := List.mem_singleton.mp hother
      rcases List.mem_append.mp hfinding with hfinding | hfinding
      · exact locates_of_mem_secretFindings criteria _ other hfinding
      · -- the verdict on injection has no line
        simp [unlined_injectionFinding? _ other finding hfinding] at hline
    | consolePrint =>
      obtain ⟨other, hother, hfinding⟩ := List.mem_flatMap.mp hfinding
      obtain rfl : other = method := List.mem_singleton.mp hother
      obtain ⟨print, hprint, rfl⟩ := List.mem_map.mp hfinding
      obtain ⟨instruction, hinstruction, hline⟩ := ConsolePrint.line_of_mem_scan hprint
      exact ⟨rfl, instruction, hinstruction, hline⟩
    | _ => cases hlines

end Check

/-! ## Two runs -/

/-- The classes correspond one by one up to `unplaced`. -/
def SameButPositions (classes others : List Class) : Prop :=
  classes.map Class.unplaced = others.map Class.unplaced

/-- The findings agree up to the line. -/
structure Finding.Alike (finding other : Finding) : Prop where
  check : finding.check = other.check
  severity : finding.severity = other.severity
  message : finding.message = other.message
  className : finding.location.className = other.location.className
  member : finding.location.member = other.location.member
  confidence : finding.confidence = other.confidence

theorem Finding.alike_of_unplaced_eq {finding other : Finding}
    (h : finding.unplaced = other.unplaced) : finding.Alike other := by
  simp only [Finding.unplaced, Finding.mk.injEq, Location.mk.injEq] at h
  obtain ⟨hcheck, hseverity, hmessage, ⟨hclass, hmember, -⟩, hconfidence⟩ := h
  exact ⟨hcheck, hseverity, hmessage, hclass, hmember, hconfidence⟩

/-- Lists with equal images correspond one by one. -/
theorem forall₂_of_map_eq {α β : Type} {f : α → β} {values others : List α}
    (h : values.map f = others.map f) : List.Forall₂ (fun a b => f a = f b) values others := by
  have himages : List.Forall₂ (· = ·) (values.map f) (others.map f) := by
    rw [h]
    exact List.forall₂_refl _
  simpa [List.forall₂_map_left_iff, List.forall₂_map_right_iff] using himages

/-- Findings that agree under `unplaced` are `Alike`. -/
theorem alike_of_map_unplaced_eq {findings others : List Finding}
    (h : findings.map Finding.unplaced = others.map Finding.unplaced) :
    List.Forall₂ Finding.Alike findings others :=
  (forall₂_of_map_eq h).imp fun _ _ => Finding.alike_of_unplaced_eq

namespace SameButPositions

variable {targets targets' others others' : List Class}

theorem append (h : SameButPositions targets targets') (h' : SameButPositions others others') :
    SameButPositions (targets ++ others) (targets' ++ others') := by
  rw [SameButPositions, List.map_append, List.map_append, h, h']

/-- `ofClasses` of lists that are `SameButPositions` agree under `unplaced`. -/
theorem registry_eq (h : SameButPositions targets targets') :
    (Registry.ofClasses targets).unplaced = (Registry.ofClasses targets').unplaced := by
  rw [← Registry.ofClasses_unplaced, ← Registry.ofClasses_unplaced, h]

end SameButPositions

/-- `run` on classes and registries that agree under `unplaced` gives `Alike` findings. -/
theorem Check.alike_run (criteria : Criteria) (check : Check) {known known' : Option Registry}
    {c c' : Class} (hknown : known.map Registry.unplaced = known'.map Registry.unplaced)
    (hclass : c.unplaced = c'.unplaced) :
    List.Forall₂ Finding.Alike (check.run criteria known c) (check.run criteria known' c') := by
  apply alike_of_map_unplaced_eq
  rw [← run_unplaced, ← run_unplaced, hknown, hclass]

namespace Analyzer

theorem analyzeAmong_unplaced (analyzer : Analyzer) (targets others : List Class) :
    (analyzer.analyzeAmong targets others).map Finding.unplaced
      = analyzer.analyzeAmong (targets.map Class.unplaced) (others.map Class.unplaced) := by
  unfold analyzeAmong findingsIn
  rw [← List.map_append, Registry.ofClasses_unplaced, List.flatMap_map, List.map_flatMap]
  apply List.flatMap_congr
  intro c _
  rw [List.map_flatMap]
  apply List.flatMap_congr
  intro check _
  exact (Check.run_unplaced analyzer.criteria c check (some _)).symm

/-- **Findings do not depend on positions.**  Let targets and other classes be `SameButPositions`:
they may differ in the lines, offsets and opcodes of instructions, the offsets of calls and the
ranges of local variables.  Then every check, with and without the other classes, and every analyzer
give `Alike` findings, one by one.  The `lined` findings are those made on each method `alone`, and
each `Locates` its method, so a method without lines gives none. -/
theorem findings_ignore_positions (analyzer : Analyzer) :
    (∀ targets targets' others others' : List Class,
      SameButPositions targets targets' → SameButPositions others others' →
      (∀ check : Check, List.Forall₂ (fun c c' =>
        List.Forall₂ Finding.Alike (check.run analyzer.criteria none c)
          (check.run analyzer.criteria none c') ∧
        List.Forall₂ Finding.Alike
          (check.run analyzer.criteria (some (Registry.ofClasses (targets ++ others))) c)
          (check.run analyzer.criteria (some (Registry.ofClasses (targets' ++ others'))) c'))
        targets targets') ∧
      List.Forall₂ Finding.Alike (analyzer.analyzeAmong targets others)
        (analyzer.analyzeAmong targets' others')) ∧
    ∀ (check : Check) (known : Option Registry) (c : Class),
      lined (check.run analyzer.criteria known c)
        = c.methods.flatMap (fun method =>
            lined (check.run analyzer.criteria known (c.alone method))) ∧
      ∀ method,
        (∀ finding ∈ lined (check.run analyzer.criteria known (c.alone method)),
          finding.location.member = some method.name ∧
            ∃ instruction ∈ method.instructions, instruction.line = finding.location.line) ∧
        ((∀ instruction ∈ method.instructions, instruction.line = none) →
          lined (check.run analyzer.criteria known (c.alone method)) = []) := by
  refine ⟨?_, ?_⟩
  · intro targets targets' others others' htargets hothers
    refine ⟨?_, ?_⟩
    · intro check
      apply (forall₂_of_map_eq htargets).imp
      intro c c' hclass
      have hknown := (htargets.append hothers).registry_eq
      exact ⟨check.alike_run analyzer.criteria rfl hclass,
        check.alike_run analyzer.criteria (congrArg some hknown) hclass⟩
    · apply alike_of_map_unplaced_eq
      rw [analyzeAmong_unplaced, analyzeAmong_unplaced, htargets, hothers]
  · intro check known c
    refine ⟨Check.lined_run analyzer.criteria c check known, ?_⟩
    intro method
    refine ⟨fun finding hfinding => Check.locates_of_mem_lined _ _ _ hfinding, ?_⟩
    intro hnone
    apply List.eq_nil_iff_forall_not_mem.mpr
    intro finding hfinding
    obtain ⟨-, instruction, hinstruction, hline⟩ := Check.locates_of_mem_lined _ _ _ hfinding
    have hlined := (List.mem_filter.mp hfinding).2
    rw [← hline, hnone instruction hinstruction] at hlined
    cases hlined

/-- A method that prints a text, with its code at `offset` and `line`. -/
def greeting (offset : Nat) (line : Option Nat) : Method :=
  { name := "greet"
    descriptor := "()V"
    access := {}
    locals := []
    instructions :=
      [{ offset
         opcode := 0xB2
         operation := .readField
           { owner := "java/lang/System", name := "out", descriptor := "Ljava/io/PrintStream;",
             isStatic := true }
         line },
       { offset := offset + 3, opcode := 0x12, operation := .text "hello", line },
       { offset := offset + 5
         opcode := 0xB6
         operation := .call
           { owner := "java/io/PrintStream", name := "println",
             descriptor := "(Ljava/lang/String;)V", kind := .virtual, offset := offset + 5 }
         line }] }

/-- A class whose one method is `greeting`. -/
def greeter (offset : Nat) (line : Option Nat) : Class :=
  { figure "Greeter" [] with methods := [greeting offset line] }

example : (Check.consolePrints (greeter 0 (some 7))).map (·.location.line) = [some 7] := rfl

/-- `greeter` with and without lines, at different offsets. -/
theorem findings_ignore_positions_greeter :
    SameButPositions [greeter 0 (some 7)] [greeter 4 none] ∧ SameButPositions [shape] [shape] ∧
      List.Forall₂ Finding.Alike (standard.analyzeAmong [greeter 0 (some 7)] [shape])
        (standard.analyzeAmong [greeter 4 none] [shape]) ∧
      (∀ instruction ∈ (greeting 4 none).instructions, instruction.line = none) ∧
      ∀ check : Check,
        lined (check.run standard.criteria none ((greeter 4 none).alone (greeting 4 none)))
          = [] := by
  have hgreeter : SameButPositions [greeter 0 (some 7)] [greeter 4 none] := rfl
  have hnone : ∀ instruction ∈ (greeting 4 none).instructions, instruction.line = none := by
    simp [greeting]
  obtain ⟨halike, hlines⟩ := findings_ignore_positions standard
  refine ⟨hgreeter, rfl, (halike _ _ _ _ hgreeter rfl).2, hnone, ?_⟩
  intro check
  exact ((hlines check none (greeter 4 none)).2 (greeting 4 none)).2 hnone

end Analyzer

end ClassAudit
