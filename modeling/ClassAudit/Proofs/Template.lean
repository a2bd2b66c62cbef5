import ClassAudit.Analyzer
import ClassAudit.Proofs.Delegation
import Mathlib

/-!
# Templates and their steps

A template is a method of an abstract class that calls at least two of the methods that the class
leaves open.  Its steps are a set of names: those of open methods, and among them those that it
calls on its own class.  The check reports exactly the templates, in the order of the methods, each
with its steps in the order of their bytes.  Since the steps are a set, it does not matter in what
order or how often a step is called, or what is called on other types.

## Shape of the proof

`enumerates_calledSteps` says that the list of steps is the set of steps in order.  With it
`templateFinding?_eq` tells the finding on a method from the set alone, and the check is a filter of
the methods (`templates_eq`).
-/

namespace ClassAudit.Check

variable {c : Class} {method : Method}

/-! ## Steps -/

/-- The names of the abstract methods of `c`. -/
def openNames (c : Class) : Finset String :=
  ((c.methods.filter (·.access.isAbstract)).map Method.name).toFinset

/-- The names of the methods that `method` calls with `c` as the owner. -/
def ownCallNames (c : Class) (method : Method) : Finset String :=
  ((method.calls.filter (·.owner = c.name)).map CallSite.name).toFinset

/-- The abstract methods of `c` that `method` calls. -/
def templateSteps (c : Class) (method : Method) : Finset String :=
  openNames c ∩ ownCallNames c method

theorem enumerates_openSteps (c : Class) : Text.Enumerates (openSteps c) (openNames c) :=
  Text.enumerates_ordered fun _ => List.mem_toFinset.symm

theorem mem_ownCallNames {name : String} :
    name ∈ ownCallNames c method ↔ ∃ instruction ∈ method.instructions, ∃ site : CallSite,
      instruction.operation = .call site ∧ site.owner = c.name ∧ site.name = name := by
  simp only [ownCallNames, List.mem_toFinset, List.mem_map, List.mem_filter, Method.mem_calls,
    decide_eq_true_eq]
  constructor
  · rintro ⟨site, ⟨⟨instruction, hmem, hcall⟩, howner⟩, hname⟩
    exact ⟨instruction, hmem, site, hcall, howner, hname⟩
  · rintro ⟨instruction, hmem, site, hcall, howner, hname⟩
    exact ⟨site, ⟨⟨instruction, hmem, hcall⟩, howner⟩, hname⟩

theorem enumerates_calledSteps (c : Class) (method : Method) :
    Text.Enumerates (calledSteps c method) (templateSteps c method) := by
  apply Text.enumerates_ordered
  intro name
  simp only [templateSteps, ownCallNames, Finset.mem_inter, ← (enumerates_openSteps c).mem_iff,
    List.mem_toFinset, List.mem_map, List.mem_filter, Bool.and_eq_true, decide_eq_true_eq,
    List.contains_eq_mem]
  constructor
  · rintro ⟨site, ⟨hcall, howner, hopen⟩, rfl⟩
    exact ⟨hopen, site, ⟨hcall, howner⟩, rfl⟩
  · rintro ⟨hopen, site, ⟨hcall, howner⟩, rfl⟩
    exact ⟨site, ⟨hcall, howner, hopen⟩, rfl⟩

/-! ## Templates -/

/-- `method` is a concrete instance method, neither synthetic nor an initializer, that calls at
least two `templateSteps` and is final or not private. -/
structure IsTemplate (c : Class) (method : Method) : Prop where
  concrete : method.access.isAbstract = false
  owned : method.access.isStatic = false
  written : method.access.isSynthetic = false
  named : method.name ≠ "<init>" ∧ method.name ≠ "<clinit>"
  shown : method.access.isFinal = true ∨ method.access.visibility ≠ .priv
  steps : 2 ≤ (templateSteps c method).card

/-- The finding on `method` with the given steps. -/
def templateFinding (c : Class) (method : Method) (steps : List String) : Finding :=
  { check := "TEMPLATE_METHOD"
    severity := .info
    message :=
      if method.access.isFinal then
        "Template Method pattern detected: final method '" ++ method.name
          ++ "' defines the algorithm; abstract steps: " ++ ", ".intercalate steps
      else
        "Possible Template Method: '" ++ method.name ++ "' calls abstract steps "
          ++ ", ".intercalate steps
          ++ "; consider making it final so subclasses cannot change the algorithm"
    location := { className := c.dottedName, member := some method.name }
    confidence := some (if method.access.isFinal then .high else .low) }

/-- The test that `templates` makes on a method. -/
def isTemplate (c : Class) (method : Method) : Bool :=
  isTemplateCandidate method && (method.access.isFinal || method.access.visibility ≠ .priv)
    && minSteps ≤ (calledSteps c method).length

theorem isTemplate_iff : isTemplate c method = true ↔ IsTemplate c method := by
  simp only [isTemplate, isTemplateCandidate, (enumerates_calledSteps c method).length_eq,
    Method.isInitializer, Method.isConstructor, Method.isStaticInitializer, Bool.and_eq_true,
    Bool.or_eq_true, Bool.not_eq_true', Bool.or_eq_false_iff, decide_eq_true_eq,
    decide_eq_false_iff_not]
  constructor
  · rintro ⟨⟨⟨⟨⟨hconcrete, howned⟩, hwritten⟩, hnamed⟩, hshown⟩, hsteps⟩
    exact ⟨hconcrete, howned, hwritten, hnamed, hshown, hsteps⟩
  · rintro ⟨hconcrete, howned, hwritten, hnamed, hshown, hsteps⟩
    exact ⟨⟨⟨⟨⟨hconcrete, howned⟩, hwritten⟩, hnamed⟩, hshown⟩, hsteps⟩

instance (c : Class) : DecidablePred (IsTemplate c) := fun _ =>
  decidable_of_iff _ isTemplate_iff

/-- `templateFinding?` in terms of `calledSteps`. -/
theorem templateFinding?_eq (c : Class) (method : Method) :
    templateFinding? c method
      = if minSteps ≤ (calledSteps c method).length ∧
          (method.access.isFinal = true ∨ method.access.visibility ≠ .priv)
        then some (templateFinding c method (calledSteps c method)) else none := by
  unfold templateFinding?
  by_cases hsteps : (calledSteps c method).length < minSteps
  · rw [if_pos hsteps, if_neg (fun h => absurd h.1 (Nat.not_le.mpr hsteps))]
  · rw [if_neg hsteps]
    have hmany := Nat.not_lt.mp hsteps
    by_cases hfinal : method.access.isFinal = true
    · rw [if_pos hfinal, if_pos ⟨hmany, .inl hfinal⟩]
      simp only [templateFinding, hfinal, report, id, Class.memberLocation, Text.commaList,
        toString, if_true, Option.some.injEq, Finding.mk.injEq, true_and, and_true]
      rw [← String.append_assoc, @String.append_assoc _ _ "abstract steps: "]
      simp
    · rw [if_neg hfinal]
      by_cases hprivate : method.access.visibility = .priv
      · rw [if_neg (not_not_intro hprivate), if_neg]
        rintro ⟨-, hshown⟩
        exact hshown.elim hfinal (absurd hprivate)
      · rw [if_pos hprivate, if_pos ⟨hmany, .inr hprivate⟩]
        simp [templateFinding, hfinal, report, id, Class.memberLocation, Text.commaList, toString,
          String.append_assoc]

/-- The finding on `method`, if it `IsTemplate`. -/
def templateReport? (c : Class) (method : Method) : Option Finding :=
  if IsTemplate c method then some (templateFinding c method (calledSteps c method)) else none

theorem templateReport?_eq (c : Class) (method : Method) :
    templateReport? c method
      = if isTemplateCandidate method then templateFinding? c method else none := by
  rw [templateFinding?_eq, ← ite_and]
  refine if_congr ?_ rfl rfl
  rw [← isTemplate_iff, isTemplate]
  simp only [Bool.and_eq_true, Bool.or_eq_true, decide_eq_true_eq]
  tauto

/-- A class with a template has at least `minSteps` abstract methods. -/
theorem IsTemplate.minSteps_le (h : IsTemplate c method) : minSteps ≤ (openSteps c).length := by
  rw [(enumerates_openSteps c).length_eq]
  exact h.steps.trans (Finset.card_le_card Finset.inter_subset_left)

/-- `templates` is `templateReport?` over the methods of an abstract class. -/
theorem templates_eq (hclass : c.isAbstract = true) :
    templates c = c.methods.filterMap (templateReport? c) := by
  unfold templates
  split_ifs with hfew
  · rw [hclass, Bool.not_true, Bool.false_or, decide_eq_true_eq] at hfew
    symm
    rw [List.filterMap_eq_nil_iff]
    intro method _
    exact if_neg fun htemplate => absurd htemplate.minSteps_le (Nat.not_le.mpr hfew)
  · rw [List.filterMap_filter, funext (templateReport?_eq c)]

/-! ## What does not matter -/

/-- Both codes contain the same instructions, up to calls on types other than `type`; order and
repetition do not count. -/
def SameOwnCode (type : String) (code code' : List Instruction) : Prop :=
  ∀ instruction, (∀ site, instruction.operation = .call site → site.owner = type) →
    (instruction ∈ code ↔ instruction ∈ code')

variable {instructions : List Instruction}

theorem ownCallNames_congr (h : SameOwnCode c.name method.instructions instructions) :
    ownCallNames c { method with instructions } = ownCallNames c method := by
  ext name
  rw [mem_ownCallNames, mem_ownCallNames]
  have hown : ∀ instruction : Instruction, (∃ site : CallSite,
      instruction.operation = .call site ∧ site.owner = c.name ∧ site.name = name) →
        (instruction ∈ instructions ↔ instruction ∈ method.instructions) := by
    rintro instruction ⟨site, hcall, howner, -⟩
    refine (h instruction fun other hother => ?_).symm
    rw [hcall] at hother
    rw [← Operation.call.inj hother, howner]
  exact exists_congr fun instruction => and_congr_left fun hcall => hown instruction hcall

theorem openNames_replace (c : Class) (front back : List Method) (method : Method)
    (instructions : List Instruction) :
    openNames { c with methods := front ++ { method with instructions } :: back }
      = openNames { c with methods := front ++ method :: back } := by
  simp only [openNames, List.filter_append, List.filter_cons]
  by_cases hopen : method.access.isAbstract = true
  · simp [hopen]
  · simp [hopen]

/-- `calledSteps` depends only on the set `templateSteps`. -/
theorem calledSteps_congr {c' : Class} {method' : Method}
    (h : templateSteps c method = templateSteps c' method') :
    calledSteps c method = calledSteps c' method' :=
  (enumerates_calledSteps c method).unique (h ▸ enumerates_calledSteps c' method')

/-- `templateReport?` depends only on the two names, the access flags and the set of steps. -/
theorem templateReport?_congr {c' : Class} {method' : Method} (hclass : c.name = c'.name)
    (hname : method.name = method'.name) (haccess : method.access = method'.access)
    (hsteps : templateSteps c method = templateSteps c' method') :
    templateReport? c method = templateReport? c' method' := by
  have htemplate : IsTemplate c method ↔ IsTemplate c' method' := by
    constructor
    · rintro ⟨hconcrete, howned, hwritten, hnamed, hshown, hmany⟩
      rw [haccess] at hconcrete howned hwritten hshown
      exact ⟨hconcrete, howned, hwritten, hname ▸ hnamed, hshown, hsteps ▸ hmany⟩
    · rintro ⟨hconcrete, howned, hwritten, hnamed, hshown, hmany⟩
      rw [← haccess] at hconcrete howned hwritten hshown
      exact ⟨hconcrete, howned, hwritten, hname ▸ hnamed, hshown, hsteps ▸ hmany⟩
  refine if_congr htemplate ?_ rfl
  rw [calledSteps_congr hsteps, templateFinding, templateFinding, Class.dottedName,
    Class.dottedName, hclass, hname, haccess]

theorem templates_replace (c : Class) (front back : List Method) (method : Method)
    (h : SameOwnCode c.name method.instructions instructions) :
    templates { c with methods := front ++ { method with instructions } :: back }
      = templates { c with methods := front ++ method :: back } := by
  let before : Class := { c with methods := front ++ method :: back }
  let after : Class := { c with methods := front ++ { method with instructions } :: back }
  show templates after = templates before
  by_cases hclass : c.isAbstract = true
  · have hopen : openNames after = openNames before :=
      openNames_replace c front back method instructions
    have hothers : templateReport? after = templateReport? before := by
      funext other
      exact templateReport?_congr rfl rfl rfl (congrArg (· ∩ ownCallNames c other) hopen)
    have hmethod : templateReport? before { method with instructions }
        = templateReport? before method :=
      templateReport?_congr rfl rfl rfl (congrArg (openNames before ∩ ·) (ownCallNames_congr h))
    rw [templates_eq (c := after) hclass, templates_eq (c := before) hclass, hothers]
    simp only [after, before, List.filterMap_append, List.filterMap_cons]
    rw [hmethod]
  · have hnone : ∀ methods, templates { c with methods } = [] := by
      intro methods
      have hsame : ({ c with methods } : Class).isAbstract = c.isAbstract := rfl
      simp [templates, hsame, hclass]
    rw [hnone, hnone]

/-- **Exactly the templates are reported, with their steps.**  A class that is an interface or not
abstract has no findings.  Any other has one `templateFinding` per method that `IsTemplate`, in
order, of high confidence if the method is final, which lists the `templateSteps` without repetition
in byte order.  Replacing the code of a method by `SameOwnCode` leaves the findings unchanged. -/
theorem templates_exact (criteria : Criteria) (known : Option Registry) (c : Class) :
    (¬ (c.access.isAbstract = true ∧ c.access.isInterface = false) →
      templateMethod.run criteria known c = []) ∧
    (c.access.isAbstract = true → c.access.isInterface = false →
      ∃ steps : Method → List String,
        (∀ method, Text.Enumerates (steps method) (templateSteps c method)) ∧
        templateMethod.run criteria known c
          = (c.methods.filter (IsTemplate c ·)).map fun method =>
              templateFinding c method (steps method)) ∧
    ∀ (front back : List Method) (method : Method) (instructions : List Instruction),
      SameOwnCode c.name method.instructions instructions →
        templateMethod.run criteria known
            { c with methods := front ++ { method with instructions } :: back }
          = templateMethod.run criteria known { c with methods := front ++ method :: back } := by
  refine ⟨fun hclass => ?_, fun habstract hinterface => ?_, fun front back method instructions =>
    templates_replace c front back method⟩
  · have hnot : c.isAbstract = false := by
      simpa [Class.isAbstract] using hclass
    simp [run, templates, hnot]
  · have hclass : c.isAbstract = true := by
      simp [Class.isAbstract, habstract, hinterface]
    refine ⟨calledSteps c, enumerates_calledSteps c, ?_⟩
    rw [run, templates_eq hclass, ← List.filterMap_eq_map, List.filterMap_filter]
    apply List.filterMap_congr
    intro method _
    simp [templateReport?]

/-- A method without parameters or result. -/
def routine (name : String) (access : MethodAccess) (instructions : List Instruction) : Method :=
  { name, descriptor := "()V", access, instructions, locals := [] }

/-- A final method that calls `start` and `finish`. -/
def play : Method :=
  routine "play" { isFinal := true }
    [callOf .virtual "Game" "start", callOf .virtual "Game" "finish"]

/-- An abstract class with the abstract methods `start` and `finish`, and `play`. -/
def game : Class :=
  { Registry.outline "Game" [] with
    access := { isAbstract := true }
    methods := [routine "start" { isAbstract := true } [],
      routine "finish" { isAbstract := true } [], play] }

/-- `play` is a template, also with its steps called in reverse order, one of them twice, and with a
call on another type. -/
theorem templates_exact_game :
    let criteria : Criteria := { settings := {}, secretPatterns := [] }
    let instructions := [callOf .virtual "Game" "finish", callOf .virtual "Other" "start",
      callOf .virtual "Game" "start", callOf .virtual "Game" "finish"]
    game.access.isAbstract = true ∧ game.access.isInterface = false ∧
    SameOwnCode "Game" play.instructions instructions ∧
    templateMethod.run criteria none
        { game with
          methods := [routine "start" { isAbstract := true } [],
            routine "finish" { isAbstract := true } []] ++ { play with instructions } :: [] }
      = templateMethod.run criteria none game ∧
    templateMethod.run criteria none game = [templateFinding game play ["finish", "start"]] := by
  intro criteria instructions
  have hsame : SameOwnCode "Game" play.instructions instructions := by
    intro instruction hown
    have hother : instruction ≠ callOf .virtual "Other" "start" := by
      rintro rfl
      exact absurd (hown _ rfl) (by decide)
    simp only [play, routine, instructions, List.mem_cons, List.not_mem_nil, hother]
    tauto
  obtain ⟨-, hexact, hreplace⟩ := templates_exact criteria none game
  obtain ⟨steps, hsteps, hrun⟩ := hexact rfl rfl
  refine ⟨rfl, rfl, hsame, hreplace _ [] play instructions hsame, ?_⟩
  have hset : templateSteps game play = {"finish", "start"} := by decide
  have htemplate : IsTemplate game play :=
    ⟨rfl, rfl, rfl, by decide, .inl rfl, by rw [hset]; decide⟩
  have hlist : steps play = ["finish", "start"] := by
    refine (hsteps play).unique ⟨by decide, fun name => ?_⟩
    simp [hset]
  have hopen : ∀ name, ¬ IsTemplate game (routine name { isAbstract := true } []) :=
    fun name h => absurd h.concrete (by simp [routine])
  have hmethods : game.methods = [routine "start" { isAbstract := true } [],
    routine "finish" { isAbstract := true } [], play] := rfl
  rw [hrun, hmethods]
  simp [htemplate, hopen, hlist]

end ClassAudit.Check
