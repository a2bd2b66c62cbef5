import ClassAudit.Proofs.Registry
import ClassAudit.Proofs.Validity
import Mathlib

/-!
# Whose finding it is

Every finding carries the identifier of the check that made it, whatever branch of the check it
comes from and whether the class was looked at alone or among others (`Check.own_run`).  So leaving
checks out is the same as leaving their findings out.

## Shape of the proof

`Check.Own` is kept by the ways in which findings are put together (`append`, `flatMap`,
`filterMap`, `map`); the checks are followed with it from their outermost list down to single
reports.
-/

namespace ClassAudit

namespace Check

variable {check : Check} {findings : List Finding}

/-- Every finding in `findings` carries the identifier of `check`. -/
def Own (check : Check) (findings : List Finding) : Prop :=
  ∀ finding ∈ findings, finding.check = check.id

namespace Own

theorem nil : check.Own [] := by
  intro finding hfinding
  cases hfinding

theorem report {severity : Severity} {location : Location} {message : String}
    {confidence : Option Confidence} :
    check.Own [check.report severity location message confidence] := by
  intro finding hfinding
  rw [List.mem_singleton.mp hfinding]
  rfl

theorem append {more : List Finding} (h : check.Own findings) (h' : check.Own more) :
    check.Own (findings ++ more) := by
  intro finding hfinding
  rcases List.mem_append.mp hfinding with hfinding | hfinding
  · exact h finding hfinding
  · exact h' finding hfinding

theorem cons {finding : Finding} (h : check.Own [finding]) (h' : check.Own findings) :
    check.Own (finding :: findings) :=
  h.append h'

theorem ite {p : Prop} [Decidable p] {more : List Finding} (h : check.Own findings)
    (h' : check.Own more) : check.Own (if p then findings else more) := by
  split
  · exact h
  · exact h'

theorem flatMap {α : Type} {values : List α} {f : α → List Finding}
    (h : ∀ a ∈ values, check.Own (f a)) : check.Own (values.flatMap f) := by
  intro finding hfinding
  obtain ⟨a, ha, hfinding⟩ := List.mem_flatMap.mp hfinding
  exact h a ha finding hfinding

theorem filterMap {α : Type} {values : List α} {f : α → Option Finding}
    (h : ∀ a ∈ values, check.Own (f a).toList) : check.Own (values.filterMap f) := by
  intro finding hfinding
  obtain ⟨a, ha, hfinding⟩ := List.mem_filterMap.mp hfinding
  exact h a ha finding (by simp [hfinding])

theorem map {α : Type} {values : List α} {f : α → Finding}
    (h : ∀ a ∈ values, check.Own [f a]) : check.Own (values.map f) := by
  intro finding hfinding
  obtain ⟨a, ha, rfl⟩ := List.mem_map.mp hfinding
  exact h a ha (f a) (List.mem_singleton.mpr rfl)

/-- Filtering the `Own` findings of a check by identifier keeps all of them or none. -/
theorem filter (h : check.Own findings) (kept : String → Bool) :
    findings.filter (fun finding => kept finding.check)
      = if kept check.id then findings else [] := by
  split
  · next hkept =>
    apply List.filter_eq_self.mpr
    intro finding hfinding
    rwa [h finding hfinding]
  · next hkept =>
    apply List.filter_eq_nil_iff.mpr
    intro finding hfinding
    rwa [h finding hfinding]

end Own

/-! ## The checks -/

theorem own_responsibilities (settings : Settings) (c : Class) :
    singleResponsibility.Own (responsibilities settings c) := by
  have hsize : singleResponsibility.Own (sizeFindings settings c) :=
    Own.ite Own.report (Own.ite Own.report (Own.ite Own.report Own.nil))
  have hcohesion : singleResponsibility.Own (cohesionFindings settings c) := by
    unfold cohesionFindings
    split
    · exact Own.nil
    · exact Own.ite Own.report (Own.ite Own.report Own.nil)
  exact hsize.append (Own.ite hcohesion Own.nil)

theorem own_branchFindings (settings : Settings) (c : Class) :
    openClosed.Own (branchFindings settings c) := by
  apply Own.append
  · apply Own.flatMap
    intro method _
    exact Own.ite Own.report Own.nil
  · exact Own.ite Own.report Own.nil

theorem own_extensibility (settings : Settings) (known : Option Registry) (c : Class) :
    openClosed.Own (extensibility settings known c) := by
  unfold extensibility
  apply Own.ite
  · cases known with
    | none => exact Own.report
    | some registry => exact Own.ite Own.nil Own.report
  · apply Own.ite Own.nil
    cases known with
    | none => exact own_branchFindings settings c
    | some registry =>
      apply (own_branchFindings settings c).append
      exact (Own.ite Own.report Own.nil).append (Own.ite Own.report Own.nil)

theorem own_callChains (c : Class) : leastKnowledge.Own (callChains c) := by
  apply Own.ite Own.nil
  apply Own.flatMap
  intro method _
  exact Own.ite Own.nil Own.report

theorem own_collectionFinding? (place : String) (location : Location) (type : String) :
    programToInterface.Own (collectionFinding? place location type).toList := by
  unfold collectionFinding?
  cases preferredInterface? type with
  | none => exact Own.nil
  | some better => exact Own.report

theorem own_collectionTypes (c : Class) : programToInterface.Own (collectionTypes c) := by
  apply Own.append
  · intro finding hfinding
    -- what is left of findings on one field was among them
    have hmem := List.mem_of_find?_eq_some (Text.mem_distinctBy.mp hfinding)
    exact Own.filterMap (fun field _ => own_collectionFinding? _ _ field.typeName) finding hmem
  · apply Own.flatMap
    intro method _
    apply (own_collectionFinding? _ _ _).append
    apply Own.filterMap
    intro type _
    exact own_collectionFinding? _ _ type

theorem own_securityFindings (criteria : Criteria) (c : Class) :
    security.Own (securityFindings criteria c) := by
  rw [securityFindings_eq]
  apply Own.flatMap
  intro method _
  apply Own.append
  · apply Own.filterMap
    intro instruction _
    unfold secretFinding?
    split
    · cases Secret.classify? criteria (Text.trimmed _) with
      | none => exact Own.nil
      | some confidence => exact Own.report
    · exact Own.nil
  · unfold injectionFinding? QuerySignals.verdict?
    dsimp only
    split_ifs
    · exact Own.nil
    · exact Own.report
    · exact Own.report
    · exact Own.nil

theorem own_adapters (known : Option Registry) (c : Class) :
    adapterPattern.Own (adapters known c) := by
  apply Own.ite Own.nil
  apply Own.filterMap
  intro field _
  unfold adapterFinding?
  cases adaptee? c field with
  | none => exact Own.nil
  | some adaptee =>
    rw [Option.bind_eq_bind, Option.bind_some]
    dsimp only
    split_ifs
    · exact Own.nil
    · cases adapterConfidence? known c adaptee with
      | none => exact Own.nil
      | some confidence => exact Own.report

theorem own_decorators (known : Option Registry) (c : Class) :
    decoratorPattern.Own (decorators known c) := by
  refine Own.ite ?_ Own.nil
  apply Own.filterMap
  intro field _
  unfold decoratorFinding?
  cases field.objectType? with
  | none => exact Own.nil
  | some wrapped =>
    rw [Option.bind_eq_bind, Option.bind_some]
    dsimp only
    split_ifs
    · exact Own.nil
    · exact Own.report

theorem own_strategies (known : Option Registry) (c : Class) :
    strategyPattern.Own (strategies known c) := by
  cases known with
  | none => exact Own.nil
  | some registry =>
    apply Own.ite Own.nil
    apply Own.flatMap
    intro field _
    unfold strategyFieldFindings
    cases strategyType? c field with
    | none => exact Own.nil
    | some type =>
      dsimp only
      cases registry.resolve? type with
      | none => exact Own.report
      | some strategy =>
        refine Own.ite ?_ Own.nil
        -- the main finding on the field, and after it perhaps one on calls that are missing
        apply Own.cons
        · unfold implementationFinding
          dsimp only
          split
          · exact Own.report
          · exact Own.report
          · exact Own.report
        · unfold idleStrategyFinding?
          dsimp only
          split_ifs
          · exact Own.nil
          · exact Own.report

theorem own_templates (c : Class) : templateMethod.Own (templates c) := by
  apply Own.ite Own.nil
  apply Own.filterMap
  intro method _
  unfold templateFinding?
  dsimp only
  split_ifs
  · exact Own.nil
  · exact Own.report
  · exact Own.report
  · exact Own.nil

theorem own_unreadVariables (c : Class) : unusedVariable.Own (unreadVariables c) := by
  apply Own.ite Own.nil
  apply Own.append
  · apply Own.flatMap
    intro method _
    exact Own.map fun _ _ => Own.report
  · exact Own.map fun _ _ => Own.report

theorem own_methodLengths (settings : Settings) (c : Class) :
    methodLength.Own (methodLengths settings c) := by
  apply Own.filterMap
  intro method _
  unfold lengthFinding?
  dsimp only
  split_ifs
  · exact Own.report
  · exact Own.report
  · exact Own.nil

theorem own_methodNames (c : Class) : methodNaming.Own (methodNames c) :=
  Own.ite Own.nil (Own.map fun _ _ => Own.report)

theorem own_fieldNames (c : Class) : fieldNaming.Own (fieldNames c) :=
  Own.map fun _ _ => Own.report

theorem own_consolePrints (c : Class) : consolePrint.Own (consolePrints c) := by
  apply Own.flatMap
  intro method _
  exact Own.map fun _ _ => Own.report

/-- `run` returns `Own` findings of the check. -/
theorem own_run (check : Check) (criteria : Criteria) (known : Option Registry) (c : Class) :
    check.Own (check.run criteria known c) := by
  cases check with
  | singleResponsibility => exact own_responsibilities criteria.settings c
  | openClosed => exact own_extensibility criteria.settings known c
  | leastKnowledge => exact own_callChains c
  | programToInterface => exact own_collectionTypes c
  | security => exact own_securityFindings criteria c
  | adapterPattern => exact own_adapters known c
  | decoratorPattern => exact own_decorators known c
  | strategyPattern => exact own_strategies known c
  | templateMethod => exact own_templates c
  | unusedVariable => exact own_unreadVariables c
  | methodLength => exact own_methodLengths criteria.settings c
  | methodNaming => exact own_methodNames c
  | fieldNaming => exact own_fieldNames c
  | consolePrint => exact own_consolePrints c

end Check

/-! ## Leaving checks out -/

namespace Analyzer

/-- The analyzer restricted to the checks whose identifier satisfies `kept`. -/
def keep (analyzer : Analyzer) (kept : String → Bool) : Analyzer :=
  { analyzer with checks := analyzer.checks.filter fun check => kept check.id }

variable (analyzer : Analyzer) (kept : String → Bool)

/-- `findingsIn` of the restricted analyzer filters `findingsIn` by the check of each finding. -/
theorem findingsIn_keep (known : Option Registry) (c : Class) :
    (analyzer.keep kept).findingsIn known c
      = (analyzer.findingsIn known c).filter fun finding => kept finding.check := by
  rw [findingsIn, findingsIn, keep, List.filter_flatMap]
  dsimp only
  induction analyzer.checks with
  | nil => rfl
  | cons check rest ih =>
    rw [List.flatMap_cons, ← ih, (check.own_run analyzer.criteria known c).filter kept,
      List.filter_cons]
    split
    · rfl
    · rfl

theorem analyzeAmong_keep (targets others : List Class) :
    (analyzer.keep kept).analyzeAmong targets others
      = (analyzer.analyzeAmong targets others).filter fun finding => kept finding.check := by
  rw [analyzeAmong, analyzeAmong, List.filter_flatMap]
  apply List.flatMap_congr
  intro c _
  exact findingsIn_keep analyzer kept _ c

end Analyzer

end ClassAudit
