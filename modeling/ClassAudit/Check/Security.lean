import ClassAudit.Check.Injection
import ClassAudit.Check.Secret

/-!
# Security

One pass over the instructions of a method finds the secrets in its code and sees the signals of an
injection.  The verdict on injection comes after the pass, so it stands behind the secrets of its
method.
-/

namespace ClassAudit

/-- The state of a pass over instructions: the findings so far, and the signals seen so far. -/
structure SecurityPass where
  findings : List Finding
  signals : QuerySignals

namespace SecurityPass

/-- The transition of the pass on one instruction. -/
def step (criteria : Criteria) (c : Class) (method : Method) (pass : SecurityPass)
    (instruction : Instruction) : SecurityPass :=
  { findings := pass.findings ++ (Check.secretFinding? criteria c method instruction).toList
    signals := pass.signals.observe instruction.operation }

/-- `step` folded over instructions appends their secrets and folds `observe` over their operations.
-/
theorem foldl_step (criteria : Criteria) (c : Class) (method : Method) (pass : SecurityPass)
    (instructions : List Instruction) :
    instructions.foldl (step criteria c method) pass
      = { findings :=
            pass.findings ++ instructions.filterMap (Check.secretFinding? criteria c method)
          signals := (instructions.map Instruction.operation).foldl .observe pass.signals } := by
  induction instructions generalizing pass with
  | nil => simp
  | cons instruction rest ih =>
    rw [List.foldl_cons, ih, step]
    cases hfinding : Check.secretFinding? criteria c method instruction with
    | none => simp [hfinding]
    | some finding => simp [hfinding]

end SecurityPass

namespace Check

/-- Appends to `findings` the secrets of `method` and then the `verdict?` on its signals. -/
def methodSecurity (criteria : Criteria) (c : Class) (findings : List Finding) (method : Method) :
    List Finding :=
  let pass := method.instructions.foldl (SecurityPass.step criteria c method) ⟨findings, .initial⟩
  pass.findings ++ (pass.signals.verdict? c method).toList

/-- The findings of `security`, method by method. -/
def securityFindings (criteria : Criteria) (c : Class) : List Finding :=
  c.methods.foldl (methodSecurity criteria c) []

theorem methodSecurity_eq (criteria : Criteria) (c : Class) (findings : List Finding)
    (method : Method) :
    methodSecurity criteria c findings method
      = findings ++ (secretFindings criteria c method ++ (injectionFinding? c method).toList) := by
  rw [methodSecurity, SecurityPass.foldl_step, List.append_assoc]
  rfl

/-- The run of `methodSecurity` over methods, behind any findings. -/
theorem foldl_methodSecurity (criteria : Criteria) (c : Class) (findings : List Finding)
    (methods : List Method) :
    methods.foldl (methodSecurity criteria c) findings
      = findings ++ methods.flatMap fun method =>
        secretFindings criteria c method ++ (injectionFinding? c method).toList := by
  induction methods generalizing findings with
  | nil => simp
  | cons method rest ih =>
    rw [List.foldl_cons, ih, methodSecurity_eq, List.flatMap_cons, List.append_assoc]

/-- `securityFindings` in terms of `secretFindings` and `injectionFinding?`. -/
theorem securityFindings_eq (criteria : Criteria) (c : Class) :
    securityFindings criteria c = c.methods.flatMap fun method =>
      secretFindings criteria c method ++ (injectionFinding? c method).toList :=
  foldl_methodSecurity criteria c [] c.methods

end Check

end ClassAudit
