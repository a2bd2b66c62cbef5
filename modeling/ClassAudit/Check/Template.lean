import ClassAudit.Check.Basic
import ClassAudit.Text.Search

/-!
# Template methods

A method of an abstract class that calls several of the methods that the class leaves open.
Subclasses fill in the steps; the method fixes their order, and should be final so that it stays
fixed.
-/

namespace ClassAudit.Check

/-- The number of steps from which a method is a template. -/
def minSteps : Nat := 2

/-- The names of the abstract methods of `c`, in byte order. -/
def openSteps (c : Class) : List String :=
  Text.ordered ((c.methods.filter (·.access.isAbstract)).map Method.name)

/-- The `openSteps` of `c` that `method` calls, in byte order. -/
def calledSteps (c : Class) (method : Method) : List String :=
  let own := method.calls.filter fun site =>
    site.owner = c.name && (openSteps c).contains site.name
  Text.ordered (own.map CallSite.name)

/-- The method is concrete, not static, not synthetic and no initializer. -/
def isTemplateCandidate (method : Method) : Bool :=
  !method.access.isAbstract && !method.access.isStatic && !method.access.isSynthetic
    && !method.isInitializer

/-- The finding on `method` if it calls at least `minSteps` of the `openSteps` and is final or not
private. -/
def templateFinding? (c : Class) (method : Method) : Option Finding :=
  let called := calledSteps c method
  let steps := Text.commaList called
  let name := method.name
  if called.length < minSteps then none
  else if method.access.isFinal then
    some (templateMethod.report .info (c.memberLocation name)
      (s!"Template Method pattern detected: final method '{name}' defines the algorithm; "
        ++ s!"abstract steps: {steps}")
      (some .high))
  else if method.access.visibility ≠ .priv then
    some (templateMethod.report .info (c.memberLocation name)
      (s!"Possible Template Method: '{name}' calls abstract steps {steps}; "
        ++ "consider making it final so subclasses cannot change the algorithm")
      (some .low))
  else none

/-- The findings of `templateMethod`, on the methods of an abstract class. -/
def templates (c : Class) : List Finding :=
  if !c.isAbstract || (openSteps c).length < minSteps then []
  else (c.methods.filter isTemplateCandidate).filterMap (templateFinding? c)

end ClassAudit.Check
