import ClassAudit.Class.Registry
import ClassAudit.Settings.Basic

/-!
# Checks

The fourteen checks and how they present themselves.  A check looks at one class, alone or among the
classes of a registry; what it finds carries the identifier of the check.
-/

namespace ClassAudit

/-- The checks, in the order of `Check.all`. -/
inductive Check where
  | singleResponsibility
  | openClosed
  | leastKnowledge
  | programToInterface
  | security
  | adapterPattern
  | decoratorPattern
  | strategyPattern
  | templateMethod
  | unusedVariable
  | methodLength
  | methodNaming
  | fieldNaming
  | consolePrint
  deriving DecidableEq, Repr

/-- The category of a check in the descriptions of the checks. -/
inductive CheckCategory where
  | style
  | principle
  | pattern
  deriving DecidableEq, Repr

namespace CheckCategory

def name : CheckCategory → String
  | .style => "style"
  | .principle => "principle"
  | .pattern => "pattern"

end CheckCategory

namespace Check

/-- All checks, in the order in which an `Analyzer` runs them. -/
def all : List Check :=
  [.singleResponsibility, .openClosed, .leastKnowledge, .programToInterface, .security,
   .adapterPattern, .decoratorPattern, .strategyPattern, .templateMethod, .unusedVariable,
   .methodLength, .methodNaming, .fieldNaming, .consolePrint]

/-- The identifier of the check in reports and on the command line. -/
def id : Check → String
  | .singleResponsibility => "SINGLE_RESPONSIBILITY"
  | .openClosed => "OPEN_CLOSED"
  | .leastKnowledge => "LEAST_KNOWLEDGE"
  | .programToInterface => "PROGRAM_TO_INTERFACE"
  | .security => "SECURITY"
  | .adapterPattern => "ADAPTER_PATTERN"
  | .decoratorPattern => "DECORATOR_PATTERN"
  | .strategyPattern => "STRATEGY_PATTERN"
  | .templateMethod => "TEMPLATE_METHOD"
  | .unusedVariable => "UNUSED_VARIABLE"
  | .methodLength => "METHOD_LENGTH"
  | .methodNaming => "METHOD_NAMING"
  | .fieldNaming => "FIELD_NAMING"
  | .consolePrint => "CONSOLE_PRINT"

def name : Check → String
  | .singleResponsibility => "Single responsibility"
  | .openClosed => "Open/closed"
  | .leastKnowledge => "Principle of least knowledge"
  | .programToInterface => "Program to interface"
  | .security => "Security"
  | .adapterPattern => "Adapter pattern"
  | .decoratorPattern => "Decorator pattern"
  | .strategyPattern => "Strategy pattern"
  | .templateMethod => "Template Method pattern"
  | .unusedVariable => "Unused variables"
  | .methodLength => "Method length"
  | .methodNaming => "Method naming"
  | .fieldNaming => "Field naming"
  | .consolePrint => "Console printing"

def description : Check → String
  | .singleResponsibility => "God Classes and classes with low method-field cohesion"
  | .openClosed => "Branch-heavy classes, concrete coupling and interface extension points"
  | .leastKnowledge => "Method chains that reach through returned objects (Law of Demeter)"
  | .programToInterface => "Concrete collection types in declarations instead of their interfaces"
  | .security =>
    "Hardcoded secrets, dynamic SQL execution and untrusted input in query building"
  | .adapterPattern => "Classes that implement an interface by delegating to an unrelated type"
  | .decoratorPattern => "Classes that wrap and delegate to a field of their own supertype"
  | .strategyPattern => "Interface-typed fields with interchangeable implementations"
  | .templateMethod =>
    "Methods of abstract classes that call two or more of the class's abstract steps"
  | .unusedVariable => "Local variables and private fields that are never read"
  | .methodLength => "Methods whose bytecode exceeds the configured instruction counts"
  | .methodNaming => "Method names that do not follow camelCase"
  | .fieldNaming => "Constants that are not UPPER_SNAKE_CASE and fields that are not camelCase"
  | .consolePrint => "Direct use of System.out or System.err print methods"

def category : Check → CheckCategory
  | .singleResponsibility => .principle
  | .openClosed => .principle
  | .leastKnowledge => .principle
  | .programToInterface => .principle
  | .security => .principle
  | .adapterPattern => .pattern
  | .decoratorPattern => .pattern
  | .strategyPattern => .pattern
  | .templateMethod => .pattern
  | .unusedVariable => .style
  | .methodLength => .style
  | .methodNaming => .style
  | .fieldNaming => .style
  | .consolePrint => .style

/-- The check whose identifier is `id`. -/
def ofId? (id : String) : Option Check :=
  all.find? (·.id = id)

/-- A `Finding` with the identifier of `check`. -/
def report (check : Check) (severity : Severity) (location : Location) (message : String)
    (confidence : Option Confidence := none) : Finding :=
  { check := check.id, severity, message, location, confidence }

/-- The findings of `find` on `items`, concatenated; `none` if `find` is `none` for one of them. -/
def collect? {α : Type} (find : α → Option (List Finding)) : List α → Option (List Finding)
  | [] => some []
  | item :: rest => do
    let first ← find item
    let others ← collect? find rest
    return first ++ others

end Check

namespace Class

/-- The location of a finding on the class itself. -/
def location (c : Class) : Location :=
  { className := c.dottedName }

/-- The location of a finding on the field or method `member`. -/
def memberLocation (c : Class) (member : String) : Location :=
  { className := c.dottedName, member := some member }

/-- The location of a finding on `method`, written `method()`. -/
def callLocation (c : Class) (method : Method) : Location :=
  c.memberLocation (method.name ++ "()")

end Class

end ClassAudit
