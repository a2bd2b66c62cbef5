import ClassAudit.Check.CallChain
import ClassAudit.Check.Collection
import ClassAudit.Check.Console
import ClassAudit.Check.Convention
import ClassAudit.Check.Delegation
import ClassAudit.Check.Extension
import ClassAudit.Check.Responsibility
import ClassAudit.Check.Security
import ClassAudit.Check.Strategy
import ClassAudit.Check.Template
import ClassAudit.Check.Unread

/-!
# The analyzer

Checks and the criteria they apply.  Findings come class by class, and for each class check by
check.

The check of variables adds up slots in 16 bits, and a sum that does not fit aborts the analysis it
is part of.  The functions with a question mark are the analysis as it runs, with `none` for an
abort.  Those without one count exactly and always have findings.
-/

namespace ClassAudit

namespace Check

/-- The findings of `check` on `c`, with or without a `Registry` of known classes. -/
def run (check : Check) (criteria : Criteria) (known : Option Registry) (c : Class) :
    List Finding :=
  match check with
  | .singleResponsibility => responsibilities criteria.settings c
  | .openClosed => extensibility criteria.settings known c
  | .leastKnowledge => callChains c
  | .programToInterface => collectionTypes c
  | .security => securityFindings criteria c
  | .adapterPattern => adapters known c
  | .decoratorPattern => decorators known c
  | .strategyPattern => strategies known c
  | .templateMethod => templates c
  | .unusedVariable => unreadVariables c
  | .methodLength => methodLengths criteria.settings c
  | .methodNaming => methodNames c
  | .fieldNaming => fieldNames c
  | .consolePrint => consolePrints c

/-- `run` with slots in 16 bits; `none` if a sum of slots overflows. -/
def run? (check : Check) (criteria : Criteria) (known : Option Registry) (c : Class) :
    Option (List Finding) :=
  match check with
  | .unusedVariable => unreadVariables? c
  | check => some (check.run criteria known c)

end Check

/-- The criteria, and the checks in the order in which they run. -/
structure Analyzer where
  criteria : Criteria
  checks : List Check

namespace Analyzer

/-- The analyzer with `Check.all`, for settings that `Criteria.ofSettings` accepts. -/
def ofSettings (settings : Settings) : Except SettingsError Analyzer := do
  return { criteria := ← Criteria.ofSettings settings, checks := Check.all }

/-- `analyzer` without the checks whose identifier is `id`. -/
def remove (analyzer : Analyzer) (id : String) : Analyzer :=
  { analyzer with checks := analyzer.checks.filter (·.id ≠ id) }

/-- `remove`, or `none` if no check has the identifier `id`. -/
def remove? (analyzer : Analyzer) (id : String) : Option Analyzer :=
  if analyzer.checks.any (·.id = id) then some (analyzer.remove id) else none

/-- `analyzer` with `check` appended. -/
def add (analyzer : Analyzer) (check : Check) : Analyzer :=
  { analyzer with checks := analyzer.checks ++ [check] }

/-- `analyzer` restricted to the checks whose identifiers are in `ids`. -/
def only (analyzer : Analyzer) (ids : List String) : Analyzer :=
  { analyzer with checks := analyzer.checks.filter fun check => ids.contains check.id }

/-- The findings of all checks on `c`, in the order of the checks. -/
def findingsIn (analyzer : Analyzer) (known : Option Registry) (c : Class) : List Finding :=
  analyzer.checks.flatMap fun check => check.run analyzer.criteria known c

/-- The findings on each of `targets`, with `targets` and `others` in the registry. -/
def analyzeAmong (analyzer : Analyzer) (targets others : List Class) : List Finding :=
  let registry := Registry.ofClasses (targets ++ others)
  targets.flatMap (analyzer.findingsIn (some registry))

/-- `findingsIn`, or `none` if `run?` is `none` for a check. -/
def findingsIn? (analyzer : Analyzer) (known : Option Registry) (c : Class) :
    Option (List Finding) :=
  Check.collect? (fun check => check.run? analyzer.criteria known c) analyzer.checks

/-- `analyze`, or `none` if `run?` is `none` for a check. -/
def analyze? (analyzer : Analyzer) (c : Class) : Option (List Finding) :=
  analyzer.findingsIn? none c

/-- `analyzeAmong`, or `none` if `run?` is `none` for a check on a target. -/
def analyzeAmong? (analyzer : Analyzer) (targets others : List Class) : Option (List Finding) :=
  let registry := Registry.ofClasses (targets ++ others)
  Check.collect? (analyzer.findingsIn? (some registry)) targets

/-- `analyzeAmong?` without classes beside the targets. -/
def analyzeAll? (analyzer : Analyzer) (classes : List Class) : Option (List Finding) :=
  analyzer.analyzeAmong? classes []

end Analyzer

/-- The findings of `checks` on each of `classes`, with all of them in the registry. -/
def Check.runAll (checks : List Check) (criteria : Criteria) (classes : List Class) :
    List Finding :=
  let registry := Registry.ofClasses classes
  classes.flatMap fun c => checks.flatMap fun check => check.run criteria (some registry) c

/-- `runAll`, or `none` if `run?` is `none` for a check on a class. -/
def Check.runAll? (checks : List Check) (criteria : Criteria) (classes : List Class) :
    Option (List Finding) :=
  let registry := Registry.ofClasses classes
  collect? (fun c => collect? (fun check => check.run? criteria (some registry) c) checks) classes

end ClassAudit
