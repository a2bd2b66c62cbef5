import ClassAudit.Check.Basic
import ClassAudit.Report.Json

/-!
# Analysis logs

The result of a run for other programs, in the format SARIF 2.1.0: the tool with the rules it
applied, how it was called, the results, and the files and archive entries that were looked at.
-/

namespace ClassAudit

/-- A file or archive entry that was scanned. -/
structure Artifact where
  uri : String
  length : Nat
  /-- For an archive entry, the index of the archive among the artifacts. -/
  parentIndex : Option Nat := none
  /-- The artifact is the input of the run. -/
  isTarget : Bool := false
  deriving DecidableEq, Repr

structure Invocation where
  arguments : List String
  commandLine : Option String := none
  deriving DecidableEq, Repr

namespace Log

/-- The SARIF level of a result. -/
inductive Level where
  | note
  | warning
  | error
  deriving DecidableEq, Repr

structure Rule where
  id : String
  name : String
  description : String
  deriving DecidableEq, Repr

structure LogicalLocation where
  name : String
  fullyQualifiedName : String
  isMember : Bool
  deriving DecidableEq, Repr

structure Result where
  ruleId : String
  level : Level
  message : String
  location : LogicalLocation
  deriving DecidableEq, Repr

end Log

/-- The SARIF log of one run. -/
structure Log where
  rules : List Log.Rule
  invocation : Invocation
  results : List Log.Result
  artifacts : List Artifact
  deriving DecidableEq, Repr

namespace Log

def toolName : String := "classcheck"

def toolVersion : String := "0.1.0"

/-- The version of SARIF. -/
def formatVersion : String := "2.1.0"

/-- The URI of the SARIF schema. -/
def schema : String := "https://schemastore.azurewebsites.net/schemas/json/sarif-2.1.0.json"

/-! ## From findings to a log -/

/-- The `Rule` of a check. -/
def Rule.ofCheck (check : Check) : Rule :=
  { id := check.id, name := check.name, description := check.description }

def Level.ofSeverity : Severity → Level
  | .info => .note
  | .warning => .warning
  | .error => .error

/-- The `LogicalLocation` of a member, or of the type without one. -/
def LogicalLocation.ofLocation (location : Location) : LogicalLocation :=
  { name := location.member.getD location.className
    fullyQualifiedName := location.render
    isMember := location.member.isSome }

/-- The `Result` of a finding, with the confidence in the message. -/
def Result.ofFinding (finding : Finding) : Result :=
  { ruleId := finding.check
    level := Level.ofSeverity finding.severity
    message := finding.fullMessage
    location := LogicalLocation.ofLocation finding.location }

/-- The log of `findings`, with a rule per check. -/
def ofFindings (findings : List Finding) (checks : List Check) (artifacts : List Artifact)
    (invocation : Invocation) : Log :=
  { rules := checks.map Rule.ofCheck
    invocation
    results := findings.map Result.ofFinding
    artifacts }

/-! ## The log as a document -/

/-- The object with `text` as its only field. -/
def wrapped (text : String) : Json :=
  .object [("text", .text text)]

def Level.name : Level → String
  | .note => "note"
  | .warning => "warning"
  | .error => "error"

def Rule.toJson (rule : Rule) : Json :=
  .object [("id", .text rule.id), ("name", .text rule.name),
    ("shortDescription", wrapped rule.description)]

def LogicalLocation.toJson (location : LogicalLocation) : Json :=
  .object [("name", .text location.name),
    ("fullyQualifiedName", .text location.fullyQualifiedName),
    ("kind", .text (if location.isMember then "member" else "type"))]

def Result.toJson (result : Result) : Json :=
  .object [("ruleId", .text result.ruleId), ("level", .text result.level.name),
    ("message", wrapped result.message),
    ("locations", .array [.object [("logicalLocations", .array [result.location.toJson])]])]

end Log

def Artifact.toJson (artifact : Artifact) : Json :=
  .object ([("location", .object [("uri", .text artifact.uri)]),
      ("length", .number artifact.length)]
    ++ Json.optionalField "parentIndex" .number artifact.parentIndex
    ++ if artifact.isTarget then [("roles", Json.texts ["analysisTarget"])] else [])

def Invocation.toJson (invocation : Invocation) : Json :=
  .object ([("executionSuccessful", .bool true), ("arguments", Json.texts invocation.arguments)]
    ++ Json.optionalField "commandLine" .text invocation.commandLine)

namespace Log

/-- The log as `Json`.  The field `artifacts` is left out if it is empty. -/
def toJson (log : Log) : Json :=
  let driver : Json := .object [("name", .text toolName), ("version", .text toolVersion),
    ("rules", .array (log.rules.map Rule.toJson))]
  let artifacts : List (String × Json) :=
    if log.artifacts.isEmpty then []
    else [("artifacts", .array (log.artifacts.map Artifact.toJson))]
  let run : Json := .object ([("tool", .object [("driver", driver)]),
    ("invocations", .array [log.invocation.toJson]),
    ("results", .array (log.results.map Result.toJson))] ++ artifacts)
  .object [("$schema", .text schema), ("version", .text formatVersion), ("runs", .array [run])]

end Log

end ClassAudit
