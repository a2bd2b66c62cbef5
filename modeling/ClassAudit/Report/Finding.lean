import ClassAudit.Text.Ordered

/-!
# Findings

What a check has to say about a class, where it says so, and how findings are counted.
-/

namespace ClassAudit

inductive Severity where
  | info
  | warning
  | error
  deriving DecidableEq, Repr

inductive Confidence where
  | low
  | medium
  | high
  deriving DecidableEq, Repr

/-- A type under its source name, with a member and a line where they are known. -/
structure Location where
  className : String
  member : Option String := none
  line : Option Nat := none
  deriving DecidableEq, Repr

/-- The result of a check; `check` is its identifier. -/
structure Finding where
  check : String
  severity : Severity
  message : String
  location : Location
  confidence : Option Confidence := none
  deriving DecidableEq, Repr

/-- The numbers of findings by severity and by check. -/
structure Summary where
  errors : Nat
  warnings : Nat
  infos : Nat
  /-- The identifiers of the checks with findings in byte order, each with its count. -/
  byCheck : List (String × Nat)
  deriving DecidableEq, Repr

namespace Severity

/-- The order of severities. -/
def rank : Severity → Nat
  | .info => 0
  | .warning => 1
  | .error => 2

def name : Severity → String
  | .info => "INFO"
  | .warning => "WARNING"
  | .error => "ERROR"

end Severity

namespace Confidence

/-- The order of confidences. -/
def rank : Confidence → Nat
  | .low => 0
  | .medium => 1
  | .high => 2

def name : Confidence → String
  | .low => "LOW"
  | .medium => "MEDIUM"
  | .high => "HIGH"

end Confidence

/-- The value of greatest `rank`; of several the last one. -/
def greatestBy? {α : Type} (rank : α → Nat) : List α → Option α
  | [] => none
  | a :: rest =>
    match greatestBy? rank rest with
    | none => some a
    | some b => if rank b < rank a then some a else some b

namespace Location

/-- The location in reports, `type#member:line`. -/
def render (location : Location) : String :=
  location.className
    ++ (match location.member with
        | some member => "#" ++ member
        | none => "")
    ++ (match location.line with
        | some line => ":" ++ toString line
        | none => "")

/-- `compare` extended to `Option`, where `none` comes first. -/
def compareOption {α : Type} (compare : α → α → Ordering) : Option α → Option α → Ordering
  | none, none => .eq
  | none, some _ => .lt
  | some _, none => .gt
  | some a, some b => compare a b

/-- The lexicographic order by `className`, `member` and `line`. -/
def order (a b : Location) : Ordering :=
  (compare a.className b.className).then
    ((compareOption compare a.member b.member).then (compareOption compare a.line b.line))

/-- The locations sorted by `order`. -/
def sorted (locations : List Location) : List Location :=
  locations.mergeSort fun a b => (order a b).isLE

end Location

namespace Finding

/-- The message followed by the confidence, if there is one. -/
def fullMessage (finding : Finding) : String :=
  match finding.confidence with
  | some confidence => finding.message ++ " (confidence: " ++ confidence.name ++ ")"
  | none => finding.message

/-- The finding as a line of `plainLines`. -/
def render (finding : Finding) : String :=
  "[" ++ finding.severity.name ++ "] " ++ finding.check ++ " at " ++ finding.location.render ++ ": "
    ++ finding.fullMessage

end Finding

namespace Summary

def empty : Summary :=
  { errors := 0, warnings := 0, infos := 0, byCheck := [] }

/-- Counts one more finding under its severity and its check. -/
def add (summary : Summary) (finding : Finding) : Summary :=
  let byCheck := Text.increment finding.check summary.byCheck
  match finding.severity with
  | .error => { summary with errors := summary.errors + 1, byCheck }
  | .warning => { summary with warnings := summary.warnings + 1, byCheck }
  | .info => { summary with infos := summary.infos + 1, byCheck }

/-- `add` folded over `findings`. -/
def ofFindings (findings : List Finding) : Summary :=
  findings.foldl add empty

def total (summary : Summary) : Nat :=
  summary.errors + summary.warnings + summary.infos

end Summary

end ClassAudit
