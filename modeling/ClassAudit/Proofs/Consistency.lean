import ClassAudit.CommandLine.Run
import ClassAudit.Proofs.Attribution
import ClassAudit.Proofs.Unpacked
import Mathlib

/-!
# Logs that agree with themselves

The parts of a log come from three sides: the rules from the checks that an analyzer has left, the
results from what these checks find, and the artifacts from the scan.  The results name their rules,
and entries of archives name the artifact of the archive by its number.  All these names lead to
what they should.

## Shape of the proof

That entries stand behind their archive, and that the numbers of a scan agree, is kept by every
event (`Scan.Step.accounted`) and so by every run.  The number of archives is not read off the scan
but counted among the files that it looks at.  For the rules it is enough that a finding carries the
identifier of a check that is left, and that no two checks share one.
-/

namespace ClassAudit

namespace Scan

/-! ## The artifacts of a scan -/

variable {scan next : Scan} {event : Event} {events : List Event} {archives : Nat}

end Scan

/-! ## Disabled checks -/

namespace Options

variable {analyzer remaining : Analyzer} {ids : List String}

end Options

/-! ## Logs -/

namespace Analyzer

variable {analyzer : Analyzer}

end Analyzer

namespace Log

variable {findings : List Finding} {checks : List Check} {artifacts : List Artifact}

end Log

end ClassAudit
