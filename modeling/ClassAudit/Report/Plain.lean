import ClassAudit.Report.Finding

/-!
# Plain reports

The result of a run for people: one line for each finding, and then the counts.
-/

namespace ClassAudit

namespace Summary

/-- The lines with the counts, or `No findings.`. -/
def lines (summary : Summary) : List String :=
  let total := summary.total
  let errors := summary.errors
  let warnings := summary.warnings
  let infos := summary.infos
  if total = 0 then ["No findings."]
  else
    ["", s!"{total} finding(s): {errors} error(s), {warnings} warning(s), {infos} info"]
      ++ summary.byCheck.map fun (check, count) => s!"  {check}: {count}"

end Summary

namespace Report

/-- The findings, one per line, followed by the lines of their `Summary`. -/
def plainLines (findings : List Finding) : List String :=
  findings.map Finding.render ++ (Summary.ofFindings findings).lines

/-- `plainLines`, each followed by a line break. -/
def plain (findings : List Finding) : String :=
  String.join ((plainLines findings).map (· ++ "\n"))

end Report

end ClassAudit
