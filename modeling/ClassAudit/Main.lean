import ClassAudit.CommandLine.Run

/-!
# The command line program

Reads the files that the command line names, runs the analysis on them, and delivers the report.
-/

namespace ClassAudit.Program

/-- The `FileTree` at `path`.  A directory that cannot be listed ends the program, since no
`FileTree` stands for it. -/
partial def readTree (path : String) : IO (Option FileTree) := do
  let place := System.mkFilePath [path]
  if ← place.isDir then
    let entries ← place.readDir
    let trees ← entries.toList.mapM fun entry => do
      return (entry.fileName, (← readTree (Path.child path entry.fileName)).getD .unreadable)
    return some (.directory trees)
  else if ← place.pathExists then
    try return some (.file (← IO.FS.readBinFile path).toList)
    catch _ => return some .unreadable
  else return none

/-- Writes the report to its destination, and the counts with the time since `start` to the standard
error. -/
def deliver (start : Nat) (delivery : Delivery) : IO UInt32 := do
  let written ←
    match delivery.file with
    | none => do
      IO.print delivery.report
      pure true
    | some path => do
      try
        IO.FS.writeFile path delivery.report
        pure true
      catch _ =>
        IO.eprintln ("Error: " ++ (RunError.cannotOpen path).message)
        pure false
  if !written then return 1
  if let some counts := delivery.counts then
    let elapsed := (← IO.monoMsNow) - start
    IO.eprintln s!"timing: total_ms={elapsed} {counts}"
  return 0

/-- `Options.run` on the file system. -/
def analyse (arguments : List String) (input : String) (options : Options) : IO UInt32 := do
  let start ← IO.monoMsNow
  let named := input :: options.classpath ++ options.config.toList
  let trees ← named.mapM fun path => do return (path, ← readTree path)
  let find (path : String) : Option FileTree := (trees.lookup path).join
  match options.run (Log.toolName :: arguments) find input with
  | .ok delivery => deliver start delivery
  | .error error => do
    IO.eprintln ("Error: " ++ error.message)
    return error.status

end ClassAudit.Program

open ClassAudit in
def main (arguments : List String) : IO UInt32 := do
  match Request.ofArguments? arguments with
  | none => do
    IO.eprint Outcome.helpText
    return 2
  | some .version => do
    IO.print Outcome.versionText
    return 0
  | some .help => do
    IO.print Outcome.helpText
    return 0
  | some (.analysis input options) => Program.analyse arguments input options
