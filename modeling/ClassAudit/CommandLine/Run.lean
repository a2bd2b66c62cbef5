import ClassAudit.CommandLine.Options
import ClassAudit.Analyzer
import ClassAudit.Report.Plain
import ClassAudit.File.Scan
import ClassAudit.Settings.Document

/-!
# Running an analysis

From a request to a report.  Files come from a function on paths, so that a run is the same on a
real file system and on a tree of files in memory.
-/

namespace ClassAudit

/-- The errors that end a run without a report. -/
inductive RunError where
  | inputNotFound (path : String)
  | classpathNotFound (path : String)
  | settings (error : SettingsError)
  | unknownCheck (id : String)
  | scan (error : ScanError)
  | cannotOpen (path : String)
  /-- A sum of slots overflows 16 bits, which aborts the program. -/
  | slotOverflow
  deriving DecidableEq, Repr

namespace RunError

def message : RunError → String
  | .inputNotFound path => "input not found: " ++ path
  | .classpathNotFound path => "classpath entry not found: " ++ path
  | .settings error => error.message
  | .unknownCheck id => "unknown check id: " ++ id
  | .scan error => error.message
  | .cannotOpen path => "failed to open " ++ path
  | .slotOverflow => "attempt to add with overflow"

/-- The exit status: 101 for an abort, and 1 otherwise. -/
def status : RunError → UInt32
  | .slotOverflow => 101
  | _ => 1

end RunError

/-- A report and its destination. -/
structure Delivery where
  report : String
  /-- The file for the report; `none` for the standard output. -/
  file : Option String
  /-- The counts to print if `timing` is set and `quiet` is not. -/
  counts : Option String

namespace Options

/-! ## Settings -/

/-- The text of the settings file at `path`. -/
def configText (find : String → Option FileTree) (path : String) : Except SettingsError String :=
  match ((find path).bind FileTree.content?).bind Text.decode with
  | some letters => .ok (String.ofList letters)
  | none => .error (.unreadable path)

/-- The settings of the file given by `--config`, or the default ones. -/
def baseSettings (options : Options) (find : String → Option FileTree) :
    Except SettingsError Settings :=
  match options.config with
  | none => .ok {}
  | some path => do Settings.ofText path (← configText find path)

/-- Overrides the method lengths that are given as options. -/
def applyLengths (options : Options) (settings : Settings) : Except SettingsError Settings :=
  if options.methodLengthWarning.isSome || options.methodLengthError.isSome then
    settings.setMethodLengths (options.methodLengthWarning.getD settings.methodLengthWarning)
      (options.methodLengthError.getD settings.methodLengthError)
  else .ok settings

/-- Overrides the class sizes that are given as options. -/
def applySizes (options : Options) (settings : Settings) : Except SettingsError Settings :=
  if options.maxFields.isSome || options.maxMethods.isSome then
    settings.setGodClassLimits (options.maxFields.getD settings.maxFields)
      (options.maxMethods.getD settings.maxMethods)
  else .ok settings

/-- Overrides `settings` by the options, in the order method lengths, class sizes, `--no-lcom4`,
secret patterns. -/
def override (options : Options) (settings : Settings) : Except SettingsError Settings := do
  let settings ← options.applyLengths settings
  let settings ← options.applySizes settings
  let settings := if options.withoutLcom4 then settings.setLcom4Enabled false else settings
  options.secretPatterns.foldlM Settings.addSecretPattern settings

/-- `override` of the `baseSettings`. -/
def loadSettings (options : Options) (find : String → Option FileTree) :
    Except SettingsError Settings := do
  options.override (← options.baseSettings find)

/-! ## The run -/

/-- Removes the checks with the given identifiers from `analyzer`, each of which must be there. -/
def disable (analyzer : Analyzer) : List String → Except RunError Analyzer
  | [] => .ok analyzer
  | id :: rest =>
    match analyzer.remove? id with
    | some analyzer => disable analyzer rest
    | none => .error (.unknownCheck id)

/-- Fails with `error` on the first path at which `find` finds nothing. -/
def requireFound (find : String → Option FileTree) (error : String → RunError) :
    List String → Except RunError Unit
  | [] => .ok ()
  | path :: rest => if (find path).isSome then requireFound find error rest else .error (error path)

/-- The analyzer of a run, without the disabled checks. -/
def analyzer (options : Options) (find : String → Option FileTree) : Except RunError Analyzer := do
  let settings ← (options.loadSettings find).mapError .settings
  let analyzer ← (Analyzer.ofSettings settings).mapError .settings
  disable analyzer options.disabled

/-- The file given by `--output`, where `-` stands for the standard output. -/
def reportFile (options : Options) : Option String :=
  options.output.filter fun path => Path.components path ≠ ["-"]

/-- The report on `findings` in the chosen `Format`. -/
def report (options : Options) (arguments : List String) (analyzer : Analyzer)
    (artifacts : List Artifact) (findings : List Finding) : String :=
  match options.format.getD .sarif with
  | .plain => Report.plain findings
  | .sarif =>
    let invocation : Invocation :=
      { arguments, commandLine := some (String.intercalate " " arguments) }
    (Log.ofFindings findings analyzer.checks artifacts invocation).toJson.render ++ "\n"

/-- The counts of classes, artifacts and findings, as printed with `--timing`. -/
def counts (scan : Scan) (findings : List Finding) : String :=
  let classes := scan.classCount
  let artifacts := scan.artifacts.length
  let found := findings.length
  s!"classes={classes} artifacts={artifacts} findings={found}"

/-- `analyzeAmong?` on the classes of `scan`, with `slotOverflow` in place of `none`. -/
def findings (analyzer : Analyzer) (scan : Scan) : Except RunError (List Finding) :=
  match analyzer.analyzeAmong? scan.classes scan.classpathClasses with
  | some findings => .ok findings
  | none => .error .slotOverflow

/-- Analyses `input`.  `arguments` is the whole command line, program name included. -/
def run (options : Options) (arguments : List String) (find : String → Option FileTree)
    (input : String) : Except RunError Delivery := do
  requireFound find .inputNotFound [input]
  requireFound find .classpathNotFound options.classpath
  let analyzer ← options.analyzer find
  let scan ← (Scan.run find input options.classpath).mapError .scan
  let findings ← findings analyzer scan
  return {
    report := options.report arguments analyzer scan.artifacts findings
    file := options.reportFile
    counts := if options.timing && !options.quiet then some (counts scan findings) else none }

end Options

/-! ## A run on files in memory -/

/-- The result of a run. -/
inductive Outcome where
  /-- The text on the standard output, the counts, and the files after the run. -/
  | success (output : String) (counts : Option String) (files : FileTree)
  | failure (error : RunError)
  /-- The command line is invalid. -/
  | usage

namespace Outcome

def versionText : String :=
  Log.toolName ++ " " ++ Log.toolVersion ++ "\n"

def helpText : String :=
  "Usage: " ++ Log.toolName ++ " --input <PATH> [OPTIONS]\n"

/-- Delivers a report to `files`. -/
def deliver (files : FileTree) (delivery : Delivery) : Outcome :=
  match delivery.file with
  | none => .success delivery.report delivery.counts files
  | some path =>
    match files.write? path delivery.report.toUTF8.toList with
    | some files => .success "" delivery.counts files
    | none => .failure (.cannotOpen path)

/-- Runs a command line on `files`. -/
def ofCommand (program : String) (arguments : List String) (files : FileTree) : Outcome :=
  match Request.ofArguments? arguments with
  | none => .usage
  | some .version => .success versionText none files
  | some .help => .success helpText none files
  | some (.analysis input options) =>
    match options.run (program :: arguments) files.find? input with
    | .error error => .failure error
    | .ok delivery => deliver files delivery

end Outcome

end ClassAudit
