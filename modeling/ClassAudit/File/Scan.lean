import ClassAudit.Archive.Zip
import ClassAudit.ClassFile.Load
import ClassAudit.File.Tree
import ClassAudit.Report.Log

/-!
# Scanning files for classes

A scan takes the classes out of files, directories and archives.  What gives no class is set down as
a failure, and the scan goes on; only a named file of a kind that is not known ends it.  A directory
that cannot be listed would end it too, but a `FileTree` holds none, and `ScanError` has no case for
it.

## Shape of a scan

The input is scanned first, and then the further paths in the order of their texts.  A directory
stands for the files below it, in the order of their listing.  Classes, artifacts and failures are
kept in the order in which they were met.
-/

namespace ClassAudit

/-- The purpose for which classes are loaded. -/
inductive Role where
  /-- The classes are analysed. -/
  | target
  /-- The classes are only put into the registry. -/
  | classpath
  deriving DecidableEq, Repr

/-- The result of a scan. -/
structure Scan where
  classes : List Class := []
  classpathClasses : List Class := []
  artifacts : List Artifact := []
  failures : List LoadError := []
  /-- The number of classes of both roles. -/
  classCount : Nat := 0

inductive ScanError where
  | unsupported (path : String)
  deriving DecidableEq, Repr

namespace ScanError

def message : ScanError → String
  | .unsupported path => "unsupported input file: " ++ path

end ScanError

namespace Scan

def addClass (scan : Scan) (role : Role) (c : Class) : Scan :=
  match role with
  | .target => { scan with classes := scan.classes ++ [c], classCount := scan.classCount + 1 }
  | .classpath =>
    { scan with
      classpathClasses := scan.classpathClasses ++ [c]
      classCount := scan.classCount + 1 }

def addArtifact (scan : Scan) (artifact : Artifact) : Scan :=
  { scan with artifacts := scan.artifacts ++ [artifact] }

def fail (scan : Scan) (error : LoadError) : Scan :=
  { scan with failures := scan.failures ++ [error] }

/-- Loads `bytes` and adds the class with its artifact, or the failure. -/
def loadUnit (scan : Scan) (role : Role) (bytes : Bytes) (artifact : Artifact) : Scan :=
  match Class.load artifact.uri bytes with
  | .ok c => (scan.addClass role c).addArtifact artifact
  | .error error => scan.fail error

/-! ## Archives -/

/-- The name of an archive entry as a unit and an artifact. -/
def entryUri (path name : String) : String :=
  "jar:" ++ path ++ "!/" ++ name

/-- The name ends with `.class`, but not with `module-info.class`. -/
def isClassName (name : String) : Bool :=
  Text.endsWith name ".class" && !Text.endsWith name "module-info.class"

/-- The entries that open and have an `isClassName` name, sorted by name. -/
def classEntries (archive : Archive) : List ArchiveEntry :=
  (archive.entries.filter fun entry =>
    entry.opens && !entry.isDirectory && isClassName entry.name).mergeSort
      fun a b => decide (a.name ≤ b.name)

/-- Scans an entry of the archive at `path`, whose artifact has the index `parent`. -/
def scanEntry (path : String) (role : Role) (parent : Nat) (scan : Scan) (entry : ArchiveEntry) :
    Scan :=
  let uri := entryUri path entry.name
  match entry.read? with
  | none => scan.fail (.unreadable uri)
  | some bytes => scan.loadUnit role bytes { uri, length := entry.size, parentIndex := some parent }

/-- Scans the archive at `path`, whose artifact has the index `parent`.  Each entry that does not
open is a failure of the archive. -/
def scanEntries (path : String) (role : Role) (parent : Nat) (archive : Archive) (scan : Scan) :
    Scan :=
  let closed := archive.entries.filter (!·.opens)
  let scan := closed.foldl (fun scan _ => scan.fail (.badArchive path)) scan
  (classEntries archive).foldl (scanEntry path role parent) scan

/-! ## Files -/

/-- Scans a class file. -/
def scanClassFile (path : String) (role : Role) (isInput : Bool) (file : Option FileTree)
    (scan : Scan) : Scan :=
  match file.bind FileTree.content? with
  | none => scan.fail (.unreadable path)
  | some bytes =>
    scan.loadUnit role bytes { uri := path, length := bytes.length, isTarget := isInput }

/-- Scans an archive file. -/
def scanArchiveFile (path : String) (role : Role) (isInput : Bool) (file : Option FileTree)
    (scan : Scan) : Scan :=
  match file.bind FileTree.content? with
  | none => scan.fail (.unreadable path)
  | some bytes =>
    match Archive.ofBytes? bytes with
    | none => scan.fail (.badArchive path)
    | some archive =>
      scanEntries path role scan.artifacts.length archive
        (scan.addArtifact { uri := path, length := bytes.length, isTarget := isInput })

/-- Scans a file with the extension `class` or `jar`; `none` for any other. -/
def scanFile? (path : String) (role : Role) (isInput : Bool) (file : Option FileTree)
    (scan : Scan) : Option Scan :=
  match Path.extension path with
  | "class" => some (scanClassFile path role isInput file scan)
  | "jar" => some (scanArchiveFile path role isInput file scan)
  | _ => none

/-- `scanFile?` over the files of a directory, where files with other extensions are skipped. -/
def scanListing (role : Role) (files : List (String × FileTree)) (scan : Scan) : Scan :=
  files.foldl (fun scan (path, file) =>
    (scanFile? path role false (some file) scan).getD scan) scan

@[simp]
theorem scanListing_nil (role : Role) (scan : Scan) : scanListing role [] scan = scan := rfl

@[simp]
theorem scanListing_cons (role : Role) (path : String) (file : FileTree)
    (files : List (String × FileTree)) (scan : Scan) :
    scanListing role ((path, file) :: files) scan
      = scanListing role files ((scanFile? path role false (some file) scan).getD scan) := rfl

@[simp]
theorem scanListing_append (role : Role) (files more : List (String × FileTree)) (scan : Scan) :
    scanListing role (files ++ more) scan
      = scanListing role more (scanListing role files scan) :=
  List.foldl_append

/-- Scans a path of the command line.  A file with another extension than `class` or `jar` is an
error. -/
def scanPath (find : String → Option FileTree) (path : String) (role : Role) (isInput : Bool)
    (scan : Scan) : Except ScanError Scan :=
  match find path with
  | some (.directory entries) =>
    .ok (scanListing role (FileTree.listing path (.directory entries)) scan)
  | file =>
    match scanFile? path role isInput file scan with
    | some scan => .ok scan
    | none => .error (.unsupported path)

theorem scanPath_directory {find : String → Option FileTree} {path : String}
    {entries : List (String × FileTree)} (h : find path = some (.directory entries)) (role : Role)
    (isInput : Bool) (scan : Scan) :
    scanPath find path role isInput scan
      = .ok (scanListing role (FileTree.listing path (.directory entries)) scan) := by
  rw [scanPath, h]

theorem scanPath_file {find : String → Option FileTree} {path : String} {file : FileTree}
    (h : find path = some file) (hfile : file.isDirectory = false) (role : Role) (isInput : Bool)
    (scan : Scan) :
    scanPath find path role isInput scan
      = match scanFile? path role isInput (some file) scan with
        | some scan => .ok scan
        | none => .error (.unsupported path) := by
  cases file with
  | directory _ => cases hfile
  | file _ => rw [scanPath, h]
  | unreadable => rw [scanPath, h]

/-- Scans `input` and then `classpath` in byte order. -/
def run (find : String → Option FileTree) (input : String) (classpath : List String) :
    Except ScanError Scan := do
  let scan ← scanPath find input .target true {}
  let sorted := classpath.mergeSort fun a b => decide (a ≤ b)
  sorted.foldlM (fun scan path => scanPath find path .classpath false scan) scan

end Scan

end ClassAudit
