import ClassAudit.File.Scan
import ClassAudit.Proofs.ConstantPool
import ClassAudit.Proofs.FileTree
import Mathlib

/-!
# What a scan meets

A scan meets one thing after the other: a class that loads, a unit that gives none, an archive that
opens.  Which events there are, and in which order, can be read off the files without scanning them
(`Event.ofFile`, `Event.atPath`), and every scan that comes to an end has met exactly these
(`Scan.leads_of_run`).  Whether it does depends on the kinds of the paths and on nothing that is
found (`Scan.run_eq_error_iff`).

## Shape of the proof

`Scan.Step` says what one event can do to a scan, and `Scan.Leads` joins such steps.  The functions
of a scan are followed from the innermost to the outermost; the only thing they need to know of the
scan so far is that the artifact of an archive stays where it is while its entries are set down.
-/

namespace ClassAudit

/-- The class in `bytes`, `none` if they are refused. -/
def Class.ofBytes? (bytes : Bytes) : Option Class :=
  (RawClass.ofBytes? bytes).bind fun raw => raw.build.toOption

/-- `Class.load` depends on `unit` only in its errors. -/
theorem Class.toOption_load (unit : String) (bytes : Bytes) :
    (Class.load unit bytes).toOption = ofBytes? bytes := by
  rw [Class.load, ofBytes?]
  cases RawClass.ofBytes? bytes with
  | none => rfl
  | some raw => cases hbuild : raw.build <;> simp [hbuild, Except.toOption]

/-! ## Events -/

/-- The events of a scan. -/
inductive Event where
  /-- A class is loaded for `role`. -/
  | loaded (role : Role) (c : Class)
  /-- A unit fails to load. -/
  | failed
  /-- An archive is opened. -/
  | opened
  deriving DecidableEq

namespace Event

/-- The event for a unit with the given content, where `none` is content that cannot be read. -/
def ofContent (role : Role) (content : Option Bytes) : Event :=
  (content.bind Class.ofBytes?).elim failed (loaded role)

/-- The events of an archive: `opened`, one `failed` per entry that does not open, and one event per
class entry. -/
def ofArchive (role : Role) (archive : Archive) : List Event :=
  opened :: ((archive.entries.filter (!·.opens)).map (fun _ => failed)
    ++ (Scan.classEntries archive).map fun entry => ofContent role entry.read?)

/-- The events of a file, by the extension of its path. -/
def ofFile (role : Role) (path : String) (file : Option FileTree) : List Event :=
  match Path.extension path with
  | "class" => [ofContent role (file.bind FileTree.content?)]
  | "jar" => ((file.bind FileTree.content?).bind Archive.ofBytes?).elim [failed] (ofArchive role)
  | _ => []

end Event

namespace Scan

/-- The files at a path: the `listing` of a directory, and otherwise the file itself. -/
def filesAt (find : String → Option FileTree) (path : String) :
    List (String × Option FileTree) :=
  match find path with
  | some (.directory entries) =>
    (FileTree.listing path (.directory entries)).map fun file => (file.1, some file.2)
  | file => [(path, file)]

end Scan

namespace Event

/-- The events of `filesAt` a path. -/
def atPath (find : String → Option FileTree) (role : Role) (path : String) : List Event :=
  (Scan.filesAt find path).flatMap fun file => ofFile role file.1 file.2

/-- The events of `run`: those of the input, then those of the class path in byte order. -/
def ofRun (find : String → Option FileTree) (input : String) (classpath : List String) :
    List Event :=
  atPath find .target input
    ++ (classpath.mergeSort fun a b => decide (a ≤ b)).flatMap (atPath find .classpath)

end Event

/-! ## Steps -/

/-- The artifact is that of an archive. -/
def Artifact.IsArchive (artifact : Artifact) : Prop :=
  artifact.parentIndex = none ∧ Path.extension artifact.uri = "jar"

namespace Scan

/-- `parent` is the index of the artifact of the archive at `path`. -/
def Numbered (artifacts : List Artifact) (path : String) (parent : Nat) : Prop :=
  ∃ archive, artifacts[parent]? = some archive ∧ archive.IsArchive ∧ archive.uri = path

/-- If the artifact has a `parentIndex`, it is that of an archive in `artifacts`, and its `uri` is
an `entryUri` of this archive. -/
def Placed (artifacts : List Artifact) (artifact : Artifact) : Prop :=
  ∀ parent, artifact.parentIndex = some parent →
    ∃ path name, Numbered artifacts path parent ∧ artifact.uri = entryUri path name

/-- The transition of a scan on an event. -/
inductive Step (scan : Scan) : Event → Scan → Prop
  | loaded {role : Role} {c : Class} {artifact : Artifact}
      (hplaced : Placed scan.artifacts artifact) :
      Step scan (.loaded role c) ((scan.addClass role c).addArtifact artifact)
  | failed (error : LoadError) : Step scan .failed (scan.fail error)
  | opened {artifact : Artifact} (harchive : artifact.IsArchive) :
      Step scan .opened (scan.addArtifact artifact)

/-- The transitions of a scan on a list of events. -/
inductive Leads : Scan → List Event → Scan → Prop
  | nil (scan : Scan) : Leads scan [] scan
  | cons {scan between next : Scan} {event : Event} {events : List Event}
      (hstep : Step scan event between) (hrest : Leads between events next) :
      Leads scan (event :: events) next

variable {scan between next : Scan} {event : Event} {events more : List Event}

theorem Step.leads (h : Step scan event next) : Leads scan [event] next :=
  .cons h (.nil next)

theorem Leads.append (h : Leads scan events between) (h' : Leads between more next) :
    Leads scan (events ++ more) next := by
  induction h with
  | nil _ => exact h'
  | cons hstep _ ih => exact .cons hstep (ih h')

@[simp]
theorem artifacts_addClass (scan : Scan) (role : Role) (c : Class) :
    (scan.addClass role c).artifacts = scan.artifacts := by
  cases role <;> rfl

/-- `Step` only appends artifacts. -/
theorem Step.artifacts_prefix (h : Step scan event next) : scan.artifacts <+: next.artifacts := by
  cases h with
  | loaded _ => simp [addArtifact]
  | failed _ => simp [fail]
  | opened _ => simp [addArtifact]

theorem Numbered.mono {artifacts artifacts' : List Artifact} (h : artifacts <+: artifacts')
    {path : String} {parent : Nat} (hnumbered : Numbered artifacts path parent) :
    Numbered artifacts' path parent := by
  obtain ⟨rest, rfl⟩ := h
  obtain ⟨archive, hat, harchive⟩ := hnumbered
  obtain ⟨hparent, -⟩ := List.getElem?_eq_some_iff.mp hat
  exact ⟨archive, by rw [List.getElem?_append_left hparent, hat], harchive⟩

/-- `Numbered` is preserved by `Leads`. -/
theorem Leads.numbered (h : Leads scan events next) {path : String} {parent : Nat}
    (hnumbered : Numbered scan.artifacts path parent) : Numbered next.artifacts path parent := by
  induction h with
  | nil _ => exact hnumbered
  | cons hstep _ ih => exact ih (hnumbered.mono hstep.artifacts_prefix)

/-- The run: a `foldl` satisfies `Leads` if every step does under a condition `stands` that `Leads`
preserves. -/
theorem leads_foldl {α : Type} {step : Scan → α → Scan} {eventsOf : α → List Event}
    {stands : Scan → Prop}
    (hstands : ∀ scan events next, Leads scan events next → stands scan → stands next)
    (hstep : ∀ scan a, stands scan → Leads scan (eventsOf a) (step scan a)) (values : List α)
    (h : stands scan) : Leads scan (values.flatMap eventsOf) (values.foldl step scan) := by
  induction values generalizing scan with
  | nil => exact .nil scan
  | cons a rest ih =>
    have hfirst := hstep scan a h
    exact hfirst.append (ih (hstands _ _ _ hfirst h))

/-! ## Scans -/

theorem leads_loadUnit (role : Role) (bytes : Bytes) {artifact : Artifact}
    (hplaced : Placed scan.artifacts artifact) :
    Leads scan [Event.ofContent role (some bytes)] (scan.loadUnit role bytes artifact) := by
  have hload := Class.toOption_load artifact.uri bytes
  rw [loadUnit]
  split
  next c hc =>
    rw [hc] at hload
    have hevent : Event.ofContent role (some bytes) = .loaded role c := by
      simp [Event.ofContent, ← hload, Except.toOption]
    rw [hevent]
    exact (Step.loaded hplaced).leads
  next error herror =>
    rw [herror] at hload
    have hevent : Event.ofContent role (some bytes) = .failed := by
      simp [Event.ofContent, ← hload, Except.toOption]
    rw [hevent]
    exact (Step.failed error).leads

theorem leads_scanEntry {path : String} {parent : Nat}
    (hnumbered : Numbered scan.artifacts path parent) (role : Role) (entry : ArchiveEntry) :
    Leads scan [Event.ofContent role entry.read?] (scanEntry path role parent scan entry) := by
  unfold scanEntry
  cases entry.read? with
  | none => exact (Step.failed _).leads
  | some bytes =>
    apply leads_loadUnit
    intro index hindex
    cases hindex
    exact ⟨path, entry.name, hnumbered, rfl⟩

theorem leads_scanEntries {path : String} {parent : Nat}
    (hnumbered : Numbered scan.artifacts path parent) (role : Role) (archive : Archive) :
    Leads scan
      ((archive.entries.filter (!·.opens)).map (fun _ => Event.failed)
        ++ (classEntries archive).map fun entry => Event.ofContent role entry.read?)
      (scanEntries path role parent archive scan) := by
  have hstands : ∀ scan events next, Leads scan events next →
      Numbered scan.artifacts path parent → Numbered next.artifacts path parent :=
    fun _ _ _ hleads => hleads.numbered
  rw [scanEntries, ← List.flatMap_pure_eq_map, ← List.flatMap_pure_eq_map]
  -- First the failures of the entries that cannot be opened, then the classes.
  have hclosed := leads_foldl hstands
    (fun scan (_ : ArchiveEntry) _ => (Step.failed (.badArchive path)).leads)
    (archive.entries.filter (!·.opens)) hnumbered
  exact hclosed.append (leads_foldl hstands
    (fun _ entry hscan => leads_scanEntry hscan role entry) (classEntries archive)
    (hclosed.numbered hnumbered))

/-- An artifact without a `parentIndex` is `Placed`. -/
theorem placed_of_file {artifacts : List Artifact} {artifact : Artifact}
    (h : artifact.parentIndex = none) : Placed artifacts artifact := by
  intro parent hparent
  rw [h] at hparent
  cases hparent

theorem leads_scanArchiveFile {path : String} (hjar : Path.extension path = "jar") (role : Role)
    (isInput : Bool) (file : Option FileTree) (scan : Scan) :
    Leads scan (((file.bind FileTree.content?).bind Archive.ofBytes?).elim [.failed]
        (Event.ofArchive role))
      (scanArchiveFile path role isInput file scan) := by
  rw [scanArchiveFile]
  cases file.bind FileTree.content? with
  | none => exact (Step.failed _).leads
  | some bytes =>
    rw [Option.bind_some]
    dsimp only
    cases Archive.ofBytes? bytes with
    | none => exact (Step.failed _).leads
    | some archive =>
      -- The archive is set down as the last artifact, so its number is how many there were.
      let artifact : Artifact := { uri := path, length := bytes.length, isTarget := isInput }
      have harchive : artifact.IsArchive := ⟨rfl, hjar⟩
      have hnumbered : Numbered (scan.addArtifact artifact).artifacts path scan.artifacts.length :=
        ⟨artifact, by simp [addArtifact], harchive, rfl⟩
      exact .cons (.opened harchive) (leads_scanEntries hnumbered role archive)

theorem scanFile?_eq_none_iff {path : String} {role : Role} {isInput : Bool}
    {file : Option FileTree} :
    scanFile? path role isInput file scan = none
      ↔ Path.extension path ≠ "class" ∧ Path.extension path ≠ "jar" := by
  unfold scanFile?
  split <;> simp_all

/-- `scanFile?` leads through the events of `ofFile`, and changes nothing where it is `none`. -/
theorem leads_scanFile? (path : String) (role : Role) (isInput : Bool) (file : Option FileTree)
    (scan : Scan) :
    Leads scan (Event.ofFile role path file)
      ((scanFile? path role isInput file scan).getD scan) := by
  rw [Event.ofFile]
  split
  next hclass =>
    simp only [scanFile?, hclass, Option.getD_some, scanClassFile]
    cases file.bind FileTree.content? with
    | none => exact (Step.failed _).leads
    | some bytes => exact leads_loadUnit role bytes (placed_of_file rfl)
  next hjar =>
    simp only [scanFile?, hjar, Option.getD_some]
    exact leads_scanArchiveFile hjar role isInput file scan
  next hclass hjar =>
    rw [scanFile?_eq_none_iff.mpr ⟨hclass, hjar⟩]
    exact .nil scan

theorem leads_scanListing (role : Role) (files : List (String × FileTree)) (scan : Scan) :
    Leads scan (files.flatMap fun file => Event.ofFile role file.1 (some file.2))
      (scanListing role files scan) :=
  leads_foldl (fun _ _ _ _ _ => trivial)
    (fun scan file _ => leads_scanFile? file.1 role false (some file.2) scan) files trivial

theorem filesAt_directory {find : String → Option FileTree} {path : String}
    {entries : List (String × FileTree)} (h : find path = some (.directory entries)) :
    filesAt find path
      = (FileTree.listing path (.directory entries)).map fun file => (file.1, some file.2) := by
  rw [filesAt, h]

theorem filesAt_file {find : String → Option FileTree} {path : String}
    (h : ∀ entries, find path ≠ some (.directory entries)) :
    filesAt find path = [(path, find path)] := by
  rw [filesAt]
  split
  next entries hfind => exact absurd hfind (h entries)
  · rfl

theorem leads_of_scanPath {find : String → Option FileTree} {path : String} {role : Role}
    {isInput : Bool} (h : scanPath find path role isInput scan = .ok next) :
    Leads scan (Event.atPath find role path) next := by
  rw [scanPath] at h
  split at h
  next entries hfind =>
    cases h
    rw [Event.atPath, filesAt_directory hfind, List.flatMap_map]
    exact leads_scanListing role _ scan
  next hfile =>
    have hleads := leads_scanFile? path role isInput (find path) scan
    split at h
    next hscan =>
      cases h
      rw [Event.atPath, filesAt_file hfile, List.flatMap_singleton]
      rwa [hscan, Option.getD_some] at hleads
    · cases h

theorem leads_of_foldlM {find : String → Option FileTree} {role : Role} {isInput : Bool}
    {paths : List String}
    (h : paths.foldlM (fun scan path => scanPath find path role isInput scan) scan = .ok next) :
    Leads scan (paths.flatMap (Event.atPath find role)) next := by
  induction paths generalizing scan with
  | nil =>
    cases h
    exact .nil _
  | cons path rest ih =>
    rw [List.foldlM_cons] at h
    obtain ⟨between, hpath, hrest⟩ := bind_eq_ok.mp h
    exact (leads_of_scanPath hpath).append (ih hrest)

/-- A successful `run` leads from the empty scan through the events of `ofRun`. -/
theorem leads_of_run {find : String → Option FileTree} {input : String} {classpath : List String}
    (h : run find input classpath = .ok scan) :
    Leads {} (Event.ofRun find input classpath) scan := by
  obtain ⟨between, hinput, hclasspath⟩ := bind_eq_ok.mp h
  exact (leads_of_scanPath hinput).append (leads_of_foldlM hclasspath)

/-! ## Scans that come to no end -/

/-- `path` is a directory, or its extension is `class` or `jar`. -/
def isSupported (find : String → Option FileTree) (path : String) : Bool :=
  (find path).any FileTree.isDirectory || Path.extension path = "class"
    || Path.extension path = "jar"

theorem scanPath_of_isSupported {find : String → Option FileTree} {path : String}
    (h : isSupported find path = true) (role : Role) (isInput : Bool) (scan : Scan) :
    ∃ next, scanPath find path role isInput scan = .ok next := by
  rw [scanPath]
  split
  · exact ⟨_, rfl⟩
  next hfile =>
    split
    · exact ⟨_, rfl⟩
    next hnone =>
      obtain ⟨hclass, hjar⟩ := scanFile?_eq_none_iff.mp hnone
      rw [isSupported] at h
      cases hfind : find path with
      | none => simp [hfind, hclass, hjar] at h
      | some tree =>
        have hdirectory : tree.isDirectory = true := by
          simpa [hfind, hclass, hjar] using h
        obtain ⟨entries, rfl⟩ := FileTree.exists_entries hdirectory
        exact absurd hfind (hfile entries)

theorem scanPath_of_not_isSupported {find : String → Option FileTree} {path : String}
    (h : isSupported find path = false) (role : Role) (isInput : Bool) (scan : Scan) :
    scanPath find path role isInput scan = .error (.unsupported path) := by
  simp only [isSupported, Bool.or_eq_false_iff, decide_eq_false_iff_not] at h
  obtain ⟨⟨hany, hclass⟩, hjar⟩ := h
  rw [scanPath]
  split
  next hfind => simp [hfind, FileTree.isDirectory] at hany
  · rw [scanFile?_eq_none_iff.mpr ⟨hclass, hjar⟩]

/-- `scanPath` fails iff `path` is not supported, and otherwise continues with `after`. -/
theorem scanPath_bind_eq_error_iff {find : String → Option FileTree} {path : String}
    {role : Role} {isInput : Bool} {rest : List String} {error : ScanError}
    {after : Scan → Except ScanError Scan}
    (hafter : ∀ between, after between = .error error
      ↔ (rest.find? (!isSupported find ·)).map .unsupported = some error) :
    (scanPath find path role isInput scan >>= after) = .error error
      ↔ ((path :: rest).find? (!isSupported find ·)).map .unsupported = some error := by
  rw [List.find?_cons]
  cases hsupported : isSupported find path with
  | true =>
    obtain ⟨between, hbetween⟩ := scanPath_of_isSupported hsupported role isInput scan
    rw [hbetween]
    exact hafter between
  | false =>
    rw [scanPath_of_not_isSupported hsupported]
    simp [bind, Except.bind]

/-- `scanPath` over `paths` fails on the first one that is not supported. -/
theorem foldlM_scanPath_eq_error_iff {find : String → Option FileTree} {role : Role}
    {isInput : Bool} {paths : List String} {error : ScanError} :
    paths.foldlM (fun scan path => scanPath find path role isInput scan) scan = .error error
      ↔ (paths.find? (!isSupported find ·)).map .unsupported = some error := by
  induction paths generalizing scan with
  | nil => simp [pure, Except.pure]
  | cons path rest ih =>
    rw [List.foldlM_cons]
    exact scanPath_bind_eq_error_iff fun _ => ih

/-- `run` fails iff the input or a class path is not supported, with the first such path as the
error. -/
theorem run_eq_error_iff {find : String → Option FileTree} {input : String}
    {classpath : List String} {error : ScanError} :
    run find input classpath = .error error
      ↔ ((input :: classpath.mergeSort fun a b => decide (a ≤ b)).find?
          (!isSupported find ·)).map .unsupported = some error :=
  scanPath_bind_eq_error_iff fun _ => foldlM_scanPath_eq_error_iff

end Scan

end ClassAudit
