import ClassAudit.File.Scan
import ClassAudit.Proofs.ConstantPool
import ClassAudit.Proofs.FileTree
import Mathlib

/-!
# What a refused file changes

A file that gives no class is a failure of its own and has no part in anything else that a scan
finds.  A tree with one more such file is scanned to the same classes, artifacts and numbers, and
the failures are the old ones, in their order, among new ones that name the file: one for every path
of the scan that leads to the directory of the file or to one above it.

## Shape of the proof

The two scans are followed side by side (`Scan.Beside`): they agree in all but their failures, and
those of the second are those of the first with some more among them.  Every step of a scan keeps
this up, and the step over the refused file, which only the second scan makes, adds one failure.
Where that step comes is read off the listings of the two trees, which differ in one place.
-/

namespace ClassAudit

/-! ## Lists among each other -/

/-- `all` is an interleaving of `old` and `new`. -/
inductive Interleaved {α : Type} : List α → List α → List α → Prop
  | nil : Interleaved [] [] []
  | left {a : α} {old new all : List α} (h : Interleaved old new all) :
      Interleaved (a :: old) new (a :: all)
  | right {a : α} {old new all : List α} (h : Interleaved old new all) :
      Interleaved old (a :: new) (a :: all)

namespace Interleaved

variable {α : Type} {a : α} {old new all : List α}

theorem concat_left (h : Interleaved old new all) : Interleaved (old ++ [a]) new (all ++ [a]) := by
  induction h with
  | nil => exact .left .nil
  | left _ ih => exact .left ih
  | right _ ih => exact .right ih

theorem concat_right (h : Interleaved old new all) :
    Interleaved old (new ++ [a]) (all ++ [a]) := by
  induction h with
  | nil => exact .right .nil
  | left _ ih => exact .left ih
  | right _ ih => exact .right ih

theorem eq_of_nil (h : Interleaved old [] all) : all = old := by
  generalize hnew : [] = new at h
  induction h with
  | nil => rfl
  | left _ ih => rw [ih hnew]
  | right _ _ => cases hnew

/-- Interleaving with one value inserts it at one position. -/
theorem exists_of_singleton (h : Interleaved old [a] all) :
    ∃ before after, old = before ++ after ∧ all = before ++ a :: after := by
  generalize hnew : [a] = new at h
  induction h with
  | nil => cases hnew
  | @left b old _ _ _ ih =>
    obtain ⟨before, after, rfl, rfl⟩ := ih hnew
    exact ⟨b :: before, after, rfl, rfl⟩
  | @right _ old _ _ h _ =>
    cases hnew
    exact ⟨[], old, rfl, by rw [h.eq_of_nil, List.nil_append]⟩

end Interleaved

/-! ## Trees with one more file -/

namespace FileTree

/-- `tree'` is `tree` with the new entry `name` in the directory at the given place, up to the order
of its entries. -/
inductive Gains (name : String) (file : FileTree) : List String → FileTree → FileTree → Prop
  | here {entries entries' : List (String × FileTree)} (hfresh : name ∉ entries.map Prod.fst)
      (hperm : entries'.Perm ((name, file) :: entries)) :
      Gains name file [] (.directory entries) (.directory entries')
  | inside {directory : String} {front back : List (String × FileTree)} {place : List String}
      {tree tree' : FileTree} (h : Gains name file place tree tree') :
      Gains name file (directory :: place) (.directory (front ++ (directory, tree) :: back))
        (.directory (front ++ (directory, tree') :: back))

/-- The path under which a scan of `path` meets the file of this name in the directory at a place.
There is one if `path` leads to that directory or to one above it. -/
def unitAt? (tree : FileTree) (place : List String) (name path : String) : Option String :=
  ((tree.locate? path).filter (·.isPrefixOf place)).map fun base =>
    (place.drop base.length ++ [name]).foldl Path.child path

theorem unitAt?_append {tree : FileTree} {base rest : List String} {name path : String}
    (hbase : tree.locate? path = some base) :
    tree.unitAt? (base ++ rest) name path = some ((rest ++ [name]).foldl Path.child path) := by
  have hprefix : base.isPrefixOf (base ++ rest) = true :=
    List.isPrefixOf_iff_prefix.mpr (List.prefix_append base rest)
  rw [unitAt?, hbase, Option.filter_some, if_pos hprefix, Option.map_some, List.drop_left]

namespace Gains

variable {name : String} {file tree tree' : FileTree} {place : List String}

theorem nodup_of_perm {entries entries' : List (String × FileTree)}
    (hproper : Proper (.directory entries)) (hfresh : name ∉ entries.map Prod.fst)
    (hperm : entries'.Perm ((name, file) :: entries)) : (entries'.map Prod.fst).Nodup := by
  rw [(hperm.map Prod.fst).nodup_iff, List.map_cons, List.nodup_cons]
  exact ⟨hfresh, hproper.nodup_names⟩

theorem isDirectory (h : Gains name file place tree tree') :
    ∃ entries entries', tree = .directory entries ∧ tree' = .directory entries' := by
  cases h with
  | here _ _ => exact ⟨_, _, rfl, rfl⟩
  | inside _ => exact ⟨_, _, rfl, rfl⟩

/-- The effect of `Gains` on `descend`: the new file, two trees related by `Gains`, or the same
tree. -/
theorem descend (h : Gains name file place tree tree') (hproper : tree.Proper)
    (hfile : file.isDirectory = false) (names : List String) :
    names = place ++ [name] ∧ tree.descend names = none ∧ tree'.descend names = some file
      ∨ (∃ rest below below', place = names ++ rest ∧ tree.descend names = some below
        ∧ tree'.descend names = some below' ∧ Gains name file rest below below')
      ∨ ¬names <+: place ∧ tree'.descend names = tree.descend names := by
  induction h generalizing names with
  | @here entries entries' hfresh hperm =>
    have hlookup : ∀ other, entries'.lookup other
        = if other = name then some file else entries.lookup other := by
      intro other
      rw [lookup_perm hperm (nodup_of_perm hproper hfresh hperm), lookup_cons]
    cases names with
    | nil => exact .inr (.inl ⟨[], _, _, rfl, rfl, rfl, .here hfresh hperm⟩)
    | cons other rest =>
      by_cases hother : other = name
      · subst hother
        cases rest with
        | nil => exact .inl (by simp [hlookup, lookup_eq_none hfresh])
        | cons next more =>
          -- Nothing stands below a file.
          exact .inr (.inr (by simp [hlookup, lookup_eq_none hfresh, entry?_eq_none hfile]))
      · exact .inr (.inr (by simp [hlookup, hother]))
  | @inside directory front back place tree tree' h ih =>
    obtain ⟨-, hfresh⟩ := hproper.around
    cases names with
    | nil => exact .inr (.inl ⟨_, _, _, rfl, rfl, rfl, .inside h⟩)
    | cons other rest =>
      by_cases hother : other = directory
      · simpa [lookup_middle hfresh, hother] using ih hproper.of_middle rest
      · refine .inr (.inr ⟨fun hprefix => hother (List.cons_prefix_cons.mp hprefix).1, ?_⟩)
        simp [lookup_middle hfresh, hother]

/-- `locate?` agrees on both trees for paths that do not lead to the new file. -/
theorem locate? (h : Gains name file place tree tree') (hproper : tree.Proper)
    (hfile : file.isDirectory = false) {path : String}
    (hpath : tree'.locate? path ≠ some (place ++ [name])) :
    tree'.locate? path = tree.locate? path := by
  have hkind : ∀ names, tree'.kind names = tree.kind names
      ∨ names = place ++ [name] ∧ tree.kind names = none ∧ tree'.kind names = some false := by
    intro names
    rcases h.descend hproper hfile names with
      ⟨hnames, hnone, hsome⟩ | ⟨rest, below, below', -, hbelow, hbelow', hgains⟩ | ⟨-, hsame⟩
    · exact .inr ⟨hnames, by simp [kind, hnone], by simp [kind, hsome, hfile]⟩
    · obtain ⟨_, _, rfl, rfl⟩ := hgains.isDirectory
      exact .inl (by simp [kind, hbelow, hbelow', FileTree.isDirectory])
    · exact .inl (by rw [kind, hsame, ← kind])
  rcases locate?_of_kind (fun names => (hkind names).imp_right And.right) path with
    hsame | ⟨names, hnames, hnone, hsome⟩
  · exact hsame
  · rcases hkind names with heq | ⟨rfl, -, -⟩
    · rw [hnone, hsome] at heq
      cases heq
    · exact absurd hnames hpath

/-- The `listing`s of both trees differ by the one new file. -/
theorem exists_listing (h : Gains name file place tree tree') (hproper : tree.Proper)
    (hfile : file.isDirectory = false) (path : String) :
    ∃ before after, listing path tree = before ++ after
      ∧ listing path tree'
        = before ++ ((place ++ [name]).foldl Path.child path, file) :: after := by
  -- On the way down, the listing of the entry on the way stands between those of the others.
  induction h generalizing path with
  | @here entries entries' hfresh hperm =>
    obtain ⟨before, after, hold, hnew⟩ :=
      @exists_listing_place [] entries path name hproper.nodup_names hfresh
    have hlisting := listing_perm path hperm (nodup_of_perm hproper hfresh hperm)
    refine ⟨before, after, hold, ?_⟩
    rw [hlisting, ← List.nil_append ((name, file) :: entries), hnew, listing_of_file hfile]
    simp
  | @inside directory front back place tree tree' h ih =>
    obtain ⟨hnames, hfresh⟩ := hproper.around
    obtain ⟨before, after, -, hplace⟩ := exists_listing_place path hnames hfresh
    obtain ⟨before', after', hold, hnew⟩ := ih hproper.of_middle (Path.child path directory)
    refine ⟨before ++ before', after' ++ after, ?_, ?_⟩
    · simp [hplace, hold]
    · simp [hplace, hnew]

end Gains

end FileTree

namespace Scan

/-! ## Refused files -/

/-- The name has the extension `class` or `jar`, and the file is unreadable or its content is
refused. -/
inductive Refused (name : String) : FileTree → Prop
  | unreadable (hkind : Path.extension name = "class" ∨ Path.extension name = "jar") :
      Refused name .unreadable
  | classFile {bytes : Bytes} {unit : String} {error : LoadError}
      (hkind : Path.extension name = "class") (hload : Class.load unit bytes = .error error) :
      Refused name (.file bytes)
  | archive {bytes : Bytes} (hkind : Path.extension name = "jar")
      (hopen : Archive.ofBytes? bytes = none) : Refused name (.file bytes)

/-- `load` refuses bytes for every unit if it does for one, and the error names the unit. -/
theorem load_eq_error {unit : String} {bytes : Bytes} {error : LoadError}
    (h : Class.load unit bytes = .error error) (other : String) :
    ∃ error, Class.load other bytes = .error error ∧ error.unit = other := by
  rw [Class.load] at h ⊢
  cases hbytes : RawClass.ofBytes? bytes with
  | none => exact ⟨.rejected other, rfl, rfl⟩
  | some raw =>
    cases hbuild : raw.build with
    | ok c => simp [hbytes, hbuild] at h
    | error fault => exact ⟨.malformed other fault, by simp [hbuild], rfl⟩

variable {name : String} {file : FileTree}

theorem Refused.extension (h : Refused name file) :
    Path.extension name = "class" ∨ Path.extension name = "jar" := by
  cases h with
  | unreadable hkind => exact hkind
  | classFile hkind _ => exact .inl hkind
  | archive hkind _ => exact .inr hkind

theorem Refused.isDirectory (h : Refused name file) : file.isDirectory = false := by
  cases h <;> rfl

/-- `scanFile?` on a `Refused` file records one failure, which names the path. -/
theorem Refused.scanFile? (h : Refused name file) {path : String}
    (hpath : Path.extension path = Path.extension name) :
    ∃ error : LoadError, error.unit = path
      ∧ ∀ role isInput scan,
        scanFile? path role isInput (some file) scan = some (scan.fail error) := by
  cases h with
  | unreadable hkind =>
    refine ⟨.unreadable path, rfl, fun role isInput scan => ?_⟩
    rcases hkind with hkind | hkind <;>
      simp [Scan.scanFile?, hpath, hkind, scanClassFile, scanArchiveFile, FileTree.content?]
  | @classFile bytes _ _ hkind hload =>
    obtain ⟨error, herror, hunit⟩ := load_eq_error hload path
    refine ⟨error, hunit, fun role isInput scan => ?_⟩
    simp [Scan.scanFile?, hpath, hkind, scanClassFile, FileTree.content?, loadUnit, herror]
  | archive hkind hopen =>
    refine ⟨.badArchive path, rfl, fun role isInput scan => ?_⟩
    simp [Scan.scanFile?, hpath, hkind, scanArchiveFile, FileTree.content?, hopen]

/-! ## Scans side by side -/

/-- `scan'` agrees with `scan` up to its failures, which are those of `scan` interleaved with
`errors`. -/
structure Beside (errors : List LoadError) (scan scan' : Scan) : Prop where
  classes : scan'.classes = scan.classes
  classpathClasses : scan'.classpathClasses = scan.classpathClasses
  artifacts : scan'.artifacts = scan.artifacts
  classCount : scan'.classCount = scan.classCount
  failures : Interleaved scan.failures errors scan'.failures

namespace Beside

variable {errors : List LoadError} {scan scan' : Scan}

theorem addClass (h : Beside errors scan scan') (role : Role) (c : Class) :
    Beside errors (scan.addClass role c) (scan'.addClass role c) := by
  obtain ⟨hclasses, hclasspath, hartifacts, hcount, hfailures⟩ := h
  cases role <;> constructor <;> simp [Scan.addClass, *]

theorem addArtifact (h : Beside errors scan scan') (artifact : Artifact) :
    Beside errors (scan.addArtifact artifact) (scan'.addArtifact artifact) := by
  obtain ⟨hclasses, hclasspath, hartifacts, hcount, hfailures⟩ := h
  constructor <;> simp [Scan.addArtifact, *]

theorem fail (h : Beside errors scan scan') (error : LoadError) :
    Beside errors (scan.fail error) (scan'.fail error) :=
  { h with failures := h.failures.concat_left }

/-- `Beside` after a failure of the second scan. -/
theorem fail_right (h : Beside errors scan scan') (error : LoadError) :
    Beside (errors ++ [error]) scan (scan'.fail error) :=
  { h with failures := h.failures.concat_right }

theorem loadUnit (h : Beside errors scan scan') (role : Role) (bytes : Bytes)
    (artifact : Artifact) :
    Beside errors (scan.loadUnit role bytes artifact) (scan'.loadUnit role bytes artifact) := by
  rw [Scan.loadUnit, Scan.loadUnit]
  split
  · exact (h.addClass role _).addArtifact artifact
  · exact h.fail _

theorem scanEntry (h : Beside errors scan scan') (path : String) (role : Role) (parent : Nat)
    (entry : ArchiveEntry) :
    Beside errors (scanEntry path role parent scan entry)
      (scanEntry path role parent scan' entry) := by
  rw [Scan.scanEntry, Scan.scanEntry]
  split
  · exact h.fail _
  · exact h.loadUnit role _ _

/-- `Beside` is preserved by a fold whose steps preserve it. -/
theorem foldl {α : Type} {step : Scan → α → Scan} {values : List α}
    (hstep : ∀ a ∈ values, ∀ scan scan',
      Beside errors scan scan' → Beside errors (step scan a) (step scan' a))
    (h : Beside errors scan scan') :
    Beside errors (values.foldl step scan) (values.foldl step scan') := by
  induction values generalizing scan scan' with
  | nil => exact h
  | cons a rest ih =>
    exact ih (fun b hb => hstep b (List.mem_cons_of_mem a hb)) (hstep a List.mem_cons_self _ _ h)

theorem scanEntries (h : Beside errors scan scan') (path : String) (role : Role) (parent : Nat)
    (archive : Archive) :
    Beside errors (scanEntries path role parent archive scan)
      (scanEntries path role parent archive scan') := by
  rw [Scan.scanEntries, Scan.scanEntries]
  apply foldl fun entry _ _ _ h => h.scanEntry path role parent entry
  exact foldl (fun _ _ _ _ h => h.fail _) h

theorem scanFile? (h : Beside errors scan scan') (path : String) (role : Role) (isInput : Bool)
    (file : Option FileTree) :
    Option.Rel (Beside errors) (scanFile? path role isInput file scan)
      (scanFile? path role isInput file scan') := by
  rw [Scan.scanFile?, Scan.scanFile?]
  split
  · refine .some ?_
    rw [scanClassFile, scanClassFile]
    split
    · exact h.fail _
    · exact h.loadUnit role _ _
  · refine .some ?_
    rw [scanArchiveFile, scanArchiveFile]
    split
    · exact h.fail _
    · split
      · exact h.fail _
      · -- The number of the archive is the same, because there are as many artifacts.
        rw [h.artifacts]
        exact (h.addArtifact _).scanEntries path role _ _
  · exact .none

theorem getD {found found' : Option Scan} (hfound : Option.Rel (Beside errors) found found')
    (h : Beside errors scan scan') : Beside errors (found.getD scan) (found'.getD scan') := by
  cases hfound with
  | some hfound => exact hfound
  | none => exact h

theorem scanListing (h : Beside errors scan scan') (role : Role)
    (files : List (String × FileTree)) :
    Beside errors (scanListing role files scan) (scanListing role files scan') :=
  foldl (fun entry _ _ _ h => getD (h.scanFile? entry.1 role false (some entry.2)) h) h

/-- `Beside` is preserved by `scanPath` where `find` and `find'` agree. -/
theorem scanPath (h : Beside errors scan scan') {find find' : String → Option FileTree}
    {path : String} (hfind : find' path = find path) {role : Role} {isInput : Bool} {next : Scan}
    (hnext : scanPath find path role isInput scan = .ok next) :
    ∃ next', Scan.scanPath find' path role isInput scan' = .ok next'
      ∧ Beside errors next next' := by
  rw [Scan.scanPath] at hnext ⊢
  rw [hfind]
  split at hnext
  · cases hnext
    exact ⟨_, rfl, h.scanListing role _⟩
  · have hfile := h.scanFile? path role isInput (find path)
    split at hnext
    next hsome =>
      rcases rel_cases hfile with ⟨hnone, -⟩ | ⟨_, next', hsome', hnext', hbeside⟩
      · rw [hnone] at hsome
        cases hsome
      · rw [hsome'] at hsome
        cases hsome
        cases hnext
        exact ⟨next', by rw [hnext'], hbeside⟩
    · cases hnext

end Beside

/-! ## The scan of a tree with a refused file -/

section Gained

variable {place : List String} {tree tree' : FileTree} {errors : List LoadError}
  {scan scan' next : Scan} {path : String} {role : Role} {isInput : Bool}

/-- `scanListing` with a `Refused` file in the list records one more failure, which names it. -/
theorem Refused.scanListing (hrefused : Refused name file)
    (hpath : Path.extension path = Path.extension name) (h : Beside errors scan scan')
    (role : Role) (before after : List (String × FileTree)) :
    ∃ error : LoadError, error.unit = path
      ∧ Beside (errors ++ [error]) (scanListing role (before ++ after) scan)
        (scanListing role (before ++ (path, file) :: after) scan') := by
  obtain ⟨error, hunit, hscan⟩ := hrefused.scanFile? hpath
  refine ⟨error, hunit, ?_⟩
  have hbefore := h.scanListing role before
  have hfailed := (hbefore.fail_right error).scanListing role after
  simpa [hscan] using hfailed

theorem Refused.extension_unit (h : Refused name file) (path : String) (rest : List String) :
    Path.extension ((rest ++ [name]).foldl Path.child path) = Path.extension name := by
  rw [List.foldl_append, List.foldl_cons, List.foldl_nil]
  apply Path.extension_child
  rcases h.extension with hkind | hkind <;> simp [hkind]

/-- `scanPath` from the directory of the file or one above it records one more failure. -/
theorem scanPath_reaching (hproper : tree.Proper)
    (hgains : FileTree.Gains name file place tree tree') (hrefused : Refused name file)
    (h : Beside errors scan scan') {base rest : List String}
    (hbase : tree.locate? path = some base) (hbase' : tree'.locate? path = some base)
    (hplace : place = base ++ rest)
    (hnext : scanPath tree.find? path role isInput scan = .ok next) :
    ∃ next' error, scanPath tree'.find? path role isInput scan' = .ok next'
      ∧ Beside (errors ++ [error]) next next'
      ∧ error.unit = (rest ++ [name]).foldl Path.child path := by
  rcases hgains.descend hproper hrefused.isDirectory base with
    ⟨rfl, -, -⟩ | ⟨rest', below, below', hplace', hbelow, hbelow', hrest⟩ | ⟨hnot, -⟩
  · -- The place of the file is not above that of its directory.
    simpa using congrArg List.length hplace
  · obtain rfl : rest = rest' := List.append_cancel_left (hplace.symm.trans hplace')
    obtain ⟨before, after, hold, hnew⟩ :=
      hrest.exists_listing (hproper.descend hbelow) hrefused.isDirectory path
    obtain ⟨entries, entries', rfl, rfl⟩ := hrest.isDirectory
    have hfind : tree.find? path = some (.directory entries) := by
      simp [FileTree.find?, hbase, hbelow]
    have hfind' : tree'.find? path = some (.directory entries') := by
      simp [FileTree.find?, hbase', hbelow']
    obtain ⟨error, hunit, hbeside⟩ :=
      hrefused.scanListing (hrefused.extension_unit path rest) h role before after
    rw [scanPath, hfind] at hnext
    cases hnext
    refine ⟨_, error, by rw [scanPath, hfind'], ?_, hunit⟩
    rwa [hold, hnew]
  · exact absurd ⟨rest, hplace.symm⟩ hnot

/-- `find?` agrees on both trees for paths that do not lead to the directory of the file or above
it. -/
theorem find?_gains (hproper : tree.Proper)
    (hgains : FileTree.Gains name file place tree tree') (hrefused : Refused name file)
    (hpath : tree'.locate? path ≠ some (place ++ [name]))
    (hlocate : tree'.locate? path = tree.locate? path)
    (helsewhere : ∀ base, tree.locate? path = some base → ¬base <+: place) :
    tree'.find? path = tree.find? path := by
  rw [FileTree.find?, FileTree.find?, hlocate]
  cases hbase : tree.locate? path with
  | none => rfl
  | some base =>
    rcases hgains.descend hproper hrefused.isDirectory base with
      ⟨rfl, -, -⟩ | ⟨rest, _, _, rfl, -⟩ | ⟨-, hsame⟩
    · exact absurd (hlocate.trans hbase) hpath
    · exact absurd (List.prefix_append base rest) (helsewhere base hbase)
    · exact hsame

/-- `scanPath` records one more failure if `unitAt?` is defined for the path, and none otherwise. -/
theorem scanPath_gains (hproper : tree.Proper) (hgains : FileTree.Gains name file place tree tree')
    (hrefused : Refused name file) (hpath : tree'.locate? path ≠ some (place ++ [name]))
    (h : Beside errors scan scan')
    (hnext : scanPath tree.find? path role isInput scan = .ok next) :
    ∃ next' new, scanPath tree'.find? path role isInput scan' = .ok next'
      ∧ Beside (errors ++ new) next next'
      ∧ new.map LoadError.unit = (tree.unitAt? place name path).toList := by
  have hlocate := hgains.locate? hproper hrefused.isDirectory hpath
  by_cases hreached : ∃ base, tree.locate? path = some base ∧ base <+: place
  · obtain ⟨base, hbase, rest, rfl⟩ := hreached
    obtain ⟨next', error, hnext', hbeside, hunit⟩ :=
      scanPath_reaching hproper hgains hrefused h hbase (hlocate.trans hbase) rfl hnext
    exact ⟨next', [error], hnext', hbeside, by simp [FileTree.unitAt?_append hbase, hunit]⟩
  · have helsewhere : ∀ base, tree.locate? path = some base → ¬base <+: place :=
      fun base hbase hprefix => hreached ⟨base, hbase, hprefix⟩
    have hfind := find?_gains hproper hgains hrefused hpath hlocate helsewhere
    obtain ⟨next', hnext', hbeside⟩ := h.scanPath hfind hnext
    refine ⟨next', [], hnext', by rwa [List.append_nil], ?_⟩
    have hunit : tree.unitAt? place name path = none := by
      simpa [FileTree.unitAt?] using helsewhere
    rw [hunit]
    rfl

/-- The run over the classpath. -/
theorem foldlM_scanPath_gains (hproper : tree.Proper)
    (hgains : FileTree.Gains name file place tree tree') (hrefused : Refused name file)
    {paths : List String} (hpaths : ∀ path ∈ paths, tree'.locate? path ≠ some (place ++ [name]))
    (h : Beside errors scan scan')
    (hnext : paths.foldlM (fun scan path => scanPath tree.find? path role isInput scan) scan
      = .ok next) :
    ∃ next' new,
      paths.foldlM (fun scan path => scanPath tree'.find? path role isInput scan) scan' = .ok next'
      ∧ Beside (errors ++ new) next next'
      ∧ new.map LoadError.unit = paths.filterMap (tree.unitAt? place name) := by
  induction paths generalizing scan scan' errors with
  | nil =>
    cases hnext
    exact ⟨scan', [], rfl, by rwa [List.append_nil], rfl⟩
  | cons path rest ih =>
    rw [List.foldlM_cons] at hnext
    obtain ⟨between, hbetween, hrest⟩ := bind_eq_ok.mp hnext
    obtain ⟨between', new, hbetween', hbeside, hunits⟩ := scanPath_gains hproper hgains hrefused
      (hpaths path List.mem_cons_self) h hbetween
    obtain ⟨next', more, hnext', hbeside, hmore⟩ :=
      ih (fun other hother => hpaths other (List.mem_cons_of_mem path hother)) hbeside hrest
    refine ⟨next', new ++ more, ?_, by rwa [← List.append_assoc], ?_⟩
    · rw [List.foldlM_cons]
      exact bind_eq_ok.mpr ⟨between', hbetween', hnext'⟩
    · rw [List.map_append, hunits, hmore]
      cases hunit : tree.unitAt? place name path <;> simp [hunit]

end Gained

/-- **A refused file adds only its failures.**  When the tree `Gains` a `Refused` file, `run`
returns a scan that agrees with the first up to failures.  The new failures are interleaved with the
old ones, one for each scanned path for which `unitAt?` is defined, and name the file; so a
directory that is reached once adds exactly one. -/
theorem run_gains {name : String} {file tree tree' : FileTree} {place : List String}
    (hproper : tree.Proper) (hgains : FileTree.Gains name file place tree tree')
    (hrefused : Refused name file) {input : String} {classpath : List String}
    (hnamed : ∀ path ∈ input :: classpath, tree'.locate? path ≠ some (place ++ [name]))
    {scan : Scan} (hrun : run tree.find? input classpath = .ok scan) :
    ∃ scan' errors, run tree'.find? input classpath = .ok scan'
      ∧ scan'.classes = scan.classes ∧ scan'.classpathClasses = scan.classpathClasses
      ∧ scan'.artifacts = scan.artifacts ∧ scan'.classCount = scan.classCount
      ∧ Interleaved scan.failures errors scan'.failures
      ∧ errors.map LoadError.unit
        = (input :: classpath.mergeSort fun a b => decide (a ≤ b)).filterMap
          (tree.unitAt? place name)
      ∧ ∀ unit, errors.map LoadError.unit = [unit] →
        ∃ before after error, scan.failures = before ++ after
          ∧ scan'.failures = before ++ error :: after ∧ LoadError.unit error = unit := by
  obtain ⟨first, hfirst, hrest⟩ := bind_eq_ok.mp hrun
  have hstart : Beside [] ({} : Scan) {} := ⟨rfl, rfl, rfl, rfl, .nil⟩
  obtain ⟨first', new, hfirst', hbeside, hunits⟩ := scanPath_gains hproper hgains hrefused
    (hnamed input List.mem_cons_self) hstart hfirst
  obtain ⟨scan', more, hscan', hbeside, hmore⟩ := foldlM_scanPath_gains hproper hgains hrefused
    (fun path hpath => hnamed path (List.mem_cons_of_mem input (List.mem_mergeSort.mp hpath)))
    hbeside hrest
  rw [List.nil_append] at hbeside
  refine ⟨scan', new ++ more, bind_eq_ok.mpr ⟨first', hfirst', hscan'⟩, hbeside.classes,
    hbeside.classpathClasses, hbeside.artifacts, hbeside.classCount, hbeside.failures, ?_, ?_⟩
  · rw [List.map_append, hunits, hmore]
    cases hunit : tree.unitAt? place name input <;> simp [hunit]
  · intro unit hunit
    obtain ⟨error, herrors, rfl⟩ := List.map_eq_singleton_iff.mp hunit
    obtain ⟨before, after, hold, hnew⟩ :=
      (herrors ▸ hbeside.failures).exists_of_singleton
    exact ⟨before, after, error, hold, hnew, rfl⟩

/-! ## A directory with an archive, a file that cannot be read, and room for more -/

/-- An archive without entries. -/
def emptyArchive : Bytes :=
  [80, 75, 5, 6] ++ List.replicate 18 0

/-- Four bytes that are no class file. -/
def noClass : Bytes :=
  [110, 111, 112, 101]

/-- A directory with an archive, a directory `core` and an unreadable class file. -/
def shelf (core : List (String × FileTree)) : FileTree :=
  .directory [("lib", .directory
    [("base.jar", .file emptyArchive), ("core", .directory core), ("old.class", .unreadable)])]

theorem load_noClass (unit : String) : Class.load unit noClass = .error (.rejected unit) := by
  have hbytes : (RawClass.ofBytes? noClass).isNone = true := by decide +kernel
  rw [Class.load, Option.isNone_iff_eq_none.mp hbytes]

theorem refused_noClass : Refused "bad.class" (.file noClass) :=
  .classFile (by decide) (load_noClass "")

theorem scanFile?_emptyArchive (role : Role) (scan : Scan) :
    scanFile? "lib/base.jar" role false (some (.file emptyArchive)) scan
      = some (scan.addArtifact { uri := "lib/base.jar", length := 22 }) := by
  have hkind : Path.extension "lib/base.jar" = "jar" := by decide
  have hopen : Archive.ofBytes? emptyArchive = some ⟨[]⟩ := by rfl
  have hlength : emptyArchive.length = 22 := rfl
  simp [scanFile?, hkind, scanArchiveFile, FileTree.content?, hopen, hlength, scanEntries,
    classEntries]

theorem run_shelf :
    run (shelf []).find? "lib" ["lib/core"]
      = .ok { artifacts := [{ uri := "lib/base.jar", length := 22 }]
              failures := [.unreadable "lib/old.class"] } := by
  have hlib : (shelf []).find? "lib" = some (.directory
      [("base.jar", .file emptyArchive), ("core", .directory []), ("old.class", .unreadable)]) :=
    rfl
  have hcore : (shelf []).find? "lib/core" = some (.directory []) := rfl
  have hempty (path : String) : FileTree.listing path (.directory []) = [] := by
    simp [FileTree.listing, FileTree.entryListings]
  have hlisting : FileTree.listing "lib" (.directory
      [("base.jar", .file emptyArchive), ("core", .directory []), ("old.class", .unreadable)])
      = [("lib/base.jar", .file emptyArchive), ("lib/old.class", .unreadable)] := by
    rw [FileTree.listing, FileTree.entryListings_eq_map, List.mergeSort_of_pairwise (by decide)]
    simp only [List.map_cons, List.map_nil, hempty]
    rfl
  rw [run, List.mergeSort_singleton]
  simp only [List.foldlM_cons, List.foldlM_nil, scanPath, hlib, hcore, hlisting, hempty,
    scanListing_cons, scanListing_nil, scanFile?_emptyArchive]
  rfl

/-- Both the input and the classpath reach `bad.class`, so two failures are added. -/
theorem run_gains_shelf :
    ∃ scan' errors, run (shelf [("bad.class", .file noClass)]).find? "lib" ["lib/core"] = .ok scan'
      ∧ scan'.artifacts = [{ uri := "lib/base.jar", length := 22 }]
      ∧ Interleaved [.unreadable "lib/old.class"] errors scan'.failures
      ∧ errors.map LoadError.unit = ["lib/core/bad.class", "lib/core/bad.class"] := by
  have hproper : (shelf []).Proper := by
    refine .directory (by decide) ?_
    simp only [List.forall_mem_singleton]
    refine .directory (by decide) ?_
    simp only [List.forall_mem_cons]
    exact ⟨.file _, .directory (by decide) (by simp), .unreadable, by simp⟩
  have hgains : FileTree.Gains "bad.class" (.file noClass) ["lib", "core"] (shelf [])
      (shelf [("bad.class", .file noClass)]) :=
    @FileTree.Gains.inside _ _ "lib" [] [] _ _ _
      (@FileTree.Gains.inside _ _ "core" [("base.jar", .file emptyArchive)]
        [("old.class", .unreadable)] _ _ _ (.here (by simp) (.refl _)))
  have hnamed : ∀ path ∈ ["lib", "lib/core"],
      (shelf [("bad.class", .file noClass)]).locate? path
        ≠ some (["lib", "core"] ++ ["bad.class"]) := by
    decide
  obtain ⟨scan', errors, hrun, -, -, hartifacts, -, hfailures, hunits, -⟩ :=
    run_gains hproper hgains refused_noClass hnamed run_shelf
  refine ⟨scan', errors, hrun, hartifacts, hfailures, ?_⟩
  rw [hunits, List.mergeSort_singleton]
  decide

/-- A directory that is both input and classpath gives two failures for one refused file, so the
failures are not those of the first scan with one inserted. -/
theorem refused_twice :
    FileTree.Gains "bad.class" (.file noClass) ["lib"] (.directory [("lib", .directory [])])
        (.directory [("lib", .directory [("bad.class", .file noClass)])])
      ∧ Refused "bad.class" (.file noClass)
      ∧ ∃ scan scan',
        run (FileTree.directory [("lib", .directory [])]).find? "lib" ["lib"] = .ok scan
          ∧ run (FileTree.directory [("lib", .directory [("bad.class", .file noClass)])]).find?
              "lib" ["lib"] = .ok scan'
          ∧ ¬∃ before after error, scan.failures = before ++ after
            ∧ scan'.failures = before ++ error :: after := by
  have hfind (entries : List (String × FileTree)) :
      (FileTree.directory [("lib", .directory entries)]).find? "lib"
        = some (.directory entries) := rfl
  have hfile (role : Role) (scan : Scan) :
      scanFile? "lib/bad.class" role false (some (.file noClass)) scan
        = some (scan.fail (.rejected "lib/bad.class")) := by
    have hkind : Path.extension "lib/bad.class" = "class" := by decide
    simp [scanFile?, hkind, scanClassFile, FileTree.content?, loadUnit, load_noClass]
  have hlisting : FileTree.listing "lib" (.directory [("bad.class", .file noClass)])
      = [("lib/bad.class", .file noClass)] := by
    rw [FileTree.listing, FileTree.entryListings_eq_map, List.map_singleton,
      List.mergeSort_singleton]
    rfl
  refine ⟨@FileTree.Gains.inside _ _ "lib" [] [] _ _ _ (.here (by simp) (.refl _)),
    refused_noClass, {}, { failures := List.replicate 2 (.rejected "lib/bad.class") },
    ?_, ?_, ?_⟩
  · simp [run, scanPath, hfind, FileTree.listing, FileTree.entryListings]
    rfl
  · rw [run, List.mergeSort_singleton]
    simp only [List.foldlM_cons, List.foldlM_nil, scanPath, hfind, hlisting, scanListing_cons,
      scanListing_nil, hfile]
    rfl
  · rintro ⟨before, after, error, hold, hnew⟩
    have hnone : before.length + after.length = 0 := by
      rw [← List.length_append, ← hold]
      rfl
    have htwo : 2 = before.length + (after.length + 1) := by
      rw [← List.length_cons, ← List.length_append, ← hnew]
      rfl
    omega

end Scan

end ClassAudit
