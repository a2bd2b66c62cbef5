import ClassAudit.File.Scan
import ClassAudit.Proofs.FileTree
import Mathlib

/-!
# What the order of entries can show

The order in which directories keep their entries, archives theirs, and a command line the paths of
the classpath has no part in a scan.  Trees that differ in such orders are scanned to one and the
same result, down to the numbers of the artifacts and the order of the failures.

## Shape of the proof

Two trees are `FileTree.Reordered` if one comes from the other by steps, each of which reorders one
directory or one archive.  Such trees have the same directories, so paths lead the same way in both,
to trees that are again reordered.  A step in a directory does not show in a listing, which is
sorted; a step in an archive does not show in its scan, where the class entries are sorted.  Both
times the names are distinct, and the sorted list is determined by its members.
-/

namespace ClassAudit

/-! ## Archives -/

namespace Archive

/-- Both byte strings parse by `ofBytes?`, have the same length, and their entries are permutations
of each other. -/
structure Reordered (bytes bytes' : Bytes) : Prop where
  length_eq : bytes.length = bytes'.length
  perm : ∃ archive archive', ofBytes? bytes = some archive ∧ ofBytes? bytes' = some archive'
    ∧ archive.entries.Perm archive'.entries

/-- `lastOfEachName` keeps one entry per name. -/
theorem nodup_lastOfEachName (entries : List ArchiveEntry) :
    ((lastOfEachName entries).map ArchiveEntry.name).Nodup := by
  have hnames : (lastOfEachName entries).map ArchiveEntry.name
      = (Text.distinctBy ArchiveEntry.name entries).map ArchiveEntry.name := by
    rw [lastOfEachName, List.map_map]
    refine List.map_congr_left fun entry _ => ?_
    cases hfind : entries.reverse.find? (·.name = entry.name) with
    | none => simp [hfind]
    | some last => simpa [hfind] using List.find?_some hfind
  rw [hnames]
  exact Text.nodup_map_distinctBy ArchiveEntry.name entries

/-- The entries of an archive that `ofBytes?` returns have distinct names. -/
theorem nodup_names {bytes : Bytes} {archive : Archive} (h : ofBytes? bytes = some archive) :
    (archive.entries.map ArchiveEntry.name).Nodup := by
  obtain ⟨⟨place, tail⟩, -, hopen⟩ := List.exists_of_findSome?_eq_some h
  simp only [openAt?, Option.bind_eq_bind, Option.bind_eq_some_iff] at hopen
  obtain ⟨_, -, _, -, _, -, hentries⟩ := hopen
  split at hentries
  · cases hentries
  · cases hentries
    exact nodup_lastOfEachName _

end Archive

namespace Scan

/-- `classEntries` is invariant under permutation of entries with distinct names. -/
theorem classEntries_perm {archive archive' : Archive}
    (hperm : archive.entries.Perm archive'.entries)
    (hnames : (archive.entries.map ArchiveEntry.name).Nodup) :
    classEntries archive = classEntries archive' := by
  refine Text.mergeSort_key_perm ArchiveEntry.name (hperm.filter _) fun a ha b hb => ?_
  exact List.inj_on_of_nodup_map hnames (List.mem_of_mem_filter ha) (List.mem_of_mem_filter hb)

/-- `scanEntries` is invariant under permutation of the entries.  A failure to open an entry does
not name the entry. -/
theorem scanEntries_perm {archive archive' : Archive}
    (hperm : archive.entries.Perm archive'.entries)
    (hnames : (archive.entries.map ArchiveEntry.name).Nodup) (path : String) (role : Role)
    (parent : Nat) (scan : Scan) :
    scanEntries path role parent archive scan = scanEntries path role parent archive' scan := by
  rw [scanEntries, scanEntries, classEntries_perm hperm hnames, List.foldl_const,
    List.foldl_const, (hperm.filter _).length_eq]

theorem scanFile?_archive {path : String} {bytes bytes' : Bytes}
    (hpath : Path.extension path = "jar") (h : Archive.Reordered bytes bytes') (role : Role)
    (isInput : Bool) (scan : Scan) :
    scanFile? path role isInput (some (.file bytes)) scan
      = scanFile? path role isInput (some (.file bytes')) scan := by
  obtain ⟨hlength, archive, archive', hopen, hopen', hperm⟩ := h
  have hentries := scanEntries_perm hperm (Archive.nodup_names hopen)
  simp [scanFile?, hpath, scanArchiveFile, FileTree.content?, hopen, hopen', hlength, hentries]

end Scan

/-! ## Trees -/

namespace FileTree

/-- The trees differ in the order of the entries of directories and of archives only.  `name` is the
name the trees stand under, by which a file counts as an archive. -/
inductive Reordered : String → FileTree → FileTree → Prop
  | refl (name : String) (tree : FileTree) : Reordered name tree tree
  | trans {name : String} {tree between tree' : FileTree} (h : Reordered name tree between)
      (h' : Reordered name between tree') : Reordered name tree tree'
  | archive {name : String} {bytes bytes' : Bytes} (hname : Path.extension name = "jar")
      (h : Archive.Reordered bytes bytes') : Reordered name (.file bytes) (.file bytes')
  | entries {name : String} {entries entries' : List (String × FileTree)}
      (hperm : entries.Perm entries') : Reordered name (.directory entries) (.directory entries')
  | inside {name directory : String} {front back : List (String × FileTree)}
      {tree tree' : FileTree} (h : Reordered directory tree tree') :
      Reordered name (.directory (front ++ (directory, tree) :: back))
        (.directory (front ++ (directory, tree') :: back))

namespace Reordered

variable {name : String} {tree tree' : FileTree}

theorem isDirectory_eq (h : Reordered name tree tree') : tree.isDirectory = tree'.isDirectory := by
  induction h with
  | refl _ _ => rfl
  | trans _ _ ih ih' => exact ih.trans ih'
  | archive _ _ => rfl
  | entries _ => rfl
  | inside _ _ => rfl

theorem proper (h : Reordered name tree tree') (hproper : tree.Proper) : tree'.Proper := by
  induction h with
  | refl _ _ => exact hproper
  | trans _ _ ih ih' => exact ih' (ih hproper)
  | archive _ _ => exact .file _
  | entries hperm =>
    refine .directory ((hperm.map Prod.fst).nodup_iff.mp hproper.nodup_names) fun entry hentry => ?_
    exact hproper.of_mem (hperm.mem_iff.mpr hentry)
  | @inside _ directory front back tree tree' _ ih =>
    refine .directory (by simpa using hproper.nodup_names) fun entry hentry => ?_
    rcases List.mem_append.mp hentry with hfront | hback
    · exact hproper.of_mem (List.mem_append_left _ hfront)
    · rcases List.mem_cons.mp hback with rfl | hback
      · exact ih hproper.of_middle
      · exact hproper.of_mem (List.mem_append_right _ (List.mem_cons_of_mem _ hback))

theorem rel_refl (name : String) (found : Option FileTree) :
    Option.Rel (Reordered name) found found := by
  cases found with
  | none => exact .none
  | some tree => exact .some (.refl name tree)

theorem rel_trans {found between found' : Option FileTree}
    (h : Option.Rel (Reordered name) found between)
    (h' : Option.Rel (Reordered name) between found') :
    Option.Rel (Reordered name) found found' := by
  cases h with
  | none => exact h'
  | some h =>
    cases h' with
    | some h' => exact .some (h.trans h')

/-- `entry?` preserves `Reordered`. -/
theorem rel_entry? (h : Reordered name tree tree') (hproper : tree.Proper) (other : String) :
    Option.Rel (Reordered other) (tree.entry? other) (tree'.entry? other) := by
  induction h with
  | refl _ _ => exact rel_refl other _
  | trans h _ ih ih' => exact rel_trans (ih hproper) (ih' (h.proper hproper))
  | archive _ _ => exact .none
  | entries hperm =>
    rw [entry?_directory, entry?_directory, lookup_perm hperm hproper.nodup_names]
    exact rel_refl other _
  | @inside _ directory front back tree tree' h _ =>
    obtain ⟨-, hfresh⟩ := hproper.around
    rw [entry?_directory, entry?_directory, lookup_middle hfresh, lookup_middle hfresh]
    by_cases hother : other = directory
    · rw [if_pos hother, if_pos hother, hother]
      exact .some h
    · rw [if_neg hother, if_neg hother]
      exact rel_refl other _

/-- `descend` preserves `Reordered`. -/
theorem rel_descend (h : Reordered name tree tree') (hproper : tree.Proper)
    (names : List String) :
    Option.Rel (Reordered (names.getLastD name)) (tree.descend names) (tree'.descend names) := by
  induction names generalizing name tree tree' with
  | nil => exact .some h
  | cons other rest ih =>
    rw [List.getLastD_cons, descend_cons, descend_cons]
    rcases rel_cases (h.rel_entry? hproper other) with
      ⟨hnone, hnone'⟩ | ⟨below, below', hbelow, hbelow', hentry⟩
    · rw [hnone, hnone']
      exact .none
    · rw [hbelow, hbelow']
      exact ih hentry (hproper.entry? hbelow)

/-- `locate?` agrees on `Reordered` trees. -/
theorem locate?_eq (h : Reordered name tree tree') (hproper : tree.Proper) (path : String) :
    tree'.locate? path = tree.locate? path := by
  have hkind (names : List String) : tree'.kind names = tree.kind names := by
    rw [kind, kind]
    rcases rel_cases (h.rel_descend hproper names) with
      ⟨hnone, hnone'⟩ | ⟨below, below', hbelow, hbelow', hrelated⟩
    · rw [hnone, hnone']
    · rw [hbelow, hbelow', Option.map_some, Option.map_some, hrelated.isDirectory_eq]
  rcases locate?_of_kind (fun names => .inl (hkind names)) path with
    hsame | ⟨names, -, hnone, hsome⟩
  · exact hsame
  · rw [hkind, hnone] at hsome
    cases hsome

/-! ## The scan of reordered trees -/

/-- `scanFile?` agrees on `Reordered` files, under any path of the same extension. -/
theorem scanFile?_eq (h : Reordered name tree tree') (hfile : tree.isDirectory = false)
    {path : String} (hpath : Path.extension name = "jar" → Path.extension path = "jar")
    (role : Role) (isInput : Bool) (scan : Scan) :
    Scan.scanFile? path role isInput (some tree) scan
      = Scan.scanFile? path role isInput (some tree') scan := by
  induction h with
  | refl _ _ => rfl
  | trans h _ ih ih' =>
    exact (ih hfile hpath).trans (ih' (h.isDirectory_eq ▸ hfile) hpath)
  | archive hname h => exact Scan.scanFile?_archive (hpath hname) h role isInput scan
  | entries _ => cases hfile
  | inside _ _ => cases hfile

/-- `scanListing` agrees on the listings of `Reordered` trees. -/
theorem scanListing_eq (h : Reordered name tree tree') (hproper : tree.Proper) (path : String)
    (hpath : tree.isDirectory = false → Path.extension name = "jar" →
      Path.extension path = "jar") (role : Role) (scan : Scan) :
    Scan.scanListing role (listing path tree) scan
      = Scan.scanListing role (listing path tree') scan := by
  induction h generalizing path scan with
  | refl _ _ => rfl
  | trans h _ ih ih' =>
    exact (ih hproper path hpath scan).trans
      (ih' (h.proper hproper) path (fun hfile => hpath (h.isDirectory_eq.trans hfile)) scan)
  | @archive name bytes bytes' hname h =>
    have hscan := Scan.scanFile?_archive (hpath rfl hname) h role false scan
    rw [listing, listing, Scan.scanListing_cons, Scan.scanListing_cons, hscan]
  | entries hperm => rw [listing_perm path hperm hproper.nodup_names]
  | @inside name directory front back tree tree' _ ih =>
    obtain ⟨hnames, hfresh⟩ := hproper.around
    obtain ⟨before, after, -, hplace⟩ := exists_listing_place path hnames hfresh
    -- Below a directory the paths are made from the names, so the premise comes for free.
    have hchild : tree.isDirectory = false → Path.extension directory = "jar" →
        Path.extension (Path.child path directory) = "jar" := by
      intro _ hjar
      rw [Path.extension_child (by simp [hjar]), hjar]
    simp only [hplace, Scan.scanListing_append]
    rw [ih hproper.of_middle _ hchild]

/-- `scanPath` agrees on `Reordered` trees. -/
theorem scanPath_eq (h : Reordered "" tree tree') (hproper : tree.Proper) (path : String)
    (role : Role) (isInput : Bool) (scan : Scan) :
    Scan.scanPath tree.find? path role isInput scan
      = Scan.scanPath tree'.find? path role isInput scan := by
  have hlocate := h.locate?_eq hproper path
  cases hbase : tree.locate? path with
  | none =>
    have hfind : tree'.find? path = tree.find? path := by simp [find?, hlocate, hbase]
    rw [Scan.scanPath, Scan.scanPath, hfind]
  | some base =>
    rcases rel_cases (h.rel_descend hproper base) with
      ⟨hnone, hnone'⟩ | ⟨below, below', hbelow, hbelow', hrelated⟩
    · have hfind : tree'.find? path = tree.find? path := by
        simp [find?, hlocate, hbase, hnone, hnone']
      rw [Scan.scanPath, Scan.scanPath, hfind]
    · have hfind : tree.find? path = some below := by simp [find?, hbase, hbelow]
      have hfind' : tree'.find? path = some below' := by simp [find?, hlocate, hbase, hbelow']
      cases hdirectory : below.isDirectory with
      | false =>
        -- A path to a file ends with its name, so it says what the name says.
        have hkind : tree.kind base ≠ some true := by simp [kind, hbelow, hdirectory]
        have hpath := extension_of_locate? hbase hkind
        have hscan := hrelated.scanFile?_eq hdirectory (hpath.trans ·) role isInput scan
        rw [Scan.scanPath_file hfind hdirectory, hscan,
          Scan.scanPath_file hfind' (hrelated.isDirectory_eq ▸ hdirectory)]
      | true =>
        obtain ⟨entries, rfl⟩ := exists_entries hdirectory
        obtain ⟨entries', rfl⟩ := exists_entries (hrelated.isDirectory_eq ▸ hdirectory)
        have hscan := hrelated.scanListing_eq (hproper.descend hbelow) path
          (fun hfile => absurd hdirectory (by simp [hfile])) role scan
        rw [Scan.scanPath_directory hfind, hscan, Scan.scanPath_directory hfind']

end Reordered

end FileTree

/-- **The scan does not depend on the order of enumeration.**  `run` agrees on `Reordered` trees and
on permutations of the classpath. -/
theorem Scan.run_reordered {tree tree' : FileTree} (hproper : tree.Proper)
    (htrees : FileTree.Reordered "" tree tree') {classpath classpath' : List String}
    (hclasspath : classpath.Perm classpath') (input : String) :
    run tree.find? input classpath = run tree'.find? input classpath' := by
  have hscan : Scan.scanPath tree.find? = Scan.scanPath tree'.find? := by
    funext path role isInput scan
    exact htrees.scanPath_eq hproper path role isInput scan
  have hsorted : classpath.mergeSort (fun a b => decide (a ≤ b))
      = classpath'.mergeSort fun a b => decide (a ≤ b) :=
    Text.mergeSort_key_perm id hclasspath fun a _ b _ hab => hab
  rw [run, run, hscan, hsorted]

/-! ## Two libraries -/

/-- The file name of a class of one letter, as bytes. -/
def classLetters (letter : UInt8) : Bytes :=
  [letter, 46, 99, 108, 97, 115, 115]

/-- An archive with two empty entries named by `classLetters`. -/
def pairArchive (first second : UInt8) : Bytes :=
  let head (letter : UInt8) :=
    [80, 75, 3, 4] ++ List.replicate 22 0 ++ [7, 0, 0, 0] ++ classLetters letter
  let entry (letter place : UInt8) :=
    [80, 75, 1, 2] ++ List.replicate 24 0 ++ [7, 0] ++ List.replicate 12 0 ++ [place, 0, 0, 0]
      ++ classLetters letter
  head first ++ head second ++ entry first 0 ++ entry second 37
    ++ [80, 75, 5, 6, 0, 0, 0, 0, 2, 0, 2, 0, 106, 0, 0, 0, 74, 0, 0, 0, 0, 0]

theorem reordered_pairArchive : Archive.Reordered (pairArchive 65 66) (pairArchive 66 65) := by
  let entry (name : String) : ArchiveEntry :=
    { name, method := 0, checksum := 0, size := 0, isEncrypted := false, packed := some [] }
  have hfirst : Archive.ofBytes? (pairArchive 65 66)
      = some ⟨[entry "A.class", entry "B.class"]⟩ := by decide +kernel
  have hsecond : Archive.ofBytes? (pairArchive 66 65)
      = some ⟨[entry "B.class", entry "A.class"]⟩ := by decide +kernel
  have hlength : (pairArchive 65 66).length = (pairArchive 66 65).length := by
    decide +kernel
  exact ⟨hlength, _, _, hfirst, hsecond, .swap _ _ _⟩

/-- A tree with an archive, an unreadable file and an empty directory. -/
def library : FileTree :=
  .directory
    [("lib", .directory [("pair.jar", .file (pairArchive 65 66)), ("C.class", .unreadable)]),
      ("ext", .directory [])]

/-- `library` with the entries of its directories and its archive in another order. -/
def libraryReordered : FileTree :=
  .directory
    [("ext", .directory []),
      ("lib", .directory [("C.class", .unreadable), ("pair.jar", .file (pairArchive 66 65))])]

theorem Scan.run_reordered_library :
    library.Proper ∧ FileTree.Reordered "" library libraryReordered
      ∧ run library.find? "lib" ["lib", "ext"]
        = run libraryReordered.find? "lib" ["ext", "lib"] := by
  have hproper : library.Proper := by
    refine .directory (by decide) ?_
    simp only [List.forall_mem_cons]
    refine ⟨.directory (by decide) ?_, .directory (by decide) (by simp), by simp⟩
    simp only [List.forall_mem_cons]
    exact ⟨.file _, .unreadable, by simp⟩
  have hlib : FileTree.Reordered "lib"
      (.directory [("pair.jar", .file (pairArchive 65 66)), ("C.class", .unreadable)])
      (.directory [("C.class", .unreadable), ("pair.jar", .file (pairArchive 66 65))]) :=
    .trans (.entries (.swap _ _ _)) (@FileTree.Reordered.inside _ "pair.jar"
      [("C.class", .unreadable)] [] _ _ (.archive (by decide) reordered_pairArchive))
  have hreordered : FileTree.Reordered "" library libraryReordered :=
    .trans (.entries (.swap _ _ _))
      (@FileTree.Reordered.inside _ "lib" [("ext", .directory [])] [] _ _ hlib)
  exact ⟨hproper, hreordered, run_reordered hproper hreordered (.swap _ _ _) "lib"⟩

end ClassAudit
