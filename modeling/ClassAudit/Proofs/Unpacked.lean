import ClassAudit.Proofs.Enumeration
import ClassAudit.Proofs.Trace
import Mathlib

/-!
# Archives and directories

An archive and a directory that holds the same files are scanned to the same classes, and to as many
failures.  The two scans take different ways: a directory is listed level by level, and the
extension of a path says what a file is; the entries of an archive are sorted at once, and the
ending of a name says what an entry is.

## Shape of the proof

What both ways come down to is `Event.ofContents`, which is said by paths and contents alone.  A
listing is a permutation of the files of a tree (`FileTree.listing_perm_files`), and those are the
files that the directory holds, told by the names that lead to them; an extension and an ending say
the same of an ordinary path (`Scan.Ordinary.isClassName_iff`).  Since a scan finds what its events
add up to (`Scan.Leads.tally_eq`), the orders do not show.
-/

namespace ClassAudit

/-! ## The kind of a path -/

namespace Text

/-- The last of the `pieces` is the whole text or stands behind the last separator. -/
theorem eq_of_pieces_concat {c : Char} {text piece : List Char} {lead : List (List Char)}
    (h : pieces c text = lead ++ [piece]) : text = piece ∨ ∃ front, text = front ++ c :: piece := by
  have hlast : (pieces c text).getLast? = some piece := by rw [h, List.getLast?_concat]
  by_cases hmem : c ∈ text
  · -- The last separator is the first one of the reversed text.
    obtain ⟨tail, front, hreverse, hfree⟩ :=
      List.eq_append_cons_of_mem (List.mem_reverse.mpr hmem)
    have htext : text = front.reverse ++ c :: tail.reverse := by
      rw [← List.reverse_reverse text, hreverse]
      simp
    have htail : pieces c tail.reverse = [tail.reverse] := pieces_of_not_mem (by simpa using hfree)
    rw [htext, pieces_append, htail, List.getLast?_concat] at hlast
    cases hlast
    exact .inr ⟨front.reverse, htext⟩
  · rw [pieces_of_not_mem hmem] at hlast
    cases hlast
    exact .inl rfl

/-- A suffix without separators is a suffix of the last piece. -/
theorem suffix_append_cons_iff {c : Char} {front piece tail : List Char} (hfree : c ∉ tail) :
    tail <:+ front ++ c :: piece ↔ tail <:+ piece := by
  have hpiece : c :: piece <:+ front ++ c :: piece := List.suffix_append front (c :: piece)
  constructor
  · intro h
    by_cases hlength : tail.length ≤ piece.length
    · exact List.suffix_of_suffix_length_le h ((List.suffix_cons c piece).trans hpiece) hlength
    · -- A longer tail would hold the separator.
      have hcons : c :: piece <:+ tail :=
        List.suffix_of_suffix_length_le hpiece h (by simpa using hlength)
      exact absurd (hcons.subset List.mem_cons_self) hfree
  · exact fun h => h.trans ((List.suffix_cons c piece).trans hpiece)

end Text

namespace Path

/-- `extensionOf` is what stands behind the last point of a name, if something stands in front of
it. -/
theorem extensionOf_eq_iff {name kind : String} (hkind : kind ≠ "") (hpoint : '.' ∉ kind.toList) :
    extensionOf name = kind ↔ ∃ stem, stem ≠ [] ∧ name.toList = stem ++ '.' :: kind.toList := by
  rw [extensionOf, List.span_eq_takeWhile_dropWhile]
  constructor
  · intro h
    have hparts := @List.takeWhile_append_dropWhile _ (· ≠ '.') name.toList.reverse
    have hhead := @List.head?_dropWhile_not _ (· ≠ '.') name.toList.reverse
    split at h
    next => exact absurd h.symm hkind
    next => exact absurd h.symm hkind
    next tail rest hnil hone heq =>
      obtain ⟨htail, hrest⟩ := Prod.mk.inj heq
      rw [hrest] at hhead
      rw [htail, hrest] at hparts
      rcases rest with _ | ⟨c, _ | ⟨d, more⟩⟩
      · exact (hnil rfl).elim
      · exact (hone c rfl).elim
      · obtain rfl : c = '.' := by simpa using hhead
        refine ⟨(d :: more).reverse, by simp, ?_⟩
        rw [← List.reverse_reverse name.toList, ← hparts, ← h]
        simp
  · rintro ⟨stem, hstem, hname⟩
    have hreverse : name.toList.reverse = kind.toList.reverse ++ '.' :: stem.reverse := by
      rw [hname]
      simp
    have hfree : ∀ c ∈ kind.toList.reverse, decide (c ≠ '.') = true := by
      intro c hc
      simpa using fun h : c = '.' => hpoint (h ▸ List.mem_reverse.mp hc)
    obtain ⟨d, more, hmore⟩ := List.exists_cons_of_ne_nil (mt List.reverse_eq_nil_iff.mp hstem)
    rw [hreverse, List.takeWhile_append_of_pos hfree, List.dropWhile_append_of_pos hfree, hmore]
    simp

/-- `endsWith` on a path is `endsWith` on its last piece. -/
theorem endsWith_of_last {path piece tail : String} {lead : List String}
    (hpieces : pieces path = lead ++ [piece]) (hfree : '/' ∉ tail.toList) :
    Text.endsWith path tail = Text.endsWith piece tail := by
  have htext : Text.pieces '/' path.toList = lead.map String.toList ++ [piece.toList] := by
    simpa [pieces] using congrArg (List.map String.toList) hpieces
  have hsuffix : tail.toList <:+ path.toList ↔ tail.toList <:+ piece.toList := by
    rcases Text.eq_of_pieces_concat htext with hall | ⟨front, hfront⟩
    · rw [hall]
    · rw [hfront, Text.suffix_append_cons_iff hfree]
  rw [Bool.eq_iff_iff, Text.endsWith, Text.endsWith, List.isSuffixOf_iff_suffix,
    List.isSuffixOf_iff_suffix, hsuffix]

end Path

namespace Scan

/-- A path that `isClassName` and `Path.extension` classify alike: not that of a `module-info.class`
or a `jar`, and with a name other than `.class`. -/
structure Ordinary (path : String) : Prop where
  not_module : Text.endsWith path "module-info.class" = false
  not_archive : Path.extension path ≠ "jar"
  named : Path.fileName? path ≠ some ".class"

/-- `isClassName` and `Path.extension` agree on an `Ordinary` path. -/
theorem Ordinary.isClassName_iff {path piece : String} {lead : List String} (h : Ordinary path)
    (hpieces : Path.pieces path = lead ++ [piece]) (hself : Path.isSelf piece = false)
    (hup : piece ≠ "..") : isClassName path = true ↔ Path.extension path = "class" := by
  have hname : Path.fileName? path = some piece := by simp [Path.fileName?, hpieces, hself, hup]
  have hpiece : piece ≠ ".class" := fun heq => h.named (by rw [hname, heq])
  have hextension : Path.extension path = Path.extensionOf piece := by
    rw [Path.extension, hname]
    rfl
  have hclass : isClassName path = Text.endsWith piece ".class" := by
    rw [isClassName, h.not_module, Path.endsWith_of_last hpieces (by decide)]
    simp
  rw [hclass, hextension, Path.extensionOf_eq_iff (by decide) (by decide), Text.endsWith,
    List.isSuffixOf_iff_suffix]
  constructor
  · rintro ⟨stem, hstem⟩
    refine ⟨stem, ?_, hstem.symm⟩
    rintro rfl
    exact hpiece (String.toList_inj.mp hstem.symm)
  · rintro ⟨stem, -, hstem⟩
    exact ⟨stem, hstem.symm⟩

end Scan

/-! ## The files of a tree -/

namespace FileTree

mutual

/-- The files of a tree, each with the names that lead to it. -/
def files : FileTree → List (List String × FileTree)
  | .file content => [([], .file content)]
  | .unreadable => [([], .unreadable)]
  | .directory entries => filesAmong entries

/-- The files of the entries of a directory. -/
def filesAmong : List (String × FileTree) → List (List String × FileTree)
  | [] => []
  | (name, tree) :: rest =>
    tree.files.map (fun file => (name :: file.1, file.2)) ++ filesAmong rest

end

theorem filesAmong_eq_flatMap (entries : List (String × FileTree)) :
    filesAmong entries
      = entries.flatMap fun entry => entry.2.files.map fun file => (entry.1 :: file.1, file.2) := by
  induction entries with
  | nil => rfl
  | cons entry rest ih => rw [filesAmong, ih, List.flatMap_cons]

variable {tree : FileTree}

/-- `listing` is a permutation of `files`. -/
theorem listing_perm_files (h : tree.Proper) (path : String) :
    (listing path tree).Perm
      (tree.files.map fun file => (file.1.foldl Path.child path, file.2)) := by
  induction h generalizing path with
  | file _ => simp [listing, files]
  | unreadable => simp [listing, files]
  | @directory entries _ _ ih =>
    -- The order in which a level is sorted is forgotten, and each entry is listed below its path.
    have hsorted : (listing path (.directory entries)).Perm
        ((entryListings path entries).flatMap (·.2)) := by
      rw [listing]
      exact (List.mergeSort_perm _ _).flatMap_right _
    refine hsorted.trans ?_
    rw [entryListings_eq_map, List.flatMap_map, files, filesAmong_eq_flatMap, List.map_flatMap]
    refine List.Perm.flatMap_left entries fun entry hentry => ?_
    rw [List.map_map]
    exact ih entry hentry (Path.child path entry.1)

/-- `files` are exactly what `descend` finds, directories excepted. -/
theorem mem_files_iff (h : tree.Proper) {names : List String} {file : FileTree} :
    (names, file) ∈ tree.files
      ↔ tree.descend names = some file ∧ file.isDirectory = false := by
  induction h generalizing names file with
  | file content =>
    cases names with
    | nil => grind [files, descend_nil, isDirectory]
    | cons name rest => simp [files, descend_cons, entry?]
  | unreadable =>
    cases names with
    | nil => grind [files, descend_nil, isDirectory]
    | cons name rest => simp [files, descend_cons, entry?]
  | @directory entries hnames _ ih =>
    rw [files, filesAmong_eq_flatMap]
    simp only [List.mem_flatMap, List.mem_map, Prod.mk.injEq]
    cases names with
    | nil =>
      constructor
      · rintro ⟨entry, -, below, -, hnil, -⟩
        cases hnil
      · rintro ⟨hdescend, hfile⟩
        cases hdescend
        cases hfile
    | cons name rest =>
      rw [descend_cons, entry?_directory, Option.bind_eq_some_iff]
      constructor
      · rintro ⟨⟨name, there⟩, hentry, ⟨rest, file⟩, hmem, ⟨rfl, rfl⟩, rfl⟩
        obtain ⟨hdescend, hfile⟩ := (ih _ hentry).mp hmem
        exact ⟨⟨there, (lookup_eq_some_iff hnames).mpr hentry, hdescend⟩, hfile⟩
      · rintro ⟨⟨there, hlookup, hdescend⟩, hfile⟩
        have hentry := (lookup_eq_some_iff hnames).mp hlookup
        exact ⟨(name, there), hentry, (rest, file), (ih _ hentry).mpr ⟨hdescend, hfile⟩,
          by simp⟩

/-- No names lead to two of the `files`. -/
theorem nodup_files (h : tree.Proper) : (tree.files.map Prod.fst).Nodup := by
  induction h with
  | file _ => simp [files]
  | unreadable => simp [files]
  | @directory entries hnames _ ih =>
    rw [files, filesAmong_eq_flatMap, List.map_flatMap, List.nodup_flatMap]
    constructor
    · intro entry hentry
      have hbelow := (ih entry hentry).map (List.cons_injective (a := entry.1))
      rwa [List.map_map] at hbelow ⊢
    · -- The places below two entries begin with different names.
      refine (List.pairwise_map.mp hnames).imp fun {entry other} hne place hplace hother => hne ?_
      obtain ⟨_, ⟨below, -, rfl⟩, rfl⟩ := by simpa only [List.mem_map] using hplace
      obtain ⟨_, ⟨below', -, rfl⟩, heq⟩ := by simpa only [List.mem_map] using hother
      exact (List.cons.inj heq).1.symm

/-! ## A directory with some files -/

/-- The files of the tree are exactly `contents`, each given by its path and its bytes. -/
structure Holds (tree : FileTree) (contents : List (String × Bytes)) : Prop where
  found : ∀ content ∈ contents, tree.find? content.1 = some (.file content.2)
  once : (contents.map fun content => tree.locate? content.1).Nodup
  all : ∀ names file, tree.descend names = some file → file.isDirectory = false →
    ∃ content ∈ contents, tree.locate? content.1 = some names

variable {contents : List (String × Bytes)}

theorem Holds.exists_names (h : tree.Holds contents) {content : String × Bytes}
    (hcontent : content ∈ contents) :
    ∃ names, tree.locate? content.1 = some names
      ∧ tree.descend names = some (.file content.2) :=
  Option.bind_eq_some_iff.mp (h.found content hcontent)

theorem Holds.nodup_paths (h : tree.Holds contents) : (contents.map Prod.fst).Nodup :=
  List.Nodup.of_map tree.locate? (by rw [List.map_map]; exact h.once)

/-- `files` in terms of `Holds`. -/
theorem Holds.files_perm (h : tree.Holds contents) (hproper : tree.Proper) :
    tree.files.Perm
      (contents.map fun content => ((tree.locate? content.1).getD [], .file content.2)) := by
  have hnodup : (contents.map fun content =>
      ((tree.locate? content.1).getD [], FileTree.file content.2)).Nodup := by
    refine h.once.of_map.map_on fun content hcontent other hother heq => ?_
    apply List.inj_on_of_nodup_map h.once hcontent hother
    obtain ⟨names, hnames, -⟩ := h.exists_names hcontent
    obtain ⟨names', hnames', -⟩ := h.exists_names hother
    have hsame := (Prod.mk.inj heq).1
    rw [hnames, hnames', Option.getD_some, Option.getD_some] at hsame
    rw [hnames, hnames', hsame]
  -- Neither side has a file twice, so it is enough that they have the same files.
  rw [List.perm_ext_iff_of_nodup (nodup_files hproper).of_map hnodup]
  rintro ⟨names, file⟩
  rw [mem_files_iff hproper, List.mem_map]
  constructor
  · rintro ⟨hdescend, hfile⟩
    obtain ⟨content, hcontent, hlocate⟩ := h.all names file hdescend hfile
    obtain ⟨names', hlocate', hdescend'⟩ := h.exists_names hcontent
    rw [hlocate] at hlocate'
    cases hlocate'
    rw [hdescend] at hdescend'
    cases hdescend'
    exact ⟨content, hcontent, by rw [hlocate, Option.getD_some]⟩
  · rintro ⟨content, hcontent, heq⟩
    obtain ⟨names', hlocate, hdescend⟩ := h.exists_names hcontent
    rw [hlocate, Option.getD_some] at heq
    cases heq
    exact ⟨hdescend, rfl⟩

end FileTree

/-! ## The events of a directory -/

namespace Event

/-- The events of files, of which those with an `isClassName` path are loaded. -/
def ofContents (role : Role) (contents : List (String × Bytes)) : List Event :=
  (contents.filter fun content => Scan.isClassName content.1).map fun content =>
    ofContent role (some content.2)

theorem ofContents_eq_flatMap (role : Role) (contents : List (String × Bytes)) :
    ofContents role contents
      = contents.flatMap fun content =>
        if Scan.isClassName content.1 then [ofContent role (some content.2)] else [] := by
  rw [ofContents]
  induction contents with
  | nil => rfl
  | cons content rest ih =>
    rw [List.filter_cons, List.flatMap_cons, ← ih]
    split <;> rfl

end Event

namespace FileTree

variable {tree : FileTree} {contents : List (String × Bytes)}

/-- `ofFile` of a file that a directory `Holds` depends only on its path within the directory. -/
theorem Holds.ofFile_eq (h : tree.Holds contents) {content : String × Bytes}
    (hcontent : content ∈ contents) (hordinary : Scan.Ordinary content.1) (role : Role)
    (directory : String) :
    Event.ofFile role (((tree.locate? content.1).getD []).foldl Path.child directory)
        (some (.file content.2))
      = if Scan.isClassName content.1 then [Event.ofContent role (some content.2)] else [] := by
  obtain ⟨names, hlocate, hdescend⟩ := h.exists_names hcontent
  have hkind : tree.kind names ≠ some true := by simp [kind, hdescend, isDirectory]
  obtain ⟨lead, piece, above, hpieces, hself, hup, rfl⟩ := exists_last_of_locate? hlocate hkind
  have hpiece : Path.pieces piece = [piece] := Path.pieces_of_mem (by rw [hpieces]; simp)
  -- Both the path within the directory and the path of the listing end with the name of the file.
  have hextension : Path.extension ((above ++ [piece]).foldl Path.child directory)
      = Path.extension content.1 := by
    obtain ⟨front, hfront⟩ := Path.exists_child_eq (above.foldl Path.child directory)
    rw [List.foldl_append, List.foldl_cons, List.foldl_nil, hfront,
      Path.extension_of_last (by rw [Path.pieces_append, hpiece]) hself hup,
      Path.extension_of_last hpieces hself hup]
  have hclass := hordinary.isClassName_iff hpieces hself hup
  rw [hlocate, Option.getD_some, Event.ofFile, hextension]
  split
  next hkind => rw [if_pos (hclass.mpr hkind)]; rfl
  next hkind => exact absurd hkind hordinary.not_archive
  next hkind _ => rw [if_neg (mt hclass.mp hkind)]

/-- `atPath` of a directory is a permutation of the events of what it `Holds`. -/
theorem Holds.atPath_perm (h : tree.Holds contents) (hproper : tree.Proper)
    (hordinary : ∀ content ∈ contents, Scan.Ordinary content.1)
    {find : String → Option FileTree} {directory : String} (hfind : find directory = some tree)
    (hdirectory : tree.isDirectory = true) (role : Role) :
    (Event.atPath find role directory).Perm (Event.ofContents role contents) := by
  have hfiles : Scan.filesAt find directory
      = (listing directory tree).map fun file => (file.1, some file.2) := by
    obtain ⟨entries, rfl⟩ := exists_entries hdirectory
    exact Scan.filesAt_directory hfind
  have hperm := (listing_perm_files hproper directory).trans ((h.files_perm hproper).map _)
  rw [Event.atPath, hfiles, List.flatMap_map, Event.ofContents_eq_flatMap]
  refine (hperm.flatMap_right _).trans ?_
  rw [List.map_map, List.flatMap_map]
  refine List.Perm.flatMap_left contents fun content hcontent => ?_
  exact .of_eq (h.ofFile_eq hcontent (hordinary content hcontent) role directory)

end FileTree

/-! ## The events of an archive -/

/-- An entry with an `isClassName` name is no directory. -/
theorem ArchiveEntry.isDirectory_of_isClassName {entry : ArchiveEntry}
    (h : Scan.isClassName entry.name = true) : entry.isDirectory = false := by
  rw [Scan.isClassName, Bool.and_eq_true, Text.endsWith, List.isSuffixOf_iff_suffix] at h
  obtain ⟨⟨stem, hstem⟩, -⟩ := h
  rw [isDirectory, ← hstem, List.getLast?_append]
  rfl

namespace Archive

/-- All entries of the archive open, and those that are no directories are exactly `contents`. -/
structure Stores (archive : Archive) (contents : List (String × Bytes)) : Prop where
  opens : ∀ entry ∈ archive.entries, entry.opens = true
  stored : ∀ content ∈ contents, ∃ entry ∈ archive.entries,
    entry.name = content.1 ∧ entry.read? = some content.2
  only : ∀ entry ∈ archive.entries, entry.isDirectory = false →
    ∃ content ∈ contents, content.1 = entry.name

variable {archive : Archive} {contents : List (String × Bytes)}

/-- `classEntries` in terms of `Stores`. -/
theorem Stores.classEntries_perm (h : archive.Stores contents)
    (hnames : (archive.entries.map ArchiveEntry.name).Nodup)
    (hpaths : (contents.map Prod.fst).Nodup) :
    ((Scan.classEntries archive).map fun entry => (entry.name, entry.read?)).Perm
      ((contents.filter fun content => Scan.isClassName content.1).map fun content =>
        (content.1, some content.2)) := by
  have hentries : ((archive.entries.filter fun entry =>
      entry.opens && !entry.isDirectory && Scan.isClassName entry.name).map fun entry =>
        (entry.name, entry.read?)).Nodup := by
    refine List.Nodup.of_map Prod.fst ?_
    rw [List.map_map]
    exact (List.filter_sublist.map ArchiveEntry.name).nodup hnames
  have hcontents : ((contents.filter fun content => Scan.isClassName content.1).map fun content =>
      (content.1, some content.2)).Nodup := by
    refine List.Nodup.of_map Prod.fst ?_
    rw [List.map_map]
    exact (List.filter_sublist.map Prod.fst).nodup hpaths
  refine ((List.mergeSort_perm _ _).map _).trans ?_
  rw [List.perm_ext_iff_of_nodup hentries hcontents]
  rintro ⟨name, bytes⟩
  simp only [List.mem_map, List.mem_filter, Bool.and_eq_true, Bool.not_eq_true', Prod.mk.injEq]
  constructor
  · rintro ⟨entry, ⟨hentry, ⟨-, hfile⟩, hclass⟩, rfl, rfl⟩
    obtain ⟨content, hcontent, hname⟩ := h.only entry hentry hfile
    obtain ⟨other, hother, hname', hread⟩ := h.stored content hcontent
    -- No two entries have one name, so the entry of the content is this one.
    obtain rfl := List.inj_on_of_nodup_map hnames hother hentry (hname'.trans hname)
    exact ⟨content, ⟨hcontent, by rwa [hname]⟩, hname, hread.symm⟩
  · rintro ⟨content, ⟨hcontent, hclass⟩, rfl, rfl⟩
    obtain ⟨entry, hentry, hname, hread⟩ := h.stored content hcontent
    rw [← hname] at hclass
    exact ⟨entry, ⟨hentry, ⟨h.opens entry hentry, ArchiveEntry.isDirectory_of_isClassName hclass⟩,
      hclass⟩, hname, hread⟩

/-- `ofArchive` is `opened` and a permutation of the events of what the archive `Stores`. -/
theorem Stores.ofArchive_perm (h : archive.Stores contents)
    (hnames : (archive.entries.map ArchiveEntry.name).Nodup)
    (hpaths : (contents.map Prod.fst).Nodup) (role : Role) :
    (Event.ofArchive role archive).Perm (.opened :: Event.ofContents role contents) := by
  have hclosed : archive.entries.filter (!·.opens) = [] := by
    simpa [List.filter_eq_nil_iff] using h.opens
  have hperm := (h.classEntries_perm hnames hpaths).map fun content =>
    Event.ofContent role content.2
  rw [List.map_map, List.map_map] at hperm
  rw [Event.ofArchive, hclosed]
  exact hperm.cons Event.opened

end Archive

namespace Scan

/-! ## Counting -/

/-- The result of a scan up to order: the classes by role, and the numbers of classes and failures.
-/
def tally (scan : Scan) : Multiset Class × Multiset Class × ℕ × ℕ :=
  (scan.classes, scan.classpathClasses, scan.classCount, scan.failures.length)

/-- The summand of an event in `tally`. -/
def weight : Event → Multiset Class × Multiset Class × ℕ × ℕ
  | .loaded .target c => ({c}, 0, 1, 0)
  | .loaded .classpath c => (0, {c}, 1, 0)
  | .failed => (0, 0, 0, 1)
  | .opened => 0

variable {scan next : Scan} {event : Event} {events : List Event}

theorem Step.tally_eq (h : Step scan event next) : next.tally = scan.tally + weight event := by
  cases h with
  | @loaded role =>
    cases role <;>
      simp [tally, weight, addArtifact, addClass, ← Multiset.coe_add, ← Multiset.coe_singleton]
  | failed _ => simp [tally, weight, fail]
  | opened _ => simp [tally, weight, addArtifact]

/-- `tally` is the sum of the weights of the events, and so does not depend on their order. -/
theorem Leads.tally_eq (h : Leads scan events next) :
    next.tally = scan.tally + (events.map weight).sum := by
  induction h with
  | nil _ => simp
  | cons hstep _ ih => rw [ih, hstep.tally_eq, List.map_cons, List.sum_cons, add_assoc]

section Inputs

variable {find find' : String → Option FileTree} {input input' : String} {classpath : List String}

/-- Whether `run` fails, and with which error, depends only on the class path if the input is
supported. -/
theorem run_eq_error_congr (hsupported : isSupported find input = true)
    (hsupported' : isSupported find' input' = true)
    (hclasspath : ∀ path ∈ classpath, find' path = find path) (error : ScanError) :
    run find input classpath = .error error ↔ run find' input' classpath = .error error := by
  have hfirst : (classpath.mergeSort fun a b => decide (a ≤ b)).find? (!isSupported find' ·)
      = (classpath.mergeSort fun a b => decide (a ≤ b)).find? (!isSupported find ·) := by
    refine List.find?_congr fun path hpath => ?_
    rw [isSupported, isSupported, hclasspath path (List.mem_mergeSort.mp hpath)]
  rw [run_eq_error_iff, run_eq_error_iff, List.find?_cons_of_neg (by simp [hsupported]),
    List.find?_cons_of_neg (by simp [hsupported']), hfirst]

/-- `ofRun` for two inputs whose events are permutations of each other, `opened` excepted. -/
theorem ofRun_perm
    (hevents : (Event.atPath find' .target input').Perm
      (.opened :: Event.atPath find .target input))
    (hclasspath : ∀ path ∈ classpath, find' path = find path) :
    (Event.ofRun find' input' classpath).Perm (.opened :: Event.ofRun find input classpath) := by
  have hrest : (classpath.mergeSort fun a b => decide (a ≤ b)).flatMap
        (Event.atPath find' .classpath)
      = (classpath.mergeSort fun a b => decide (a ≤ b)).flatMap
        (Event.atPath find .classpath) := by
    refine List.flatMap_congr fun path hpath => ?_
    rw [Event.atPath, Event.atPath, filesAt, filesAt,
      hclasspath path (List.mem_mergeSort.mp hpath)]
  rw [Event.ofRun, Event.ofRun, hrest]
  exact hevents.append_right _

/-- `run` has the same `tally` for two inputs whose events are permutations of each other, `opened`
excepted. -/
theorem map_tally_run_eq
    (hevents : (Event.atPath find' .target input').Perm
      (.opened :: Event.atPath find .target input))
    (hsupported : isSupported find input = true) (hsupported' : isSupported find' input' = true)
    (hclasspath : ∀ path ∈ classpath, find' path = find path) :
    (run find input classpath).map tally = (run find' input' classpath).map tally := by
  have herror := run_eq_error_congr hsupported hsupported' hclasspath
  cases hrun : run find input classpath with
  | error error => rw [(herror error).mp hrun]
  | ok scan =>
    cases hrun' : run find' input' classpath with
    | error error =>
      rw [(herror error).mpr hrun'] at hrun
      cases hrun
    | ok scan' =>
      have hperm := (ofRun_perm hevents hclasspath).map weight
      have htally : scan.tally = scan'.tally := by
        rw [(leads_of_run hrun).tally_eq, (leads_of_run hrun').tally_eq, hperm.sum_eq,
          List.map_cons, List.sum_cons, weight, zero_add]
      exact congrArg Except.ok htally

end Inputs

/-- **An archive and its unpacked directory are scanned alike.**  Let a directory `Holds` the
contents that an archive `Stores`, all under `Ordinary` paths.  Then `run` succeeds on the directory
alone, and for any class path the runs on the directory and on the archive have the same `tally`, or
fail with the same error. -/
theorem run_unpacked {tree : FileTree} {contents : List (String × Bytes)} {bytes : Bytes}
    {archive : Archive} (hproper : tree.Proper) (hdirectory : tree.isDirectory = true)
    (hholds : tree.Holds contents) (hopen : Archive.ofBytes? bytes = some archive)
    (hstores : archive.Stores contents) (hordinary : ∀ content ∈ contents, Ordinary content.1)
    {find find' : String → Option FileTree} {directory jar : String}
    (hfind : find directory = some tree) (hfind' : find' jar = some (.file bytes))
    (hjar : Path.extension jar = "jar") :
    (∃ scan, run find directory [] = .ok scan)
      ∧ ∀ classpath, (∀ path ∈ classpath, find' path = find path) →
        (run find directory classpath).map tally = (run find' jar classpath).map tally := by
  have hsupported : isSupported find directory = true := by
    simp [isSupported, hfind, hdirectory]
  have hsupported' : isSupported find' jar = true := by simp [isSupported, hjar]
  have hunpacked := hholds.atPath_perm hproper hordinary hfind hdirectory .target
  have hpacked : (Event.atPath find' .target jar).Perm
      (.opened :: Event.ofContents .target contents) := by
    have harchive : Event.atPath find' .target jar = Event.ofArchive .target archive := by
      simp [Event.atPath, filesAt, hfind', Event.ofFile, hjar, FileTree.content?, hopen]
    rw [harchive]
    exact hstores.ofArchive_perm (Archive.nodup_names hopen) hholds.nodup_paths .target
  constructor
  · obtain ⟨scan, hscan⟩ := scanPath_of_isSupported hsupported .target true {}
    exact ⟨scan, bind_eq_ok.mpr ⟨scan, hscan, by rw [List.mergeSort_nil]; rfl⟩⟩
  · intro classpath hclasspath
    exact map_tally_run_eq (hpacked.trans (hunpacked.symm.cons _)) hsupported hsupported'
      hclasspath

end Scan

/-! ## An application, unpacked and packed -/

/-- `value` in `width` bytes, the lowest first. -/
def littleEndian (width value : Nat) : Bytes :=
  (List.range width).map fun i => (value / 256 ^ i).toUInt8

/-- The bytes of an ASCII text. -/
def letterBytes (text : String) : Bytes :=
  text.toList.map fun c => c.toNat.toUInt8

/-- The checksum, the two sizes and the length of the name of a stored file. -/
def storedSizes (file : String × Bytes) : Bytes :=
  littleEndian 4 (Crc32.ofBytes file.2).toNat ++ littleEndian 4 file.2.length
    ++ littleEndian 4 file.2.length ++ littleEndian 2 file.1.length ++ [0, 0]

/-- The local header and the data of a stored file. -/
def storedFile (file : String × Bytes) : Bytes :=
  [80, 75, 3, 4] ++ List.replicate 10 0 ++ storedSizes file ++ letterBytes file.1 ++ file.2

/-- The central directory of files that are stored from `place` on. -/
def storedDirectory (place : Nat) : List (String × Bytes) → Bytes
  | [] => []
  | file :: rest =>
    [80, 75, 1, 2] ++ List.replicate 12 0 ++ storedSizes file ++ List.replicate 10 0
      ++ littleEndian 4 place ++ letterBytes file.1
      ++ storedDirectory (place + (storedFile file).length) rest

/-- The bytes of an archive of stored files. -/
def storedArchive (files : List (String × Bytes)) : Bytes :=
  let front := files.flatMap storedFile
  let directory := storedDirectory 0 files
  front ++ directory ++ [80, 75, 5, 6, 0, 0, 0, 0] ++ littleEndian 2 files.length
    ++ littleEndian 2 files.length ++ littleEndian 4 directory.length
    ++ littleEndian 4 front.length ++ [0, 0]

/-- A class file with only a name, `A`. -/
def bareClass : Bytes :=
  [0xCA, 0xFE, 0xBA, 0xBE, 0, 0, 0, 52, 0, 3, 1, 0, 1, 65, 7, 0, 1, 0, 0, 0, 2]
    ++ List.replicate 10 0

/-- A class file, a file of text that is named as a class, and notes. -/
def application : List (String × Bytes) :=
  [("p/A.class", bareClass), ("q.class/..class", [110, 111]), ("notes.txt", [104, 105])]

/-- `application` in directories. -/
def unpackedApplication : FileTree :=
  .directory
    [("q.class", .directory [("..class", .file [110, 111])]), ("notes.txt", .file [104, 105]),
      ("p", .directory [("A.class", .file bareClass)])]

/-- `application` in an archive, with an entry for the directory `p`. -/
def packedApplication : Bytes :=
  storedArchive (("p/", []) :: application)

theorem proper_unpackedApplication : unpackedApplication.Proper := by
  have hsingle (name : String) (content : Bytes) :
      (FileTree.directory [(name, .file content)]).Proper :=
    .directory (by simp) (by simpa using FileTree.Proper.file content)
  refine .directory (by decide) ?_
  simp only [List.forall_mem_cons]
  exact ⟨hsingle _ _, .file _, hsingle _ _, by simp⟩

theorem holds_application : unpackedApplication.Holds application where
  found := by
    simp only [application, List.forall_mem_cons]
    exact ⟨rfl, rfl, rfl, by simp⟩
  once := by decide
  all := by
    intro names file hdescend hfile
    have hmem := (FileTree.mem_files_iff proper_unpackedApplication).mpr ⟨hdescend, hfile⟩
    have hplace : names ∈ unpackedApplication.files.map Prod.fst :=
      List.mem_map.mpr ⟨_, hmem, rfl⟩
    have hplaces : ∀ names ∈ unpackedApplication.files.map Prod.fst, ∃ content ∈ application,
        unpackedApplication.locate? content.1 = some names := by decide
    exact hplaces names hplace

/-- The `ArchiveEntry` of a stored file. -/
def storedEntry (file : String × Bytes) : ArchiveEntry :=
  { name := file.1, method := 0, checksum := Crc32.ofBytes file.2, size := file.2.length
    isEncrypted := false, packed := some file.2 }

/-- The `Archive` in `packedApplication`. -/
def applicationArchive : Archive :=
  { entries := (("p/", []) :: application).map storedEntry }

theorem ofBytes?_packedApplication :
    Archive.ofBytes? packedApplication = some applicationArchive := by
  decide +kernel

theorem read?_storedEntry (file : String × Bytes) : (storedEntry file).read? = some file.2 := by
  simp [storedEntry, ArchiveEntry.read?, ArchiveEntry.unpack?]

theorem stores_application : applicationArchive.Stores application where
  opens := by decide
  stored := by
    intro content hcontent
    exact ⟨storedEntry content, List.mem_map_of_mem (List.mem_cons_of_mem _ hcontent), rfl,
      read?_storedEntry content⟩
  only := by decide

/-- `unpackedApplication` and `packedApplication` side by side. -/
def disk : FileTree :=
  .directory [("app", unpackedApplication), ("app.jar", .file packedApplication)]

/-- `disk` scanned by directory and by archive, with the directory also on the class path. -/
theorem Scan.run_unpacked_application :
    (∃ scan, run disk.find? "app" [] = .ok scan)
      ∧ (run disk.find? "app" ["app"]).map tally
        = (run disk.find? "app.jar" ["app"]).map tally := by
  have hordinary : ∀ content ∈ application, Ordinary content.1 := by
    simp only [application, List.forall_mem_cons]
    exact ⟨⟨by decide, by decide, by decide⟩, ⟨by decide, by decide, by decide⟩,
      ⟨by decide, by decide, by decide⟩, by simp⟩
  have hfind : disk.find? "app" = some unpackedApplication := rfl
  have hfind' : disk.find? "app.jar" = some (.file packedApplication) := rfl
  obtain ⟨hends, htally⟩ := run_unpacked proper_unpackedApplication rfl holds_application
    ofBytes?_packedApplication stores_application hordinary hfind hfind' (by decide)
  exact ⟨hends, htally ["app"] fun _ _ => rfl⟩

end ClassAudit
