import ClassAudit.File.Tree
import ClassAudit.Proofs.Ordered
import Mathlib

/-!
# File trees

Where a path leads depends on what there is in a tree and which of it are directories, not on the
content of files or the order of entries.  A listing has one place for every entry of a directory,
and what stands below the entry stands there together.

## Shape of the statements

Directories are lists of entries, and the look-up of a name takes the first that fits.  The trees
that stand for real ones have no name twice in a directory; this is `FileTree.Proper`, and the
statements on the order of entries rest on it.
-/

namespace ClassAudit

/-- Inversion of `Option.Rel`. -/
theorem rel_cases {α β : Type} {r : α → β → Prop} {found : Option α} {found' : Option β}
    (h : Option.Rel r found found') :
    found = none ∧ found' = none ∨ ∃ a b, found = some a ∧ found' = some b ∧ r a b := by
  cases h with
  | none => exact .inl ⟨rfl, rfl⟩
  | some h => exact .inr ⟨_, _, rfl, rfl, h⟩

/-! ## Pieces of texts and paths -/

theorem Text.pieces_ne_nil (c : Char) (text : List Char) : pieces c text ≠ [] := by
  cases text with
  | nil => simp [pieces]
  | cons d rest =>
    rw [pieces]
    split
    · simp
    · split <;> simp

/-- `pieces` of a text with a separator in the middle. -/
theorem Text.pieces_append (c : Char) (lead tail : List Char) :
    pieces c (lead ++ c :: tail) = pieces c lead ++ pieces c tail := by
  induction lead with
  | nil => simp [pieces]
  | cons d rest ih =>
    rw [List.cons_append, pieces, pieces, ih]
    split
    · rfl
    · obtain ⟨piece, more, hpieces⟩ := List.exists_cons_of_ne_nil (pieces_ne_nil c rest)
      simp [hpieces]

/-- No piece contains the separator. -/
theorem Text.not_mem_of_mem_pieces {c : Char} {text piece : List Char}
    (h : piece ∈ pieces c text) : c ∉ piece := by
  induction text generalizing piece with
  | nil => simp_all [pieces]
  | cons d rest ih =>
    rw [pieces] at h
    split at h
    · rcases List.mem_cons.mp h with rfl | hrest
      · simp
      · exact ih hrest
    next hne =>
      obtain ⟨first, more, hpieces⟩ := List.exists_cons_of_ne_nil (pieces_ne_nil c rest)
      rw [hpieces] at h ih
      rcases List.mem_cons.mp h with rfl | hmore
      · have hfirst := ih List.mem_cons_self
        simpa [eq_comm] using And.intro hne hfirst
      · exact ih (List.mem_cons_of_mem first hmore)

/-- A text without the separator is one piece. -/
theorem Text.pieces_of_not_mem {c : Char} {text : List Char} (h : c ∉ text) :
    pieces c text = [text] := by
  induction text with
  | nil => rfl
  | cons d rest ih =>
    rw [List.mem_cons, not_or] at h
    rw [pieces, if_neg (Ne.symm h.1), ih h.2]

namespace Path

/-- `child` appends a slash and the name to a prefix that depends on the directory only. -/
theorem exists_child_eq (directory : String) :
    ∃ lead, ∀ name, child directory name = lead ++ "/" ++ name := by
  by_cases hends : Text.endsWith directory "/"
  · obtain ⟨lead, hlead⟩ := List.isSuffixOf_iff_suffix.mp hends
    refine ⟨String.ofList lead, fun name => ?_⟩
    have hdirectory : directory = String.ofList lead ++ "/" := by
      rw [← String.toList_inj, ← hlead]
      simp
    rw [child, if_pos hends, ← hdirectory]
  · exact ⟨directory, fun name => by rw [child, if_neg hends]⟩

theorem child_injective (directory : String) : Function.Injective (child directory) := by
  obtain ⟨lead, hlead⟩ := exists_child_eq directory
  intro name other h
  rw [hlead, hlead, ← String.toList_inj] at h
  exact String.toList_inj.mp (by simpa using h)

theorem pieces_append (lead tail : String) :
    pieces (lead ++ "/" ++ tail) = pieces lead ++ pieces tail := by
  simp [pieces, Text.pieces_append]

theorem pieces_ne_nil (path : String) : pieces path ≠ [] := by
  simp [pieces, Text.pieces_ne_nil]

theorem pieces_of_mem {path piece : String} (h : piece ∈ pieces path) : pieces piece = [piece] := by
  obtain ⟨text, htext, rfl⟩ := List.mem_map.mp h
  have hpiece := Text.pieces_of_not_mem (Text.not_mem_of_mem_pieces htext)
  simp [pieces, hpiece]

/-- The `extension` of a path is that of its last piece, unless this is `.` or `..`. -/
theorem extension_of_last {path piece : String} {lead : List String}
    (hpieces : pieces path = lead ++ [piece]) (hself : isSelf piece = false) (hup : piece ≠ "..") :
    extension path = extension piece := by
  have hpiece : pieces piece = [piece] := pieces_of_mem (by rw [hpieces]; simp)
  have hpath : fileName? path = some piece := by
    simp [fileName?, hpieces, hself, hup]
  have hname : fileName? piece = some piece := by
    simp [fileName?, hpiece, hself, hup]
  rw [extension, extension, hpath, hname]

/-- `child` preserves the `extension` of the name. -/
theorem extension_child {directory name : String} (h : extension name ≠ "") :
    extension (child directory name) = extension name := by
  obtain ⟨lead, hlead⟩ := exists_child_eq directory
  rw [hlead]
  simp only [extension, fileName?, pieces_append, List.filter_append, List.getLast?_append] at h ⊢
  cases hlast : ((pieces name).filter (!isSelf ·)).getLast? with
  | none => simp [hlast] at h
  | some last => simp

end Path

namespace FileTree

/-! ## Trees without doubled names -/

/-- The entries of every directory in the tree have distinct names. -/
inductive Proper : FileTree → Prop
  | file (content : Bytes) : Proper (.file content)
  | unreadable : Proper .unreadable
  | directory {entries : List (String × FileTree)} (hnames : (entries.map Prod.fst).Nodup)
      (hentries : ∀ entry ∈ entries, Proper entry.2) : Proper (.directory entries)

variable {tree tree' : FileTree} {entries entries' front back : List (String × FileTree)}

theorem Proper.nodup_names (h : Proper (.directory entries)) : (entries.map Prod.fst).Nodup := by
  cases h with
  | directory hnames _ => exact hnames

theorem Proper.of_mem (h : Proper (.directory entries)) {entry : String × FileTree}
    (hentry : entry ∈ entries) : Proper entry.2 := by
  cases h with
  | directory _ hentries => exact hentries entry hentry

/-- In a `Proper` directory, the names around an entry are distinct and differ from its own. -/
theorem Proper.around {name : String} (h : Proper (.directory (front ++ (name, tree) :: back))) :
    ((front ++ back).map Prod.fst).Nodup ∧ name ∉ (front ++ back).map Prod.fst := by
  have hperm : (front ++ (name, tree) :: back).Perm ((name, tree) :: (front ++ back)) :=
    List.perm_middle
  have hnames := (hperm.map Prod.fst).nodup_iff.mp h.nodup_names
  rw [List.map_cons, List.nodup_cons] at hnames
  exact hnames.symm

theorem Proper.of_middle {name : String} (h : Proper (.directory (front ++ (name, tree) :: back))) :
    tree.Proper :=
  h.of_mem (List.mem_append_right front List.mem_cons_self)

/-! ## Entries -/

theorem lookup_cons (name other : String) :
    ((name, tree) :: entries).lookup other
      = if other = name then some tree else entries.lookup other := by
  by_cases hother : other = name
  · simp [hother]
  · have hbeq : (other == name) = false := by simpa using hother
    simp [List.lookup_cons, hbeq, hother]

/-- With distinct names, `lookup` finds exactly the entries of the list. -/
theorem lookup_eq_some_iff (hnames : (entries.map Prod.fst).Nodup) {name : String} :
    entries.lookup name = some tree ↔ (name, tree) ∈ entries := by
  induction entries with
  | nil => simp
  | cons entry rest ih =>
    obtain ⟨other, there⟩ := entry
    rw [List.map_cons, List.nodup_cons] at hnames
    rw [lookup_cons]
    by_cases hname : name = other
    · subst hname
      have hfresh : (name, tree) ∉ rest := fun hmem =>
        hnames.1 (List.mem_map.mpr ⟨_, hmem, rfl⟩)
      simp [hfresh, eq_comm]
    · simp [hname, ih hnames.2]

/-- With distinct names, `lookup` is invariant under permutation. -/
theorem lookup_perm (hperm : entries.Perm entries') (hnames : (entries.map Prod.fst).Nodup)
    (name : String) : entries.lookup name = entries'.lookup name := by
  refine Option.ext fun tree => ?_
  rw [lookup_eq_some_iff hnames, lookup_eq_some_iff ((hperm.map Prod.fst).nodup_iff.mp hnames),
    hperm.mem_iff]

theorem lookup_eq_none {name : String} (hname : name ∉ entries.map Prod.fst) :
    entries.lookup name = none := by
  rw [List.lookup_eq_none_iff]
  intro entry hentry
  have hne : name ≠ entry.1 := fun h => hname (List.mem_map.mpr ⟨entry, hentry, h.symm⟩)
  simpa using hne

/-- `lookup` after an entry with a new name is inserted. -/
theorem lookup_middle {name : String} (hname : name ∉ (front ++ back).map Prod.fst)
    (other : String) :
    (front ++ (name, tree) :: back).lookup other
      = if other = name then some tree else (front ++ back).lookup other := by
  have hfront : front.lookup name = none := by
    rw [List.map_append, List.mem_append, not_or] at hname
    exact lookup_eq_none hname.1
  rw [List.lookup_append, List.lookup_append, lookup_cons]
  by_cases hother : other = name <;> simp [hother, hfront]

@[simp]
theorem entry?_directory (name : String) : entry? name (directory entries) = entries.lookup name :=
  rfl

theorem exists_entries (h : tree.isDirectory = true) : ∃ entries, tree = .directory entries := by
  cases tree with
  | directory entries => exact ⟨entries, rfl⟩
  | file | unreadable => cases h

theorem entry?_eq_none (h : tree.isDirectory = false) (name : String) :
    tree.entry? name = none := by
  cases tree with
  | directory _ => cases h
  | file | unreadable => rfl

/-! ## Going down -/

@[simp]
theorem descend_nil : tree.descend [] = some tree := rfl

@[simp]
theorem descend_cons (name : String) (names : List String) :
    tree.descend (name :: names) = (tree.entry? name).bind (·.descend names) := rfl

theorem descend_append (names more : List String) :
    tree.descend (names ++ more) = (tree.descend names).bind (·.descend more) := by
  simp [descend, List.foldlM_append]

theorem Proper.entry? (h : tree.Proper) {name : String} (hentry : tree.entry? name = some tree') :
    tree'.Proper := by
  cases tree with
  | directory entries => exact h.of_mem ((lookup_eq_some_iff h.nodup_names).mp hentry)
  | file | unreadable => cases hentry

/-- `descend` preserves `Proper`. -/
theorem Proper.descend (h : tree.Proper) {names : List String}
    (hdescend : tree.descend names = some tree') : tree'.Proper := by
  induction names generalizing tree with
  | nil => cases hdescend; exact h
  | cons name rest ih =>
    obtain ⟨below, hentry, hrest⟩ := Option.bind_eq_some_iff.mp hdescend
    exact ih (h.entry? hentry) hrest

/-! ## Following a path -/

/-- Whether there is a directory under these names; `none` if there is nothing. -/
def kind (tree : FileTree) (names : List String) : Option Bool :=
  (tree.descend names).map isDirectory

/-- The step of `follow` in terms of `kind`. -/
theorem follow_cons (place : List String) (piece : String) (rest : List String) :
    tree.follow place (piece :: rest) =
      if tree.kind place.reverse ≠ some true then none
      else if Path.isSelf piece then tree.follow place rest
      else if piece = ".." then if place = [] then none else tree.follow place.tail rest
      else if tree.kind (place.reverse ++ [piece]) = none then none
      else tree.follow (piece :: place) rest := by
  rw [follow.eq_def]
  cases hcurrent : tree.descend place.reverse with
  | none => simp [kind, hcurrent]
  | some current =>
    cases hdirectory : current.isDirectory with
    | false => simp [kind, hcurrent, hdirectory]
    | true =>
      have hplace : tree.kind place.reverse = some true := by
        simp [kind, hcurrent, hdirectory]
      have hnext : tree.kind (place.reverse ++ [piece]) =
          (current.entry? piece).map isDirectory := by
        simp [kind, descend_append, hcurrent]
      rw [hplace, hnext]
      cases place <;> cases hentry : current.entry? piece <;> simp [hdirectory, hentry]

/-- If `tree'` has the directories of `tree` and possibly more files, `follow` agrees unless it
leads to one of these files. -/
theorem follow_of_kind
    (hkind : ∀ names, tree'.kind names = tree.kind names
      ∨ tree.kind names = none ∧ tree'.kind names = some false)
    (place pieces : List String) :
    tree'.follow place pieces = tree.follow place pieces
      ∨ ∃ names, tree'.follow place pieces = some names
        ∧ tree.kind names.reverse = none ∧ tree'.kind names.reverse = some false := by
  induction pieces generalizing place with
  | nil => exact .inl rfl
  | cons piece rest ih =>
    rw [follow_cons, follow_cons]
    rcases hkind place.reverse with hplace | ⟨hnone, hfile⟩
    · rw [hplace]
      split_ifs with hdirectory hself habove htop
      · exact .inl rfl
      · exact ih place
      · exact .inl rfl
      · exact ih place.tail
      -- The piece is a name.  If only the second tree has a file of that name, the path ends there
      -- or leads nowhere.
      all_goals
        rcases hkind (place.reverse ++ [piece]) with hnext | ⟨hnone, hfile⟩
        · simp_all
        · cases rest with
          | nil => simp_all [follow]
          | cons _ _ => simp_all [follow_cons]
    · -- No path goes on from a file, and none from where there is nothing.
      exact .inl (by simp [hnone, hfile])

/-- If `tree'` has the directories of `tree` and possibly more files, `locate?` agrees unless it
leads to one of these files. -/
theorem locate?_of_kind
    (hkind : ∀ names, tree'.kind names = tree.kind names
      ∨ tree.kind names = none ∧ tree'.kind names = some false) (path : String) :
    tree'.locate? path = tree.locate? path
      ∨ ∃ names, tree'.locate? path = some names
        ∧ tree.kind names = none ∧ tree'.kind names = some false := by
  rw [locate?, locate?]
  split_ifs
  · exact .inl rfl
  · rcases follow_of_kind hkind [] (Path.pieces path) with hsame | ⟨names, hnames, hgained⟩
    · exact .inl (by rw [hsame])
    · exact .inr ⟨names.reverse, by rw [hnames, Option.map_some], hgained⟩

/-- Whatever exists lies in a directory. -/
theorem kind_of_concat {names : List String} {name : String}
    (h : tree.kind (names ++ [name]) ≠ none) : tree.kind names = some true := by
  rw [kind, descend_append] at h
  cases hcurrent : tree.descend names with
  | none => simp [hcurrent] at h
  | some current =>
    cases hdirectory : current.isDirectory with
    | true => simp [kind, hcurrent, hdirectory]
    | false => simp [hcurrent, entry?_eq_none hdirectory] at h

/-- A run of `follow` that ends at a file ends with a piece that is the name of the file. -/
theorem exists_last_of_follow {place pieces names : List String}
    (h : tree.follow place pieces = some names) (hfile : tree.kind names.reverse ≠ some true) :
    pieces = [] ∧ names = place
      ∨ ∃ lead piece above, pieces = lead ++ [piece] ∧ Path.isSelf piece = false ∧ piece ≠ ".."
        ∧ names = piece :: above := by
  induction pieces generalizing place with
  | nil =>
    cases h
    exact .inl ⟨rfl, rfl⟩
  | cons piece rest ih =>
    right
    rw [follow_cons] at h
    split_ifs at h with hplace hself hup htop hnext
    -- A piece that names the directory itself, one that names the directory above, and a name.
    · rcases ih h with ⟨rfl, rfl⟩ | ⟨lead, last, above, rfl, hlast⟩
      · exact absurd (not_not.mp hplace) hfile
      · exact ⟨piece :: lead, last, above, rfl, hlast⟩
    · rcases ih h with ⟨rfl, rfl⟩ | ⟨lead, last, above, rfl, hlast⟩
      · obtain ⟨inner, above, rfl⟩ := List.exists_cons_of_ne_nil htop
        have habove : tree.kind above.reverse = some true := by
          rw [List.reverse_cons, not_not] at hplace
          exact @kind_of_concat tree above.reverse inner (by simp [hplace])
        exact absurd habove hfile
      · exact ⟨piece :: lead, last, above, rfl, hlast⟩
    · rcases ih h with ⟨rfl, rfl⟩ | ⟨lead, last, above, rfl, hlast⟩
      · exact ⟨[], piece, place, rfl, by simpa using hself, hup, rfl⟩
      · exact ⟨piece :: lead, last, above, rfl, hlast⟩

/-- A path that `locate?` leads to a file ends with the name of the file. -/
theorem exists_last_of_locate? {path : String} {names : List String}
    (h : tree.locate? path = some names) (hfile : tree.kind names ≠ some true) :
    ∃ lead piece above, Path.pieces path = lead ++ [piece] ∧ Path.isSelf piece = false
      ∧ piece ≠ ".." ∧ names = above ++ [piece] := by
  rw [locate?] at h
  split_ifs at h
  obtain ⟨backwards, hfollow, rfl⟩ := Option.map_eq_some_iff.mp h
  rcases exists_last_of_follow hfollow hfile with ⟨hnil, -⟩ | ⟨lead, piece, above, hlast⟩
  · exact absurd hnil (Path.pieces_ne_nil path)
  · obtain ⟨hpieces, hself, hup, rfl⟩ := hlast
    exact ⟨lead, piece, above.reverse, hpieces, hself, hup, List.reverse_cons⟩

/-- A path that `locate?` leads to a file has the `extension` of the name of the file. -/
theorem extension_of_locate? {path : String} {names : List String}
    (h : tree.locate? path = some names) (hfile : tree.kind names ≠ some true) :
    Path.extension path = Path.extension (names.getLastD "") := by
  obtain ⟨lead, piece, above, hpieces, hself, hup, rfl⟩ := exists_last_of_locate? h hfile
  rw [Path.extension_of_last hpieces hself hup, List.getLastD_concat]

/-! ## Listings -/

theorem listing_of_file (h : tree.isDirectory = false) (path : String) :
    listing path tree = [(path, tree)] := by
  cases tree with
  | directory _ => cases h
  | file | unreadable => rw [listing]

theorem entryListings_eq_map (path : String) (entries : List (String × FileTree)) :
    entryListings path entries
      = entries.map fun entry =>
        (Path.child path entry.1, listing (Path.child path entry.1) entry.2) := by
  induction entries with
  | nil => rfl
  | cons entry rest ih => rw [entryListings, ih, List.map_cons]

/-- `entryListings` of distinct names has distinct paths. -/
theorem nodup_entryListings (path : String) (hnames : (entries.map Prod.fst).Nodup) :
    ((entryListings path entries).map Prod.fst).Nodup := by
  have hpaths : (entryListings path entries).map Prod.fst
      = (entries.map Prod.fst).map (Path.child path) := by
    simp [entryListings_eq_map]
  rw [hpaths]
  exact hnames.map (Path.child_injective path)

/-- `listing` is invariant under permutation of entries with distinct names. -/
theorem listing_perm (path : String) (hperm : entries.Perm entries')
    (hnames : (entries.map Prod.fst).Nodup) :
    listing path (.directory entries) = listing path (.directory entries') := by
  have hlistings : (entryListings path entries).Perm (entryListings path entries') := by
    rw [entryListings_eq_map, entryListings_eq_map]
    exact hperm.map _
  have hpaths := nodup_entryListings path hnames
  rw [listing, listing, Text.mergeSort_key_perm Prod.fst hlistings
    fun a ha b hb => List.inj_on_of_nodup_map hpaths ha hb]

/-- The `listing` of a directory holds the `listing` of each entry as one block, whose position does
not depend on what the entry is. -/
theorem exists_listing_place (path : String) {name : String}
    (hnames : ((front ++ back).map Prod.fst).Nodup) (hname : name ∉ (front ++ back).map Prod.fst) :
    ∃ before after, listing path (.directory (front ++ back)) = before ++ after
      ∧ ∀ tree, listing path (.directory (front ++ (name, tree) :: back))
        = before ++ listing (Path.child path name) tree ++ after := by
  have hfresh : Path.child path name ∉ (entryListings path (front ++ back)).map Prod.fst := by
    simpa [entryListings_eq_map, (Path.child_injective path).eq_iff] using hname
  obtain ⟨before, after, hrest, hplace⟩ := Text.exists_mergeSort_key_place Prod.fst
    (nodup_entryListings path hnames) hfresh
  refine ⟨before.flatMap (·.2), after.flatMap (·.2), ?_, fun tree => ?_⟩
  · rw [listing, hrest, List.flatMap_append]
  · have hperm : (entryListings path (front ++ (name, tree) :: back)).Perm
        ((Path.child path name, listing (Path.child path name) tree)
          :: entryListings path (front ++ back)) := by
      simp only [entryListings_eq_map, List.map_append, List.map_cons]
      exact List.perm_middle
    rw [listing, hplace _ _ rfl hperm, List.flatMap_append, List.flatMap_cons, List.append_assoc]

end FileTree

end ClassAudit
