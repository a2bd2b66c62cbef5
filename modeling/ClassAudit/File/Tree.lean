import ClassAudit.File.Path
import ClassAudit.Text.Utf8

/-!
# File trees

The files below one directory.  Paths are looked up relative to that directory; a path that leads
out of it leads nowhere.

A file may be `unreadable`, but every `directory` can be listed.  Directories whose entries cannot
be read are left out, so a `FileTree` has none.

## Shape of a listing

The files of a tree are listed depth first.  Within a directory the order is that of the paths of
its entries, whatever order the directory itself keeps.
-/

namespace ClassAudit

/-- A file or a directory. -/
inductive FileTree where
  | file (content : Bytes)
  /-- A file that exists but cannot be read. -/
  | unreadable
  | directory (entries : List (String × FileTree))

namespace FileTree

def empty : FileTree :=
  .directory []

def isDirectory : FileTree → Bool
  | .directory _ => true
  | _ => false

/-- The content of a readable file. -/
def content? : FileTree → Option Bytes
  | .file content => some content
  | _ => none

/-- The entry `name` of a directory. -/
def entry? (name : String) : FileTree → Option FileTree
  | .directory entries => entries.lookup name
  | _ => none

/-! ## Looking up paths -/

/-- The descendant with the given names. -/
def descend (tree : FileTree) (names : List String) : Option FileTree :=
  names.foldlM (fun place name => place.entry? name) tree

/-- Follows the pieces of a path from the directory `place`, which is given innermost name first.
Every piece, including `.` and `..`, needs a directory. -/
def follow (tree : FileTree) (place : List String) : List String → Option (List String)
  | [] => some place
  | piece :: rest => do
    let current ← tree.descend place.reverse
    if !current.isDirectory then none
    else if Path.isSelf piece then tree.follow place rest
    else if piece = ".." then
      match place with
      | [] => none
      | _ :: above => tree.follow above rest
    else
      let _ ← current.entry? piece
      tree.follow (piece :: place) rest

/-- The names that lead from the top to `path`, if it exists. -/
def locate? (tree : FileTree) (path : String) : Option (List String) :=
  if path = "" || Path.isAbsolute path then none
  else (tree.follow [] (Path.pieces path)).map List.reverse

/-- The file or directory at `path`. -/
def find? (tree : FileTree) (path : String) : Option FileTree :=
  (tree.locate? path).bind tree.descend

/-! ## Listing -/

mutual

/-- The files of a tree at `path`, each with its path.  Entries are sorted by path, directory by
directory. -/
def listing (path : String) : FileTree → List (String × FileTree)
  | .file content => [(path, .file content)]
  | .unreadable => [(path, .unreadable)]
  | .directory entries =>
    ((entryListings path entries).mergeSort fun a b => decide (a.1 ≤ b.1)).flatMap (·.2)

/-- The listings of the entries of a directory, each with the path of the entry. -/
def entryListings (path : String) :
    List (String × FileTree) → List (String × List (String × FileTree))
  | [] => []
  | (name, tree) :: rest =>
    (Path.child path name, listing (Path.child path name) tree) :: entryListings path rest

end

/-! ## Changing a tree -/

/-- Replaces the entry `name` by `change`, or appends it. -/
def replaceEntry (name : String) (change : Option FileTree → FileTree) :
    List (String × FileTree) → List (String × FileTree)
  | [] => [(name, change none)]
  | (other, tree) :: rest =>
    if other = name then (name, change (some tree)) :: rest
    else (other, tree) :: replaceEntry name change rest

/-- Applies `change` to the descendant with the given names, creating the directories on the way. -/
def update (names : List String) (change : Option FileTree → FileTree) (old : Option FileTree) :
    FileTree :=
  match names with
  | [] => change old
  | name :: rest =>
    match old with
    | some (.directory entries) => .directory (replaceEntry name (update rest change) entries)
    | _ => .directory (replaceEntry name (update rest change) [])

/-- `tree` with the given file, and the directories on the way to it. -/
def withFile (tree : FileTree) (names : List String) (content : Bytes) : FileTree :=
  update names (fun _ => .file content) (some tree)

/-- `tree` with the given directory, and the directories on the way to it. -/
def withDirectory (tree : FileTree) (names : List String) : FileTree :=
  update names (·.getD empty) (some tree)

/-- A file can be written in place of this: there is nothing, or a readable file. -/
def isWritable : Option FileTree → Bool
  | none => true
  | some (.file _) => true
  | some _ => false

/-- Writes a file at `path`, whose directory must exist. -/
def write? (tree : FileTree) (path : String) (content : Bytes) : Option FileTree := do
  let pieces := Path.pieces path
  let name ← pieces.getLast?
  if path = "" || Path.isAbsolute path || Path.isSelf name || name = ".." then none
  else
    let place ← tree.follow [] pieces.dropLast
    let directory ← tree.descend place.reverse
    if directory.isDirectory && isWritable (directory.entry? name) then
      some (tree.withFile (place.reverse ++ [name]) content)
    else none

end FileTree

end ClassAudit
