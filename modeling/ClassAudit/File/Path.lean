import ClassAudit.Text.Search

/-!
# Paths

Paths are texts.  Pieces are separated by slashes; an empty piece and a piece of one point name the
directory itself, and a piece of two points names the directory above.
-/

namespace ClassAudit.Path

/-- The pieces of `path` between slashes, empty ones included. -/
def pieces (path : String) : List String :=
  (Text.pieces '/' path.toList).map String.ofList

def isAbsolute (path : String) : Bool :=
  Text.startsWith path "/"

/-- The piece is empty or `.`, and so does not leave the directory. -/
def isSelf (piece : String) : Bool :=
  piece = "" || piece = "."

/-- The pieces without those that are `isSelf`, except for a `.` in front. -/
def components (path : String) : List String :=
  match pieces path with
  | "." :: rest => "." :: rest.filter (!isSelf ·)
  | all => all.filter (!isSelf ·)

/-- The last component of `path`, unless it is `..`. -/
def fileName? (path : String) : Option String :=
  ((pieces path).filter (!isSelf ·)).getLast?.filter (· ≠ "..")

/-- The part of `name` behind its last point; empty if there is no point or only a leading one. -/
def extensionOf (name : String) : String :=
  match name.toList.reverse.span (· ≠ '.') with
  | (_, []) => ""
  | (_, [_]) => ""
  | (tail, _) => String.ofList tail.reverse

/-- `extensionOf` the `fileName?`, or empty without one. -/
def extension (path : String) : String :=
  ((fileName? path).map extensionOf).getD ""

/-- The path of the entry `name` of `directory`. -/
def child (directory name : String) : String :=
  if Text.endsWith directory "/" then directory ++ name else directory ++ "/" ++ name

end ClassAudit.Path
