import EditorModes.Text.Basic

/-!
# Files

A tree of directories and files.  A path is followed from the root component by component: an
empty one and `.` stay where they are, `..` goes up, and every step needs a directory to start
from.
-/

namespace EditorModes

/-- The components of a path from the root. -/
abbrev Path := List String

/-- The components of a path as it is written. -/
def Path.ofString (s : String) : Path :=
  (Text.splitOnChar '/' s.toList).map String.ofList

/-- The path without the components that stay where they are. -/
def Path.simplify (p : Path) : Path :=
  p.filter fun name => name ≠ "" ∧ name ≠ "."

/-- Directories and files; what stands on the way to one of them is a directory. -/
structure FileTree where
  directories : List Path := []
  /-- The files with their texts; `none` for content that is no text. -/
  files : List (Path × Option Text) := []

namespace FileTree

/-- Whether a path leads to a file. -/
def hasFile (t : FileTree) (p : Path) : Bool :=
  t.files.any (·.1 = p)

/-- Whether a path leads to a directory. -/
def hasDirectory (t : FileTree) (p : Path) : Bool :=
  p = [] || t.directories.any p.isPrefixOf
    || t.files.any fun (file, _) => p.isPrefixOf file && p ≠ file

/-- Where a path leads from a place. -/
def followFrom? (t : FileTree) : (here p : Path) → Option Path
  | here, [] => some here
  | here, name :: p =>
    if !t.hasDirectory here then none
    else if name = "" || name = "." then t.followFrom? here p
    else if name = ".." then t.followFrom? here.dropLast p
    else if t.hasDirectory (here ++ [name]) || t.hasFile (here ++ [name]) then
      t.followFrom? (here ++ [name]) p
    else
      none

/-- Where a path leads from the root. -/
def follow? (t : FileTree) (p : Path) : Option Path :=
  t.followFrom? [] p

/-- Whether a path can be followed to a file. -/
def isFile (t : FileTree) (p : Path) : Bool :=
  (t.follow? p).any t.hasFile

/-- The text of the file that a path can be followed to. -/
def read? (t : FileTree) (p : Path) : Option Text := do
  (← t.files.lookup (← t.follow? p))

/-- The names of the directories in a directory, in their order. -/
def subdirectories (t : FileTree) (p : Path) : List String :=
  match t.follow? p with
  | none => []
  | some here =>
    let names := (t.directories ++ t.files.map (·.1)).filterMap fun path =>
      if here.isPrefixOf path then path[here.length]? else none
    (names.eraseDups.filter fun name => t.hasDirectory (here ++ [name])).mergeSort
      fun a b => !(b < a)

end FileTree

end EditorModes
