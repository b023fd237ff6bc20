import EditorModes.Protocol.Uri
import EditorModes.Settings.FileTree

/-!
# Files that URIs lead to

A URI leads to a file when it has a path on this computer.  The bytes of a name may be no text;
no file has such a name.
-/

namespace EditorModes

/-- The names in bytes between slashes; bytes that are no text become a name of no file. -/
def Path.ofBytes (bytes : List UInt8) : Path :=
  (bytes.splitOn '/'.toUInt8).map fun name =>
    (String.fromUTF8? ⟨name.toArray⟩).getD "\x00"

/-- The path of the file that a URI leads to. -/
def Path.ofUri? (uri : Uri) : Option Path :=
  match uri.isLocal, uri.route with
  | true, .segments (first :: rest) =>
    some (Path.simplify ((first :: rest).flatMap fun t => Path.ofBytes (Percent.decode t)))
  | _, _ => none

end EditorModes
