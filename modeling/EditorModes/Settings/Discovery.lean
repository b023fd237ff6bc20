import EditorModes.Grammar.Decode
import EditorModes.Settings.Basic
import EditorModes.Settings.FileTree

/-!
# Finding settings

The settings of a workspace are in the file `settings.toml` of its directory, or else of the
nearest directory above it, or else of a directory in it.  A file that cannot be read sets
nothing, and neither does one that makes no settings.
-/

namespace EditorModes

/-- The name of a settings file. -/
def settingsFile : String := "settings.toml"

/-- The settings of a directory that has a settings file, or the defaults. -/
def FileTree.settingsIn (t : FileTree) (directory : Path) : Settings :=
  ((t.read? (directory ++ [settingsFile])).bind Settings.ofText?).getD {}

/-- The directory with the settings for another one. -/
def FileTree.settingsDirectory? (t : FileTree) (start : Path) : Option Path :=
  let above := (List.range (start.length + 1)).map fun n => start.take (start.length - n)
  let below := (t.subdirectories start).map fun name => start ++ [name]
  (above ++ below).find? fun directory => t.isFile (directory ++ [settingsFile])

/-- The settings for a directory, and the directory that they are in. -/
def FileTree.discoverSettings (t : FileTree) (start : Path) : Settings × Path :=
  match t.settingsDirectory? start with
  | some directory => (t.settingsIn directory, directory)
  | none => ({}, start)

/-- Why there is no grammar in a file. -/
inductive FileError where
  | read
  | parse
  deriving DecidableEq, Repr

/-- The grammar in a file, whose path is relative to a directory unless it starts with a slash. -/
def FileTree.loadGrammar (t : FileTree) (directory : Path) (path : String) :
    Except FileError Grammar :=
  let p := Path.ofString path
  match t.read? (if path.startsWith "/" then p else directory ++ p) with
  | none => .error .read
  | some text =>
    match (Toml.parse? text).bind (Grammar.ofJson? .toml) with
    | none => .error .parse
    | some grammar => .ok grammar

/-- The grammars of the settings in a directory, as far as there are any. -/
def FileTree.loadGrammars (t : FileTree) (directory : Path) (settings : Settings) : List Grammar :=
  settings.grammars.filterMap fun path => (t.loadGrammar directory path).toOption

end EditorModes
