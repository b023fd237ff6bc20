import EditorModes.Text.Basic

/-!
# Masking

A stylesheet is analyzed with its comments, the bodies of its strings and its script blocks
blanked out.  Every byte of a blanked character becomes a space and line feeds stay, so that what
is left of the stylesheet keeps its byte offsets and its lines.
-/

namespace EditorModes.Less

/-- What a character is part of. -/
inductive Region where
  | code
  /-- A comment that a star and a slash end. -/
  | block
  /-- A comment that ends with its line. -/
  | line
  /-- A string, which the quote that opened it ends, or else its line. -/
  | quoted (quote : Char)
  /-- A script block, which a backtick ends. -/
  | script
  deriving DecidableEq, Repr

/-- The spaces that a character is blanked out with; a line feed stays. -/
def blank (c : Char) : Text :=
  if c = '\n' then ['\n'] else List.replicate c.utf8Size ' '

/-- A text that starts in a region, with all but the code blanked out. -/
def maskFrom : Region → Text → Text
  | _, [] => []
  | .code, '/' :: '*' :: t => ' ' :: ' ' :: maskFrom .block t
  | .code, '/' :: '/' :: t => ' ' :: ' ' :: maskFrom .line t
  | .code, c :: t =>
    if c = '"' || c = '\'' then c :: maskFrom (.quoted c) t
    else if c = '`' then c :: maskFrom .script t
    else c :: maskFrom .code t
  | .block, '*' :: '/' :: t => ' ' :: ' ' :: maskFrom .code t
  | .block, c :: t => blank c ++ maskFrom .block t
  | .line, c :: t => blank c ++ maskFrom (if c = '\n' then .code else .line) t
  | .quoted q, '\\' :: c :: t => ' ' :: blank c ++ maskFrom (.quoted q) t
  | .quoted q, c :: t =>
    if c = q || c = '\n' then c :: maskFrom .code t else blank c ++ maskFrom (.quoted q) t
  | .script, c :: t =>
    if c = '`' then c :: maskFrom .code t else blank c ++ maskFrom .script t

/-- A stylesheet with all but its code blanked out. -/
def mask (t : Text) : Text :=
  maskFrom .code t

end EditorModes.Less
