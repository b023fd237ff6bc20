import EditorModes.Regex.Property
import EditorModes.Regex.Size
import EditorModes.Text.Basic

/-!
# Reading patterns

`Expr.parse?` reads the text of a pattern as a regular expression.  The notation is the usual
one without look-around and back references: every backslash must introduce a known escape and
every brace a counted repetition.  Letters, digits and white space are meant over all scripts
unless the flag `u` is turned off.

The reader goes through the pattern once.  It keeps the groups that are still open, each with
what stands to the left of the place reached, so a closing parenthesis completes the innermost
group.
-/

namespace EditorModes.Regex

/-- The modes that flags such as `(?i)` turn on and off. -/
structure Flags where
  ignoreCase : Bool := false
  multiLine : Bool := false
  dotMatchesNewline : Bool := false
  swapGreed : Bool := false
  unicode : Bool := true
  crlf : Bool := false
  ignoreSpace : Bool := false

namespace Flags

/-- The alphabet that classes are meant over. -/
def alphabet (f : Flags) : Alphabet :=
  if f.unicode then .unicode else .ascii

/-- The flags with the one of a letter set to a value, when the letter names a flag. -/
def set? (f : Flags) (letter : Char) (value : Bool) : Option Flags :=
  match letter with
  | 'i' => some { f with ignoreCase := value }
  | 'm' => some { f with multiLine := value }
  | 's' => some { f with dotMatchesNewline := value }
  | 'U' => some { f with swapGreed := value }
  | 'u' => some { f with unicode := value }
  | 'R' => some { f with crlf := value }
  | 'x' => some { f with ignoreSpace := value }
  | _ => none

/-- The set of characters that a literal, or a set of them, stands for. -/
def fold (f : Flags) (set : CharSet) : CharSet :=
  if f.ignoreCase then f.alphabet.ignoringCase set else set

/-- The complement of a set; without Unicode it would hold parts of characters and is refused. -/
def complement? (f : Flags) (set : CharSet) : Option CharSet :=
  if f.unicode then some set.complement else none

/-- What `.` matches; `none` when it would match part of a character. -/
def dot? (f : Flags) : Option CharSet :=
  if !f.unicode then none
  else if f.dotMatchesNewline then some .all
  else if f.crlf then some (CharSet.union (.single '\n') (.single '\r')).complement
  else some (CharSet.single '\n').complement

/-- What `^` asks for. -/
def caret (f : Flags) : Look :=
  if !f.multiLine then .textStart else if f.crlf then .lineStartCRLF else .lineStart

/-- What `$` asks for. -/
def dollar (f : Flags) : Look :=
  if !f.multiLine then .textEnd else if f.crlf then .lineEndCRLF else .lineEnd

end Flags

/-- The text without leading white space and comments; a comment ends with its line. -/
def skipSpace (inComment : Bool) : Text → Text
  | [] => []
  | c :: t =>
    if inComment then skipSpace (c != '\n') t
    else if Property.isSpace c then skipSpace false t
    else if c = '#' then skipSpace true t
    else c :: t

/-- The text without what the flags ask to ignore. -/
def Flags.skip (f : Flags) (t : Text) : Text :=
  if f.ignoreSpace then skipSpace false t else t

/-! ### Escapes -/

/-- What an escape, or a character by itself, stands for. -/
inductive Atom where
  | literal (c : Char)
  | set (members : CharSet)
  | condition (look : Look)

/-- The character of a code point. -/
def charOfCode? (n : Nat) : Option Char :=
  if n < 0xd800 || (0xdfff < n && n < 0x110000) then some (Char.ofNat n) else none

/-- Exactly `count` hexadecimal digits. -/
def parseHexDigits (f : Flags) : Nat → Nat → Text → Option (Nat × Text)
  | 0, value, t => some (value, t)
  | _ + 1, _, [] => none
  | count + 1, value, c :: t => do
    let digit ← Hexadecimal.digit? c
    parseHexDigits f count (value * 16 + digit) (f.skip t)

/--
What stands before a closing brace, without what the flags ask to ignore, and the rest; `steps`
bounds the number of characters.
-/
def spanBraced (f : Flags) : (steps : Nat) → Text → Option (Text × Text)
  | 0, _ => none
  | steps + 1, t =>
    match f.skip t with
    | [] => none
    | c :: t =>
      if c = '\x7d' then some ([], t)
      else (spanBraced f steps t).map fun (before, after) => (c :: before, after)

/-- A code point after `\x`, `\u` or `\U`, written with `count` digits or in braces. -/
def parseCodePoint (f : Flags) (count : Nat) (t : Text) : Option (Char × Text) := do
  match f.skip t with
  | '\x7b' :: t =>
    let (digits, t) ← spanBraced f (t.length + 1) t
    if digits.isEmpty || !digits.all fun c => (Hexadecimal.digit? c).isSome then none
    return (← charOfCode? (Hexadecimal.value digits), t)
  | t =>
    let (value, t) ← parseHexDigits f count 0 t
    let c ← charOfCode? value
    if count = 2 && !f.unicode && 0x7f < value then none
    return (c, t)

/--
The letters and hyphens that name a kind of word boundary, and the rest; `steps` bounds the number
of characters.
-/
def spanBoundaryName (f : Flags) : (steps : Nat) → Text → Text × Text
  | 0, t => ([], t)
  | _ + 1, [] => ([], [])
  | steps + 1, c :: t =>
    if Property.isAsciiLetter c || c = '-' then
      let (name, rest) := spanBoundaryName f steps (f.skip t)
      (c :: name, rest)
    else
      ([], c :: t)

/-- The condition after `\b`, which may name a kind of boundary in braces. -/
def parseBoundary (f : Flags) (t : Text) : Option (Look × Text) :=
  match t with
  | '\x7b' :: t' =>
    match f.skip t' with
    | [] => none
    | t' =>
      match spanBoundaryName f t'.length t' with
      | ([], _) => some (.boundary f.alphabet, t)
      | (name, rest) =>
        match rest with
        | '\x7d' :: rest =>
          match String.ofList name with
          | "start" => some (.wordStart f.alphabet, rest)
          | "end" => some (.wordEnd f.alphabet, rest)
          | "start-half" => some (.wordStartHalf f.alphabet, rest)
          | "end-half" => some (.wordEndHalf f.alphabet, rest)
          | _ => none
        | _ => none
  | t => some (.boundary f.alphabet, t)

/-- The class that a letter stands for in an alphabet. -/
def letterClass? (alphabet : Alphabet) (letter : Char) : Option CharSet :=
  match letter with
  | 'd' => some alphabet.digits
  | 's' => some alphabet.spaces
  | 'w' => some alphabet.words
  | _ => none

/--
The property written between braces: with a value after `!=`, `:` or `=`, or by itself.  The sign
makes no difference.
-/
def propertyClass? (name : Text) : Option CharSet :=
  let signs := ["!=".toList, [':'], ['=']]
  match signs.findSome? (Text.splitFirst? · name) with
  | some (property, value) => valueClass? (looseName property) (looseName value)
  | none => namedClass? (looseName name)

/-- The characters of the property named after `\p`. -/
def parseProperty (f : Flags) (t : Text) : Option (CharSet × Text) :=
  match f.skip t with
  | [] => none
  | '\x7b' :: t => do
    let (name, t) ← spanBraced f (t.length + 1) t
    return (← propertyClass? name, t)
  | c :: t => if c = '\\' then none else (namedClass? (looseName [c])).map (·, t)

/-- What follows a backslash. -/
def parseEscape (f : Flags) : Text → Option (Atom × Text)
  | [] => none
  | c :: t =>
    match c with
    | 'x' => (parseCodePoint f 2 t).map fun (c, t) => (.literal c, t)
    | 'u' => (parseCodePoint f 4 t).map fun (c, t) => (.literal c, t)
    | 'U' => (parseCodePoint f 8 t).map fun (c, t) => (.literal c, t)
    | 'a' => some (.literal '\x07', t)
    | 'f' => some (.literal '\x0c', t)
    | 't' => some (.literal '\t', t)
    | 'n' => some (.literal '\n', t)
    | 'r' => some (.literal '\r', t)
    | 'v' => some (.literal '\x0b', t)
    | 'A' => some (.condition .textStart, t)
    | 'z' => some (.condition .textEnd, t)
    | 'b' => (parseBoundary f t).map fun (look, t) => (.condition look, t)
    | 'B' => some (.condition (.notBoundary f.alphabet), t)
    | '<' => some (.condition (.wordStart f.alphabet), t)
    | '>' => some (.condition (.wordEnd f.alphabet), t)
    | 'p' => if f.unicode then (parseProperty f t).map fun (s, t) => (.set (f.fold s), t) else none
    | 'P' => do
      let (s, t) ← parseProperty f t
      return (.set (← f.complement? (f.fold s)), t)
    | 'D' | 'S' | 'W' => do
      let s ← letterClass? f.alphabet (Property.asciiLower c)
      return (.set (← f.complement? s), t)
    | c =>
      match letterClass? f.alphabet c with
      | some s => some (.set s, t)
      | none =>
        if Property.isAscii c && !Property.isAsciiAlphanumeric c then some (.literal c, t)
        else none

/-! ### Bracketed classes -/

/-- An operation between two sets of a bracketed class. -/
inductive SetOperation where
  | intersection
  | difference
  | symmetricDifference

/-- What an operation makes of two sets. -/
def SetOperation.apply : SetOperation → CharSet → CharSet → CharSet
  | intersection, left, right => left.intersection right
  | difference, left, right => left.difference right
  | symmetricDifference, left, right => left.symmetricDifference right

/-- A piece of a pattern together with how deep it nests. -/
structure Nested (α : Type) where
  value : α
  depth : Nat

/-- How deep a pattern may nest. -/
def nestLimit : Nat := 250

/--
A bracket that is still open: whether it is negated, the left operand of the pending operation,
and the members read since then, latest first.
-/
structure OpenClass where
  negated : Bool
  pending : Option (SetOperation × Nested CharSet)
  members : List (Nested CharSet)

namespace OpenClass

/-- The union of the members read since the last operation. -/
def current (o : OpenClass) : Nested CharSet :=
  match o.members with
  | [] => ⟨.empty, 0⟩
  | [member] => member
  | members => ⟨.unions (members.reverse.map (·.value)), 1 + (members.map (·.depth)).foldl max 0⟩

/-- The set read so far, the pending operation applied. -/
def operand (f : Flags) (o : OpenClass) : Nested CharSet :=
  match o.pending with
  | none => o.current
  | some (operation, left) =>
    ⟨operation.apply (f.fold left.value) (f.fold o.current.value),
      1 + max left.depth o.current.depth⟩

/-- The bracket after an operation sign. -/
def operate (f : Flags) (operation : SetOperation) (o : OpenClass) : OpenClass :=
  { o with pending := some (operation, o.operand f), members := [] }

/-- The bracket with one more member. -/
def add (o : OpenClass) (member : Nested CharSet) : OpenClass :=
  { o with members := member :: o.members }

/-- The set of the bracket once it is closed; without Unicode no complement is a set. -/
def close? (f : Flags) (o : OpenClass) : Option (Nested CharSet) :=
  let ⟨set, depth⟩ := o.operand f
  if o.negated then (f.complement? (f.fold set)).map (⟨·, depth + 1⟩)
  else some ⟨f.fold set, depth + 1⟩

end OpenClass

/-- Leading hyphens of a class, which are members; one leading `]` is a member as well. -/
def openHyphens (f : Flags) : Nat → OpenClass → Text → Option (OpenClass × Text)
  | 0, _, _ => none
  | _ + 1, _, [] => none
  | steps + 1, o, '-' :: t => openHyphens f steps (o.add ⟨.single '-', 0⟩) (f.skip t)
  | _ + 1, o, ']' :: t =>
    if o.members.isEmpty then some (o.add ⟨.single ']', 0⟩, f.skip t) else some (o, ']' :: t)
  | _ + 1, o, t => some (o, t)

/-- The bracket opened before `t`. -/
def openClass (f : Flags) (t : Text) : Option (OpenClass × Text) :=
  match f.skip t with
  | '^' :: t =>
    let t := f.skip t
    openHyphens f (t.length + 1) ⟨true, none, []⟩ t
  | t => openHyphens f (t.length + 1) ⟨false, none, []⟩ t

/--
A class such as `[:alpha:]`, read after its bracket; `none` when there is none.  The class itself
is missing when it is a complement that is refused.
-/
def parseAsciiClass (f : Flags) : Text → Option (Option CharSet × Text)
  | ':' :: t =>
    let (negated, t) := match t with
      | '^' :: t => (true, t)
      | t => (false, t)
    let (name, t) := Text.spanWhile (· ≠ ':') t
    match t with
    | ':' :: ']' :: t => do
      let set ← asciiClass? (String.ofList name)
      return (if negated then f.complement? (f.fold set) else some (f.fold set), t)
    | _ => none
  | _ => none

/-- Whether an atom may stand inside a bracket: without Unicode a character must be ASCII. -/
def Atom.isMember (f : Flags) : Atom → Bool
  | .literal c => f.unicode || Property.isAscii c
  | _ => true

/-- A character or an escape inside a bracket. -/
def parseClassAtom (f : Flags) (t : Text) : Option (Atom × Text) := do
  let (atom, t) ← match t with
    | [] => none
    | '\\' :: t => parseEscape f t
    | c :: t => some (.literal c, t)
  if atom.isMember f then some (atom, t) else none

/-- The member of a bracket that an atom is. -/
def Atom.member? : Atom → Option CharSet
  | .literal c => some (.single c)
  | .set members => some members
  | .condition _ => none

/-- One member of a bracket: a character, a class or a range. -/
def parseMember (f : Flags) (t : Text) : Option (CharSet × Text) := do
  let (first, t) ← parseClassAtom f t
  let t := f.skip t
  match t with
  | [] => none
  | '-' :: t' =>
    match f.skip t' with
    | ']' :: _ => (first.member?).map (·, t)
    | '-' :: _ => (first.member?).map (·, t)
    | [] => none
    | t' =>
      let (last, t') ← parseClassAtom f t'
      match first, last with
      | .literal a, .literal b => if a ≤ b then some (.range a b, t') else none
      | _, _ => none
  | t => (first.member?).map (·, t)

/--
The set of a bracketed class.  `outer` holds the enclosing brackets, innermost first, and
`steps` bounds the number of members and signs.
-/
def parseClassBody (f : Flags) :
    Nat → List OpenClass → OpenClass → Text → Option (Nested CharSet × Text)
  | 0, _, _, _ => none
  | steps + 1, outer, o, t =>
    match f.skip t with
    | [] => none
    | '[' :: t =>
      match parseAsciiClass f t with
      | some (set, t) => do parseClassBody f steps outer (o.add ⟨← set, 0⟩) t
      | none => do
        let (inner, t) ← openClass f t
        parseClassBody f steps (o :: outer) inner t
    | ']' :: t => do
      let set ← o.close? f
      match outer with
      | [] => return (set, t)
      | enclosing :: outer => parseClassBody f steps outer (enclosing.add set) t
    | '&' :: '&' :: t => parseClassBody f steps outer (o.operate f .intersection) t
    | '-' :: '-' :: t => parseClassBody f steps outer (o.operate f .difference) t
    | '~' :: '~' :: t => parseClassBody f steps outer (o.operate f .symmetricDifference) t
    | t => do
      let (set, t) ← parseMember f t
      parseClassBody f steps outer (o.add ⟨set, 0⟩) t

/-- The set of the class whose opening bracket stood before `t`. -/
def parseClass (f : Flags) (t : Text) : Option (Nested CharSet × Text) := do
  let (o, rest) ← openClass f t
  parseClassBody f (t.length + 1) [] o rest

/-! ### Repetitions and groups -/

/-- A decimal number between optional white space, below two to the power 32. -/
def parseCount (f : Flags) (t : Text) : Option Nat × Text :=
  let t := t.dropWhile Property.isSpace
  let (digits, t) := spanDigits t.length t
  let t := f.skip (t.dropWhile Property.isSpace)
  let value := digits.foldl (fun n c => n * 10 + (c.toNat - 48)) 0
  (if digits = [] || 0xffffffff < value then none else some value, t)
where
  spanDigits : Nat → Text → Text × Text
    | 0, t => ([], t)
    | _ + 1, [] => ([], [])
    | steps + 1, c :: t =>
      if Property.isAsciiDigit c then
        let (digits, t) := spanDigits steps (f.skip t)
        (c :: digits, t)
      else
        ([], c :: t)

/-- The bounds of a counted repetition, read after its opening brace. -/
def parseBounds (f : Flags) (t : Text) : Option ((Nat × Option Nat) × Text) := do
  let (least, t) := parseCount f (f.skip t)
  match t with
  | ',' :: t =>
    match f.skip t with
    | '\x7d' :: t => return ((← least, none), t)
    | t =>
      let least ← least
      let (most, t) := parseCount f t
      let most ← most
      match t with
      | '\x7d' :: t => if least ≤ most then some ((least, some most), t) else none
      | _ => none
  | '\x7d' :: t =>
    let least ← least
    return ((least, some least), t)
  | _ => none

/--
Flags up to the colon or parenthesis that ends them.  `seen` holds the letters read, `negating`
tells whether a hyphen was read, and `dangling` whether it was the last thing read.
-/
def parseFlags (seen : List Char) (negating dangling : Bool) (f : Flags) :
    Text → Option (List Char × Flags × Text)
  | [] => none
  | c :: t =>
    if c = ':' || c = ')' then
      if dangling then none else some (seen, f, c :: t)
    else if c = '-' then
      if negating then none else parseFlags seen true true f t
    else if seen.contains c then none
    else do parseFlags (c :: seen) negating false (← f.set? c (!negating)) t

/-- Whether a character may stand in the name of a group. -/
def isNameChar (first : Bool) (c : Char) : Bool :=
  if first then c = '_' || Property.isAlphabetic c
  else c = '_' || c = '.' || c = '[' || c = ']' || Property.isAlphanumeric c

/-- The name of a group, read up to the `>` that ends it. -/
def parseName (t : Text) : Option (Text × Text) :=
  match t.spanWhile (· ≠ '>') with
  | (c :: name, '>' :: t) =>
    if isNameChar true c && name.all (isNameChar false) then some (c :: name, t) else none
  | _ => none

/-- What an opening parenthesis introduces. -/
inductive Opening where
  | group (flags : Flags) (capturing : Bool) (name : Option Text)
  | flags (flags : Flags)

/-- What the opening parenthesis before `t` introduces. -/
def parseOpening (f : Flags) (t : Text) : Option (Opening × Text) :=
  match f.skip t with
  | '?' :: t =>
    match t with
    | 'P' :: '<' :: t => (parseName t).map fun (name, t) => (.group f true (some name), t)
    | '<' :: t => (parseName t).map fun (name, t) => (.group f true (some name), t)
    | t => do
      let (seen, g, t) ← parseFlags [] false false f t
      match t with
      | ':' :: t => return (.group g false none, t)
      | _ :: t => if seen.isEmpty then none else some (.flags g, t)
      | [] => none
  | t => some (.group f true none, t)

/-! ### Patterns -/

/-- An item of a branch: an expression, or a change of flags, which cannot be repeated. -/
inductive Item where
  | expr (e : Nested Expr)
  | flags

/--
A group that is still open: whether it captures what it matches, the flags in force outside it,
the branches completed, and the items of the current branch, both latest first.
-/
structure OpenGroup where
  capturing : Bool
  outerFlags : Flags
  branches : List (Nested Expr)
  items : List Item

namespace OpenGroup

/-- The expressions of the current branch, latest first. -/
def exprs (g : OpenGroup) : List (Nested Expr) :=
  g.items.filterMap fun
    | .expr e => some e
    | .flags => none

/-- The current branch as one expression. -/
def branch (g : OpenGroup) : Nested Expr :=
  let depth := ((g.exprs.map (·.depth)).foldl max 0)
  ⟨.cats (g.exprs.reverse.map (·.value)), if g.items.length < 2 then depth else depth + 1⟩

/-- The group with one more item in the current branch. -/
def add (g : OpenGroup) (e : Nested Expr) : OpenGroup :=
  { g with items := .expr e :: g.items }

/-- The group after a bar. -/
def nextBranch (g : OpenGroup) : OpenGroup :=
  { g with branches := g.branch :: g.branches, items := [] }

/-- What the group matches once it is closed. -/
def close (g : OpenGroup) : Nested Expr :=
  match g.branches with
  | [] => g.branch
  | branches =>
    let all := g.branch :: branches
    ⟨.alts (all.reverse.map (·.value)), 1 + (all.map (·.depth)).foldl max 0⟩

/-- The group with its last item repeated; `none` when there is nothing to repeat. -/
def repeatLast? (g : OpenGroup) (least : Nat) (most : Option Nat) (greedy : Bool) :
    Option OpenGroup :=
  match g.items with
  | .expr e :: items =>
    some { g with items := .expr ⟨.repetition least most greedy e.value, e.depth + 1⟩ :: items }
  | _ => none

end OpenGroup

/-- What an atom matches. -/
def Atom.expr (f : Flags) : Atom → Expr
  | .literal c => .char (f.fold (.single c))
  | .set members => .char members
  | .condition look => .look look

/-- Whether a `?` starts the text, and what follows it. -/
def parseLazy : Text → Bool × Text
  | '?' :: t => (true, t)
  | t => (false, t)

/--
The expression of a whole pattern.  `outer` holds the enclosing groups, innermost first, `names`
the names of groups used so far, and `steps` bounds the number of items and signs.
-/
def parseItems :
    Nat → Flags → List Text → List OpenGroup → OpenGroup → Text → Option (Nested Expr)
  | 0, _, _, _, _, _ => none
  | steps + 1, f, names, outer, g, t =>
    match f.skip t with
    | [] => if outer.isEmpty then some g.close else none
    | '(' :: t => do
      match ← parseOpening f t with
      | (.flags f', t) => parseItems steps f' names outer { g with items := .flags :: g.items } t
      | (.group f' capturing name, t) =>
        match name with
        | some name =>
          if names.contains name then none
          else parseItems steps f' (name :: names) (g :: outer) ⟨capturing, f, [], []⟩ t
        | none => parseItems steps f' names (g :: outer) ⟨capturing, f, [], []⟩ t
    | ')' :: t =>
      match outer with
      | [] => none
      | enclosing :: outer =>
        let ⟨e, depth⟩ := g.close
        let item : Nested Expr := ⟨.group g.capturing e, depth + 1⟩
        parseItems steps g.outerFlags names outer (enclosing.add item) t
    | '|' :: t => parseItems steps f names outer g.nextBranch t
    | '[' :: t => do
      let (⟨set, depth⟩, t) ← parseClass f t
      parseItems steps f names outer (g.add ⟨.char set, depth⟩) t
    | '?' :: t => do
      let (isLazy, t) := parseLazy t
      parseItems steps f names outer (← g.repeatLast? 0 (some 1) (isLazy == f.swapGreed)) t
    | '*' :: t => do
      let (isLazy, t) := parseLazy t
      parseItems steps f names outer (← g.repeatLast? 0 none (isLazy == f.swapGreed)) t
    | '+' :: t => do
      let (isLazy, t) := parseLazy t
      parseItems steps f names outer (← g.repeatLast? 1 none (isLazy == f.swapGreed)) t
    | '\x7b' :: t => do
      let ((least, most), t) ← parseBounds f t
      let (isLazy, t) := parseLazy (f.skip t)
      parseItems steps f names outer (← g.repeatLast? least most (isLazy == f.swapGreed)) t
    | '\\' :: t => do
      let (atom, t) ← parseEscape f t
      parseItems steps f names outer (g.add ⟨atom.expr f, 0⟩) t
    | '.' :: t => do
      parseItems steps f names outer (g.add ⟨.char (← f.dot?), 0⟩) t
    | '^' :: t => parseItems steps f names outer (g.add ⟨.look f.caret, 0⟩) t
    | '$' :: t => parseItems steps f names outer (g.add ⟨.look f.dollar, 0⟩) t
    | c :: t => parseItems steps f names outer (g.add ⟨.char (f.fold (.single c)), 0⟩) t

/-- The regular expression that a pattern denotes; `none` for a text that is no pattern. -/
def Expr.parse? (pattern : Text) : Option Expr := do
  let ⟨e, depth⟩ ← parseItems (pattern.length + 1) {} [] [] ⟨false, {}, [], []⟩ pattern
  if depth ≤ nestLimit ∧ e.isWithinLimit then some e else none

end EditorModes.Regex
