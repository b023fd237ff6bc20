import EditorModes.Protocol.Host

/-!
# Names of documents

A document is named by a URI: a scheme, a colon and what the scheme makes of the rest.  Schemes of
networks always have a host, and files may have one; both know domains and take `\` for `/`.  The
other schemes have a host only after two slashes, and a path only when it starts with a slash.

A URI can be spelled in several ways, for instance with blanks around it, a scheme in capital
letters, segments that go up again or characters that others encode.  What is read of a URI does
not depend on its spelling, and `Uri.normal` is the one that stands for all of them.
-/

namespace EditorModes

/-- Who provides what a URI names: a user, who may have a password, at a service of a host. -/
structure Authority where
  user : Option Text := none
  host : Option Host := none
  /-- The number of the service, unless it is the usual one of the scheme. -/
  service : Option Nat := none

/-- The normal form of an authority. -/
def Authority.normal (a : Authority) : Text :=
  (a.user.map (· ++ ['@'])).getD [] ++ (a.host.map (·.normal)).getD []
    ++ (a.service.map fun n => ':' :: Nat.toDigits 10 n).getD []

/-- What follows the scheme of a URI and the authority, if there is one. -/
inductive Route where
  | segments (list : List Text)
  /-- A text that the scheme leaves alone. -/
  | plain (t : Text)

/-- The parts of a URI; characters that the parts do not have are encoded. -/
structure Uri where
  /-- The name of the scheme in small letters. -/
  scheme : Text
  authority : Option Authority
  route : Route
  query : Option Text
  fragment : Option Text

namespace Uri

/-! ### Schemes -/

/-- How a scheme reads what comes after the colon. -/
inductive Scheme where
  | network
  | file
  | other
  deriving DecidableEq, Repr

/-- The schemes of networks, with the numbers of their usual services. -/
def networks : List (String × Nat) :=
  [("http", 80), ("https", 443), ("ws", 80), ("wss", 443), ("ftp", 21)]

/-- The number of the usual service of a scheme. -/
def usualService? (name : Text) : Option Nat :=
  networks.lookup (String.ofList name)

/-- What a scheme of a name is. -/
def Scheme.ofName (name : Text) : Scheme :=
  if (usualService? name).isSome then .network
  else if String.ofList name = "file" then .file
  else .other

/-- The name of a scheme in small letters: a letter, then letters, digits, `+`, `-` and `.`. -/
def schemeName? : Text → Option Text
  | [] => none
  | c :: rest =>
    if c.isAlpha && rest.all fun c => c.isAlphanum || c = '+' || c = '-' || c = '.' then
      some ((c :: rest).map Char.toLower)
    else
      none

/-! ### Encoding -/

/-- Whether a fragment has a character only encoded. -/
def isHiddenInFragment (c : Char) : Bool :=
  Host.isControl c || " \"<>`".toList.contains c

/-- Whether a path has a character only encoded. -/
def isHiddenInPath (c : Char) : Bool :=
  isHiddenInFragment c || "#?\x7b\x7d".toList.contains c

/-- Whether the name of a user has a character only encoded. -/
def isHiddenInUser (c : Char) : Bool :=
  isHiddenInPath c || "/:;=@[\\]^|".toList.contains c

/-- Whether the query of a scheme has a character only encoded. -/
def isHiddenInQuery (scheme : Scheme) (c : Char) : Bool :=
  Host.isControl c || " \"#<>".toList.contains c || scheme ≠ .other && c = '\''

/-! ### Paths -/

/-- Whether a segment stays where it is. -/
def isHere (segment : Text) : Bool :=
  [".", "%2e"].contains (String.ofList (segment.map Char.toLower))

/-- Whether a segment goes up. -/
def isUp (segment : Text) : Bool :=
  ["..", ".%2e", "%2e.", "%2e%2e"].contains (String.ofList (segment.map Char.toLower))

/-- Whether a text is the name of a drive, which is part of a path. -/
def isDrive : Text → Bool
  | [c, d] => c.isAlpha && (d = ':' || d = '|')
  | _ => false

/--
The segments of a path after another segment.  Nothing goes up from a drive, and one that a path to
a file starts with gets a colon.
-/
def follow (scheme : Scheme) (path : List Text) (segment : Text) : List Text :=
  if isUp segment then if path.getLast?.any isDrive then path else path.dropLast
  else if isHere segment then path
  else if scheme = .file && path.all (·.isEmpty) && isDrive segment then
    path ++ [segment.take 1 ++ [':']]
  else path ++ [Percent.encode isHiddenInPath segment]

/-- A path to a file without empty segments at its start, but with one segment at least. -/
def trimPath (path : List Text) : List Text :=
  match path.dropWhile (·.isEmpty) with
  | [] => [[]]
  | path => path

/--
The segments of a path after its first slash; where the last one stays where it is or goes up, an
empty one takes its place.
-/
def segments (scheme : Scheme) (t : Text) : List Text :=
  let parts := Text.splitOnChar '/' t
  let ended := if parts.getLast?.any fun t => isHere t || isUp t then parts ++ [[]] else parts
  let path := ended.foldl (follow scheme) []
  if scheme = .file then trimPath path else path

/-- The path that follows an authority, which may be missing unless the scheme wants one. -/
def path (scheme : Scheme) : Text → List Text
  | '/' :: rest => segments scheme rest
  | [] => if scheme = .other then [] else segments scheme []
  | rest => segments scheme rest

/-- The text up to the query and the fragment, the query and the fragment. -/
def splitEnd (t : Text) : Text × Option Text × Option Text :=
  let (rest, fragment) := Text.spanWhile (· ≠ '#') t
  let (start, query) := Text.spanWhile (· ≠ '?') rest
  (start, query.tail?, fragment.tail?)

/-- The URI of a scheme and an authority with a path that some text starts with. -/
def withPath (name : Text) (authority : Option Authority) (t : Text) : Uri :=
  let scheme := Scheme.ofName name
  let (start, query, fragment) := splitEnd t
  { scheme := name
    authority := authority
    route := .segments (path scheme start)
    query := query.map (Percent.encode (isHiddenInQuery scheme))
    fragment := fragment.map (Percent.encode isHiddenInFragment) }

/-! ### Authorities -/

/-- Whether a character ends the part of a URI that names a host. -/
def endsHost (c : Char) : Bool :=
  c = '/' || c = '?' || c = '#'

/-- The text up to the last `@`, and the text after it. -/
def splitUser? (t : Text) : Option (Text × Text) :=
  let (place, user) := Text.spanWhile (· ≠ '@') t.reverse
  user.tail?.map fun user => (user.reverse, place.reverse)

/-- A user with a password, of which each may be empty, but not both. -/
def user? (t : Text) : Option Text :=
  let (name, rest) := Text.spanWhile (· ≠ ':') t
  let encoded := Percent.encode isHiddenInUser name
  match rest.tail with
  | [] => if encoded.isEmpty then none else some encoded
  | password => some (encoded ++ ':' :: Percent.encode isHiddenInUser password)

/-- The text up to the first colon outside of brackets, and the text from it on. -/
def spanHost : (inside : Bool) → Text → Text × Text
  | _, [] => ([], [])
  | inside, c :: rest =>
    if c = ':' && !inside then ([], c :: rest)
    else
      let (host, after) := spanHost (c = '[' || inside && c ≠ ']') rest
      (c :: host, after)

/--
The number of a service, if there is one that is not the usual one of the scheme, and the text after
it; such a number has 16 bits.
-/
def service? (name : Text) : Text → Option (Option Nat × Text)
  | ':' :: rest => do
    let (digits, after) := Text.spanWhile (·.isDigit) rest
    let isEnd := after.head?.all fun c => c = '\\' || endsHost c
    let number ← Host.number? 10 digits
    if !isEnd || 0x10000 ≤ number then none
    let isUsual := digits.isEmpty || usualService? name = some number
    return (if isUsual then none else some number, after)
  | rest => some (none, rest)

/-- The authority after two slashes, and the text after it. -/
def authority? (name : Text) (t : Text) : Option (Authority × Text) := do
  let scheme := Scheme.ofName name
  let (authority, rest) := Text.spanWhile (!endsHost ·) t
  let user := (splitUser? authority).map (·.1)
  let place := ((splitUser? authority).map (·.2)).getD authority
  let (host, service) := spanHost false place
  let (number, after) ← service? name (service ++ rest)
  if host.isEmpty then
    let isAlone := match user with
      | none => true
      | some user => user = [] && rest = [] || user = [':']
    if scheme = .other && service.isEmpty && isAlone then some ({}, after) else none
  else
    let host ← if scheme = .other then Host.ofName? host else Host.ofDomain? host
    return (⟨user.bind user?, host, number⟩, after)

/-- The URI of a file, which has a host unless it is on this computer or on one of its drives. -/
def ofFile? (t : Text) : Option Uri :=
  let file (host : Option Host) (t : Text) := withPath "file".toList (some { host := host }) t
  match t with
  | '/' :: '/' :: rest =>
    let (name, after) := Text.spanWhile (!endsHost ·) rest
    if isDrive name then some (file none rest)
    else if name.isEmpty then some (file none after)
    else do
      let host ← Host.ofDomain? name
      let isOwn := host = .domain "localhost".toList
        || (path .file (splitEnd after).1).head?.any isDrive
      return file (if isOwn then none else some host) after
  | rest => some (file none rest)

/-! ### URIs -/

/-- A text with slashes in place of backslashes, up to the query and the fragment. -/
def withSlashes (t : Text) : Text :=
  let (start, rest) := Text.spanWhile (fun c => c ≠ '?' && c ≠ '#') t
  start.map (fun c => if c = '\\' then '/' else c) ++ rest

/-- The URI of a scheme that leaves the text after the colon alone. -/
def plain (name t : Text) : Uri :=
  let (start, query, fragment) := splitEnd t
  { scheme := name
    authority := none
    route := .plain (Percent.encode Host.isControl start)
    query := query.map (Percent.encode (isHiddenInQuery .other))
    fragment := fragment.map (Percent.encode isHiddenInFragment) }

/-- The URI of a scheme with the text after the colon. -/
def ofScheme? (name t : Text) : Option Uri :=
  match Scheme.ofName name, t with
  | .network, t => do
    let (authority, after) ← authority? name ((withSlashes t).dropWhile (· = '/'))
    return withPath name (some authority) after
  | .file, t => ofFile? (withSlashes t)
  | .other, '/' :: '/' :: rest => do
    let (authority, after) ← authority? name rest
    return withPath name (some authority) after
  | .other, '/' :: rest => some (withPath name none ('/' :: rest))
  | .other, t => some (plain name t)

/--
The URI that a string is; blanks around it do not count, and tabs and line ends within it do not
count either.
-/
def ofString? (s : String) : Option Uri := do
  let isBlank (c : Char) : Bool := c ≤ ' '
  let trimmed := Text.trimEndBy isBlank (Text.trimStartBy isBlank s.toList)
  let t := trimmed.filter fun c => c ≠ '\t' && c ≠ '\n' && c ≠ '\r'
  let (name, rest) := Text.spanWhile (· ≠ ':') t
  let name ← schemeName? name
  let rest ← rest.tail?
  ofScheme? name rest

/-- Whether a string is a URI. -/
def isUri (s : String) : Bool :=
  (ofString? s).isSome

/-- Whether a URI leads to this computer. -/
def isLocal (u : Uri) : Bool :=
  (u.authority.bind (·.host)).all (· = .domain "localhost".toList)

/-! ### The normal form -/

/-- The segments of a path, each behind a slash. -/
def writtenPath (path : List Text) : Text :=
  path.flatMap ('/' :: ·)

/-- The normal form of a URI; a path is never taken for an authority. -/
def normal (u : Uri) : String :=
  let authority := (u.authority.map fun a => ['/', '/'] ++ a.normal).getD []
  let path := match u.route with
    | .segments list =>
      if u.authority.isNone && (writtenPath list).startsWith ['/', '/'] then
        ['/', '.'] ++ writtenPath list
      else
        writtenPath list
    | .plain t => t
  let query := (u.query.map ('?' :: ·)).getD []
  let fragment := (u.fragment.map ('#' :: ·)).getD []
  String.ofList (u.scheme ++ [':'] ++ authority ++ path ++ query ++ fragment)

end Uri

end EditorModes
