import EditorModes.Regex.Encoding
import EditorModes.Regex.Syntax

/-!
# The size of a pattern

A pattern is refused when an automaton for it would grow too large, be it the one that reads
forwards or the one that reads backwards.  The size is that of the automaton for a normal form
of the pattern: neighbouring literals are one literal, alternatives between single characters are
a set of characters, and what all alternatives start with is written once in front of them.
-/

namespace EditorModes.Regex

/--
A regular expression in normal form.  A sequence or an alternative continues to the right, a
literal is not empty, and a set has not exactly one member.
-/
inductive Form where
  | empty
  | literal (text : List Char)
  | set (members : CharSet)
  | look (condition : Look)
  | capture (body : Form)
  | cat (first rest : Form)
  | alt (first rest : Form)
  | loop (least : Nat) (most : Option Nat) (greedy : Bool) (body : Form)
  deriving Repr

namespace Form

/-! ### Normal forms -/

/-- The forms that a sequence consists of. -/
def items : Form → List Form
  | cat first rest => first :: rest.items
  | empty => []
  | form => [form]

/-- The forms between which an alternative chooses. -/
def branches : Form → List Form
  | alt first rest => first :: rest.branches
  | form => [form]

/-- The sequence of a list of items. -/
def ofItems : List Form → Form
  | [] => .empty
  | [form] => form
  | form :: forms => .cat form (ofItems forms)

/-- The alternative between the forms of a list. -/
def ofBranches : List Form → Form
  | [] => .set .empty
  | [form] => form
  | form :: forms => .alt form (ofBranches forms)

/-- The form of a set; a set of one character is a literal. -/
def ofSet (s : CharSet) : Form :=
  match s.onlyMember? with
  | some c => .literal [c]
  | none => .set s

/-- Whether two forms are the same; what a group captures is never the same twice. -/
def same : Form → Form → Bool
  | empty, empty => true
  | literal s, literal t => s == t
  | set s, set t => s = t
  | look a, look b => a = b
  | cat a b, cat c d => same a c && same b d
  | alt a b, alt c d => same a c && same b d
  | loop least most greedy a, loop least' most' greedy' b =>
    least == least' && most == most' && greedy == greedy' && same a b
  | _, _ => false

/-- Neighbouring literals put together. -/
def joinLiterals : List Form → List Form
  | [] => []
  | literal s :: forms =>
    match joinLiterals forms with
    | literal t :: forms => literal (s ++ t) :: forms
    | forms => literal s :: forms
  | form :: forms => form :: joinLiterals forms

/-- One form after the other. -/
def sequence (forms : List Form) : Form :=
  ofItems (joinLiterals (forms.flatMap items))

/-- The set of characters that a form of the kind `one` stands for. -/
def allSets? (one : Form → Option CharSet) (forms : List Form) : Option CharSet :=
  (forms.mapM one).map .unions

/-- The alternative between forms that are no alternatives themselves, as one set if possible. -/
def choice (forms : List Form) : Form :=
  let character? : Form → Option CharSet
    | literal [c] => some (.single c)
    | _ => none
  let members? : Form → Option CharSet
    | set s => some s
    | _ => none
  match forms with
  | [form] => form
  | forms =>
    match allSets? character? forms <|> allSets? members? forms with
    | some s => ofSet s
    | none => ofBranches forms

/-- What two lists of items start with in common. -/
def commonItems : List Form → List Form → List Form
  | a :: as, b :: bs => if same a b then a :: commonItems as bs else []
  | _, _ => []

/-- What the items of all sequences in a list start with; nothing when one is no sequence. -/
def sharedItems (forms : List Form) : List Form :=
  let sequences := forms.mapM fun
    | cat first rest => some (items (cat first rest))
    | _ => none
  match sequences with
  | some (first :: rest) => rest.foldl commonItems first
  | _ => []

/-- The choice between forms. -/
def alternative (forms : List Form) : Form :=
  let forms := forms.flatMap branches
  match choice forms with
  | alt first rest =>
    match sharedItems forms with
    | [] => alt first rest
    | shared =>
      let ends := forms.map fun form => sequence (form.items.drop shared.length)
      sequence (shared ++ [choice (ends.flatMap branches)])
  | form => form

/-- Whether every match of the form is empty. -/
def isZeroWidth : Form → Bool
  | empty => true
  | literal _ => false
  | set _ => false
  | look _ => true
  | capture body => body.isZeroWidth
  | cat first rest => first.isZeroWidth && rest.isZeroWidth
  | alt first rest => first.isZeroWidth && rest.isZeroWidth
  | loop _ most _ body => most == some 0 || body.isZeroWidth

/-- A repetition: rounds that match nothing are run at most once, and one round is no repetition. -/
def repetition (least : Nat) (most : Option Nat) (greedy : Bool) (body : Form) : Form :=
  let (least, most) :=
    if body.isZeroWidth then (min least 1, some (min (most.getD 1) 1)) else (least, most)
  if most = some 0 then .empty
  else if least = 1 ∧ most = some 1 then body
  else .loop least most greedy body

/-- The forms between which an expression chooses. -/
def ofBranchesOf : Expr → List Form
  | .empty => [.empty]
  | .char s => [ofSet s]
  | .look condition => [.look condition]
  | .group true body => [.capture (alternative (ofBranchesOf body))]
  | .group false body => [alternative (ofBranchesOf body)]
  | .cat first second =>
    [sequence [alternative (ofBranchesOf first), alternative (ofBranchesOf second)]]
  | .alt left right => alternative (ofBranchesOf left) :: ofBranchesOf right
  | .loop least most greedy body =>
    [repetition least most greedy (alternative (ofBranchesOf body))]

/-- The normal form of an expression. -/
def ofExpr (e : Expr) : Form :=
  alternative (ofBranchesOf e)

/-! ### Alternatives between literals -/

/-- The bytes of a text. -/
def bytesOf (text : List Char) : List Nat :=
  (String.ofList text).toUTF8.toList.map (·.toNat)

/-- The literals of an alternative, when all its branches are literals. -/
def literals? : Form → Option (List (List Nat))
  | literal s => some [bytesOf s]
  | alt (literal s) rest => rest.literals?.map (bytesOf s :: ·)
  | _ => none

/-- The literals up to each one that is empty, and those after the last of these. -/
def splitAtEmpty : List (List Nat) → List (List (List Nat))
  | [] => [[]]
  | [] :: texts => [] :: splitAtEmpty texts
  | text :: texts =>
    match splitAtEmpty texts with
    | [] => [[text]]
    | chunk :: chunks => (text :: chunk) :: chunks

/-- Adds what follows a byte to the group of that byte. -/
def addToGroup (byte : Nat) (rest : List Nat) :
    List (Nat × List (List Nat)) → List (Nat × List (List Nat))
  | [] => [(byte, [rest])]
  | (other, rests) :: groups =>
    if byte = other then (other, rest :: rests) :: groups
    else (other, rests) :: addToGroup byte rest groups

/-- What follows each first byte of a list of literals. -/
def groupByByte (texts : List (List Nat)) : List (List (List Nat)) :=
  let groups := texts.foldr
    (fun text groups =>
      match text with
      | [] => groups
      | byte :: rest => addToGroup byte rest groups)
    []
  groups.map (·.2)

/--
The size of the tree that decides between literals byte by byte, the earlier ones first.  Where a
literal ends, those before it and those after it are decided between apart; `depth` bounds the
length of the literals.
-/
def treeSize : (depth : Nat) → List (List Nat) → Nat
  | 0, _ => 0
  | depth + 1, texts =>
    if texts.all (·.isEmpty) then 0
    else
      let ends := texts.takeWhile (·.isEmpty)
      let chunks := splitAtEmpty (ends.take 1 ++ texts.dropWhile (·.isEmpty))
      let groups := (chunks.map groupByByte).filter (!·.isEmpty)
      let decisions := groups.map fun group =>
        instructionSize + (if group.length = 1 then 0 else jumpSize * group.length)
          + (group.map (treeSize depth)).sum
      instructionSize + linkSize * (groups.length + (chunks.length - 1)) + decisions.sum

/-- The size of an alternative between literals. -/
def choiceSize (literals : List (List Nat)) : Nat :=
  let longest := (literals.map (·.length)).foldl max 0
  instructionSize + treeSize (longest + 1) literals

/-! ### Sizes -/

/-- The direction in which an automaton reads. -/
inductive Direction where
  | forwards
  | backwards
  deriving DecidableEq, Repr

/--
The size of an automaton in bytes, and whether it is left by a fork, to which every way on adds a
link.  `asBranches` is the size it adds to an alternative that goes on with its branches.
-/
structure Size where
  bytes : Nat
  leftByFork : Bool
  asBranches : Nat

namespace Size

/-- The size of the link from the end to what follows. -/
def exit (s : Size) : Nat :=
  if s.leftByFork then linkSize else 0

/-- The size of an automaton that is no alternative. -/
def plain (bytes : Nat) (leftByFork : Bool) : Size :=
  { bytes, leftByFork
    asBranches := bytes + linkSize + (if leftByFork then linkSize else 0) }

/-- The size of `count` automata in a row. -/
def times (s : Size) (count : Nat) : Nat :=
  if count = 0 then instructionSize else count * s.bytes + (count - 1) * s.exit

/-- The size of a repetition. -/
def repeated (s : Size) (nonempty : Bool) : (least : Nat) → (most : Option Nat) → Size
  | 0, some 1 => plain (2 * instructionSize + 2 * linkSize + s.bytes + s.exit) false
  | 0, none =>
    if nonempty then plain (instructionSize + linkSize + s.bytes + s.exit) true
    else plain (3 * instructionSize + 4 * linkSize + s.bytes + s.exit) false
  | 1, none => plain (s.bytes + s.exit + instructionSize + linkSize) true
  | least + 1, none =>
    plain (s.times least + s.bytes + 2 * s.exit + instructionSize + linkSize) true
  | least, some most =>
    if most ≤ least then plain (s.times least) (0 < least && s.leftByFork)
    else
      let entry := if least = 0 then 0 else s.exit
      let rounds := (most - least) * (instructionSize + 2 * linkSize + s.bytes + s.exit)
      plain (s.times least + instructionSize + entry + rounds) false

end Size

/-- The number of characters in the shortest match; `none` when a part can match nothing at all. -/
def leastLength? : Form → Option Nat
  | empty => some 0
  | literal s => some s.length
  | set s => if s.isEmpty then none else some 1
  | look _ => some 0
  | capture body => body.leastLength?
  | cat first rest => do return (← first.leastLength?) + (← rest.leastLength?)
  | alt first rest => do return min (← first.leastLength?) (← rest.leastLength?)
  | loop least _ _ body => body.leastLength?.map (least * ·)

/-- The size of the automaton for a form. -/
def size (d : Direction) : Form → Size
  | empty => .plain instructionSize false
  | literal s => .plain (instructionSize * (bytesOf s).length) false
  | set s =>
    match d with
    | .forwards => .plain (setSize s) false
    | .backwards => .plain (reverseSetSize s) false
  | look _ => .plain instructionSize false
  | capture body =>
    match d with
    | .forwards =>
      let inner := body.size d
      .plain (inner.bytes + 2 * instructionSize + inner.exit) false
    | .backwards => body.size d
  | cat first rest =>
    let first := first.size d
    let rest := rest.size d
    match d with
    | .forwards => .plain (first.bytes + rest.bytes + first.exit) rest.leftByFork
    | .backwards => .plain (first.bytes + rest.bytes + rest.exit) first.leftByFork
  | alt first rest =>
    let branches := (first.size d).asBranches + (rest.size d).asBranches
    match literals? (alt first rest) with
    | some literals =>
      let read (bytes : List Nat) := if d = .forwards then bytes else bytes.reverse
      { bytes := choiceSize (literals.map read), leftByFork := false, asBranches := branches }
    | none =>
      { bytes := 2 * instructionSize + branches, leftByFork := false, asBranches := branches }
  | loop least most _ body =>
    (body.size d).repeated (body.leastLength?.any (0 < ·)) least most

end Form

namespace Expr

/-- The size of what lets a match start, or end, anywhere but at a bound of the text. -/
def skipSize (bound : Bool) : Nat :=
  if bound then instructionSize else 3 * instructionSize + jumpSize + 2 * linkSize

/-- The size of the automaton that reads forwards. -/
def forwardSize (e : Expr) : Nat :=
  let body := (Form.ofExpr e).size .forwards
  body.bytes + body.exit + 3 * instructionSize + skipSize e.isAnchored

/-- The size of the automaton that reads backwards. -/
def backwardSize (e : Expr) : Nat :=
  let body := (Form.ofExpr e).size .backwards
  body.bytes + body.exit + instructionSize + skipSize e.isAnchoredAtEnd

/-- The largest size of an automaton. -/
def sizeLimit : Nat := 10 * 1024 * 1024

/-- Whether the automata for an expression stay within the limit. -/
def isWithinLimit (e : Expr) : Bool :=
  e.forwardSize ≤ sizeLimit && e.backwardSize ≤ sizeLimit

end Expr

end EditorModes.Regex
