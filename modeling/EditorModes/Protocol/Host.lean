import EditorModes.Text.Percent
import EditorModes.Text.Property.CaseFold
import EditorModes.Text.Punycode

/-!
# Hosts

A URI may name a host, which is an address of one of two kinds or a domain.  Eight groups of
hexadecimal digits in brackets are a long address; up to four numbers are a short one.  There are
several ways to write the same host, of which one is its normal form.
-/

namespace EditorModes

/-- What a URI may name as its host. -/
inductive Host where
  /-- An address of four bytes, as a number. -/
  | short (address : Nat)
  /-- An address of eight groups of two bytes. -/
  | long (groups : List Nat)
  | domain (name : Text)
  deriving DecidableEq, Repr

namespace Host

/-! ### Short addresses -/

/-- The number that digits stand for in a base. -/
def number? (base : Nat) (digits : Text) : Option Nat :=
  digits.foldlM (fun n c => do
    let digit ← Hexadecimal.digit? c
    if digit < base then some (base * n + digit) else none) 0

/-- A number of a short address: hexadecimal after `0x`, octal after another zero, or decimal. -/
def part? : Text → Option Nat
  | [] => none
  | '0' :: 'x' :: digits | '0' :: 'X' :: digits => number? 16 digits
  | '0' :: digits => number? 8 digits
  | digits => number? 10 digits

/-- The parts of a name between its dots, without an empty one at the end. -/
def labels (name : Text) : List Text :=
  let parts := Text.splitOnChar '.' name
  if parts.getLast? = some [] then parts.dropLast else parts

/-- Whether the last part of a name is a number, which only a short address may end in. -/
def endsInNumber (name : Text) : Bool :=
  (labels name).getLast?.any fun t =>
    !t.isEmpty && t.all (·.isDigit) || (part? t).isSome

/-- The number that bytes stand for, the highest one first. -/
def ofBytes (bytes : List Nat) : Nat :=
  bytes.foldl (fun n byte => 256 * n + byte) 0

/--
The short address that a name is: up to four numbers, of which the last one stands for all bytes
that the others leave and each of the others stands for a byte.
-/
def shortAddress? (name : Text) : Option Nat := do
  let numbers ← (labels name).mapM part?
  let last := numbers.getLast?.getD 0
  let bytes := numbers.dropLast
  if numbers.length ≤ 4 && last < Nat.pow 256 (5 - numbers.length) && bytes.all (· < 256) then
    some (ofBytes bytes * Nat.pow 256 (5 - numbers.length) + last)
  else
    none

/-! ### Long addresses -/

/-- Whether a text is a group of a long address. -/
def isGroup (t : Text) : Bool :=
  1 ≤ t.length && t.length ≤ 4 && t.all fun c => (Hexadecimal.digit? c).isSome

/-- Whether a text is a byte in decimal digits, of which the first one is no needless zero. -/
def isByte (t : Text) : Bool :=
  !t.isEmpty && t.all (·.isDigit) && (t.length = 1 || t.head? ≠ some '0')
    && (number? 10 t).any (· < 256)

/-- The two groups that four bytes between dots stand for. -/
def dotted? (t : Text) : Option (List Nat) := do
  let parts := Text.splitOnChar '.' t
  if !parts.all isByte then none
  match ← parts.mapM (number? 10) with
  | [a, b, c, d] => return [ofBytes [a, b], ofBytes [c, d]]
  | _ => none

/-- The groups that some texts stand for, of which the last one may be dotted. -/
def groups? : List Text → Option (List Nat)
  | [] => some []
  | [t] => if isGroup t then some [Hexadecimal.value t] else dotted? t
  | t :: rest => if isGroup t then (groups? rest).map (Hexadecimal.value t :: ·) else none

/-- The texts before and after the first two colons in a row. -/
def splitGap? : Text → Option (Text × Text)
  | ':' :: ':' :: rest => some ([], rest)
  | c :: rest => (splitGap? rest).map fun (before, after) => (c :: before, after)
  | [] => none

/-- The texts between the colons of a text that may be empty. -/
def pieces (t : Text) : List Text :=
  if t.isEmpty then [] else Text.splitOnChar ':' t

/--
The long address that a text is: eight groups, some of which are zero where two colons stand in a
row.
-/
def longAddress? (t : Text) : Option (List Nat) :=
  match splitGap? t with
  | none => do
    let groups ← groups? (Text.splitOnChar ':' t)
    if groups.length = 8 then some groups else none
  | some (before, after) => do
    if !(pieces before).all isGroup then none
    let first := (pieces before).map Hexadecimal.value
    let last ← groups? (pieces after)
    if first.length + last.length ≤ 7 then
      some (first ++ List.replicate (8 - first.length - last.length) 0 ++ last)
    else
      none

/-- The long address that brackets enclose. -/
def ofBrackets? (t : Text) : Option Host :=
  if t.getLast? = some ']' then (longAddress? t.dropLast).map .long else none

/-! ### Names -/

/-- The characters that no name of a host has. -/
def isDelimiter (c : Char) : Bool :=
  "\x00\t\n\r #/:<>?@[\\]^|".toList.contains c

/-- Whether a character has no place in a domain, be it that it cannot be seen. -/
def isForbidden (c : Char) : Bool :=
  isDelimiter c || c = '%' || c.toNat < 0x20 || c = '\x7f' || c = '\ufffc' || c = '\ufffd'
    || !Property.isAscii c && Property.invisibleSet.contains c

/-- The characters that count for nothing in a domain, as a set. -/
def ignoredSet : CharSet :=
  .ofText "AD 34F 180B-180D 180F 200B 2060 2064 FE00-FE0F FEFF E0100-E01EF"

/-- The character that stands for another one in a domain; a sigma at the end of a word stays. -/
def fold (c : Char) : Char :=
  if c = '\u3002' || c = '\uff61' then '.'
  else if '\uff01' ≤ c && c ≤ '\uff5e' then (Char.ofNat (c.toNat - 0xfee0)).toLower
  else if Property.isAscii c || c = '\u03c2' then c.toLower
  else Property.fold c

/-- The form of a domain that its names share. -/
def foldDomain (name : Text) : Text :=
  (name.filter (!ignoredSet.contains ·)).map fold

/--
Whether a part of a domain is what it has to be when it starts with `xn--`: written in letters and
digits for a text that has others.
-/
def isLabel : Text → Bool
  | 'x' :: 'n' :: '-' :: '-' :: rest =>
    (Punycode.decode? rest).any fun t =>
      t.any (!Property.isAscii ·) && !t.any isForbidden && foldDomain t = t
  | _ => true

/-- A part of a domain in ASCII characters. -/
def asciiLabel (label : Text) : Text :=
  if label.all Property.isAscii then label else "xn--".toList ++ Punycode.encode label

/-- A domain in ASCII characters. -/
def asciiDomain (name : Text) : Text :=
  Text.join ['.'] ((Text.splitOnChar '.' name).map asciiLabel)

/-- The host of a scheme that knows domains. -/
def ofDomain? : Text → Option Host
  | '[' :: rest => ofBrackets? rest
  | t => do
    let decoded ← String.fromUTF8? ⟨(Percent.decode t).toArray⟩
    let name := foldDomain decoded.toList
    if name.isEmpty || name.any isForbidden || !(labels name).all isLabel then none
    else if !endsInNumber name then some (.domain (asciiDomain name))
    else (shortAddress? name).map .short

/-- Whether a character cannot be seen. -/
def isControl (c : Char) : Bool :=
  c.toNat < 0x20 || c = '\x7f'

/-- The host of a scheme that leaves names alone, which may be empty. -/
def ofName? : Text → Option Host
  | '[' :: rest => ofBrackets? rest
  | t => if t.any isDelimiter then none else some (.domain (Percent.encode isControl t))

/-! ### The normal form -/

/-- The bytes of a short address between dots. -/
def dotted (address : Nat) : Text :=
  let byte (weight : Nat) : Text := Nat.toDigits 10 (address / weight % 256)
  Text.join ['.'] ([Nat.pow 256 3, Nat.pow 256 2, 256, 1].map byte)

/--
The groups of a long address between colons; two colons in a row stand for the first of the longest
runs of zeros, if it has at least two.
-/
def compressed (groups : List Nat) : Text :=
  let runs := (List.range groups.length).map fun i =>
    ((groups.drop i).takeWhile (· = 0)).length
  let longest := runs.max?.getD 0
  let start := runs.idxOf longest
  let written (groups : List Nat) := Text.join [':'] (groups.map (Nat.toDigits 16))
  if longest < 2 then written groups
  else written (groups.take start) ++ [':', ':'] ++ written (groups.drop (start + longest))

/-- The normal form of a host. -/
def normal : Host → Text
  | short address => dotted address
  | long groups => '[' :: compressed groups ++ [']']
  | domain name => name

end Host

end EditorModes
