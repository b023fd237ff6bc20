import EditorModes.Mode.Less.Variable

/-!
# Blocks

A block stands between braces and belongs to the selector before its opening brace: the text
from the end of the statement before.  Closing braces without an opening one are left aside, and
blocks that nothing closes go up to the end of the stylesheet.
-/

namespace EditorModes.Less

/-- What a node of the outline stands for. -/
inductive OutlineKind where
  | rule
  | variable
  deriving DecidableEq, Repr

/-- A rule or a variable, where it stands, and which part of it names it. -/
inductive OutlineNode where
  | mk (name : Text) (kind : OutlineKind) (span selection : Span) (children : List OutlineNode)
  deriving Repr

namespace OutlineNode

/-- What the node stands for. -/
def kind : OutlineNode → OutlineKind
  | mk _ kind _ _ _ => kind

/-- Where the node stands. -/
def span : OutlineNode → Span
  | mk _ _ span _ _ => span

end OutlineNode

/-- Why a brace has no partner. -/
inductive Imbalance where
  | unexpected
  | missing
  deriving DecidableEq, Repr

/-- What is said about a brace without a partner. -/
def Imbalance.message : Imbalance → String
  | unexpected => "unexpected '\x7d'"
  | missing => "missing '\x7d'"

/-- A brace without a partner and its byte offset. -/
structure LoneBrace where
  offset : Nat
  imbalance : Imbalance
  deriving DecidableEq, Repr

/-- The span of the brace. -/
def LoneBrace.span (b : LoneBrace) : Span :=
  ⟨b.offset, b.offset + 1⟩

/-- A block whose end was not seen yet, with the blocks found in it. -/
structure OpenBlock where
  selector : Text
  selection : Span
  brace : Nat
  children : List OutlineNode

/-- The rule of a block that ends at a byte offset. -/
def OpenBlock.toNode (b : OpenBlock) (stop : Nat) : OutlineNode :=
  .mk b.selector .rule ⟨b.selection.start, stop⟩ b.selection b.children

/-- The block that opens at a byte offset, behind the text of its statement. -/
def OpenBlock.ofStatement (statement : Text) (brace : Nat) : OpenBlock where
  selector :=
    match Text.join [' '] (Text.fields Property.isSpace statement) with
    | [] => ['\x7b', '\x7d']
    | selector => selector
  selection :=
    let start := brace - statement.trimStart.byteSize
    ⟨start, start + statement.trim.byteSize⟩
  brace := brace
  children := []

/-- What was found of the blocks up to some place; the innermost open block comes first. -/
structure BlockScan where
  statement : Text := []
  opened : List OpenBlock := []
  rules : List OutlineNode := []
  unexpected : List Nat := []

namespace BlockScan

/-- A rule is complete: it goes into the innermost open block. -/
def addRule (s : BlockScan) (node : OutlineNode) : BlockScan :=
  match s.opened with
  | [] => { s with rules := s.rules ++ [node] }
  | block :: outer =>
    { s with opened := { block with children := block.children ++ [node] } :: outer }

/-- The innermost open block ends at a byte offset. -/
def closeBlock (s : BlockScan) (block : OpenBlock) (outer : List OpenBlock) (stop : Nat) :
    BlockScan :=
  addRule { s with opened := outer } (block.toNode stop)

/-- A character at a byte offset was read. -/
def read (s : BlockScan) (offset : Nat) (c : Char) : BlockScan :=
  if c = '\x7b' then
    { s with statement := [], opened := .ofStatement s.statement offset :: s.opened }
  else if c = '\x7d' then
    match s.opened with
    | [] => { s with statement := [], unexpected := s.unexpected ++ [offset] }
    | block :: outer => closeBlock { s with statement := [] } block outer (offset + 1)
  else if c = ';' then
    { s with statement := [] }
  else
    { s with statement := s.statement ++ [c] }

/-- A text that starts at a byte offset was read. -/
def readAll (s : BlockScan) (offset : Nat) : Text → BlockScan
  | [] => s
  | c :: t => readAll (s.read offset c) (offset + c.utf8Size) t

/--
What the open blocks, the innermost first, make when all of them end at a byte offset and the
innermost holds some further nodes.
-/
def closeAll (stop : Nat) (nodes : List OutlineNode) : List OpenBlock → List OutlineNode
  | [] => nodes
  | block :: outer =>
    closeAll stop [{ block with children := block.children ++ nodes }.toNode stop] outer

/-- The blocks of a masked stylesheet. -/
def ofMasked (masked : Text) : BlockScan :=
  readAll {} 0 masked

end BlockScan

/-- The rules of a masked stylesheet. -/
def ruleTree (masked : Text) : List OutlineNode :=
  let scan := BlockScan.ofMasked masked
  scan.rules ++ BlockScan.closeAll masked.byteSize [] scan.opened

/-- The braces of a masked stylesheet without partners, in their order. -/
def unmatchedBraces (masked : Text) : List LoneBrace :=
  let scan := BlockScan.ofMasked masked
  let found := scan.unexpected.map (⟨·, .unexpected⟩) ++ scan.opened.map (⟨·.brace, .missing⟩)
  found.mergeSort fun a b => a.offset ≤ b.offset

end EditorModes.Less
