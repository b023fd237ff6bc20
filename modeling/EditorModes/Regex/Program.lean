import EditorModes.Regex.Syntax

/-!
# Programs for regular expressions

A regular expression is turned into a program: a list of instructions, each naming the
instructions that may follow it.  Where two may follow, the first is preferred.  An expression is
laid out in front of the instruction that comes after it, so that its last instructions can name
that one.
-/

namespace EditorModes.Regex

/-- An instruction; addresses are positions in the program. -/
inductive Instruction where
  | accept
  | char (set : CharSet) (next : Nat)
  | look (condition : Look) (next : Nat)
  | fork (preferred other : Nat)
  deriving Repr

/-- Instructions laid out so far. -/
abbrev Code := Array Instruction

/-- The fork between another round at `again` and leaving for `next`. -/
def forkRound (greedy : Bool) (again next : Nat) : Instruction :=
  if greedy then .fork again next else .fork next again

/-- Lays out something in front of an instruction: its entry and the code with it added. -/
abbrev Layout := Nat → Code → Nat × Code

namespace Layout

/-- One instruction, given its successor. -/
def one (instruction : Nat → Instruction) : Layout := fun next code =>
  (code.size, code.push (instruction next))

/-- One layout after another. -/
def seq (first second : Layout) : Layout := fun next code =>
  let (middle, code) := second next code
  first middle code

/-- A layout `count` times in a row. -/
def times (count : Nat) (layout : Layout) : Layout :=
  match count with
  | 0 => fun next code => (next, code)
  | count + 1 => seq layout (times count layout)

/-- A layout run once or more. -/
def oneOrMore (greedy : Bool) (layout : Layout) : Layout := fun next code =>
  let round := code.size
  let (entry, code) := layout round (code.push .accept)
  (entry, code.setIfInBounds round (forkRound greedy entry next))

/-- A layout run at most once. -/
def optional (greedy : Bool) (layout : Layout) : Layout := fun next code =>
  let (entry, code) := layout next code
  (code.size, code.push (forkRound greedy entry next))

/-- A layout that matches some text, run any number of times. -/
def zeroOrMore (greedy : Bool) (layout : Layout) : Layout := fun next code =>
  let round := code.size
  let (entry, code) := layout round (code.push .accept)
  (round, code.setIfInBounds round (forkRound greedy entry next))

/-- A layout run up to `count` times, where leaving goes straight to the end. -/
def upTo (greedy : Bool) (layout : Layout) : Nat → Layout
  | 0 => fun next code => (next, code)
  | count + 1 => fun next code =>
    let (later, code) := upTo greedy layout count next code
    let (entry, code) := layout later code
    (code.size, code.push (forkRound greedy entry next))

end Layout

/-- The layout of an expression. -/
def Expr.layout : Expr → Layout
  | .empty => fun next code => (next, code)
  | .char set => .one (.char set)
  | .look condition => .one (.look condition)
  | .group _ body => body.layout
  | .cat first second => .seq first.layout second.layout
  | .alt left right => fun next code =>
    let (second, code) := right.layout next code
    let (first, code) := left.layout next code
    (code.size, code.push (.fork first second))
  | .loop least none greedy body =>
    match least with
    | 0 =>
      if 0 < body.leastLength then .zeroOrMore greedy body.layout
      else .optional greedy (.oneOrMore greedy body.layout)
    | least + 1 => .seq (.times least body.layout) (.oneOrMore greedy body.layout)
  | .loop least (some most) greedy body =>
    .seq (.times least body.layout) (.upTo greedy body.layout (most - least))

/-- The instructions of an expression, where it starts, and whether it is tied to the start. -/
structure Program where
  code : Code
  start : Nat
  anchored : Bool

/-- The program of an expression. -/
def Program.ofExpr (e : Expr) : Program :=
  let (start, code) := e.layout 0 #[.accept]
  ⟨code, start, e.isAnchored⟩

end EditorModes.Regex
