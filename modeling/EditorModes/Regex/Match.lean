import EditorModes.Regex.Parser
import EditorModes.Regex.Program

/-!
# Matching

A program is run on a text by following all its threads at once, in order of preference: of the
threads at one instruction only the most preferred is kept, and a thread that accepts ends all
threads behind it.  The match found at a place is therefore the preferred one, and every
character of the text is looked at once.

`Regex.find?` gives the match at the earliest place that has one.
-/

namespace EditorModes.Regex

namespace Program

/--
Follows threads until each needs a character: the instructions that ask for one, most preferred
first, and whether a thread accepted, which ends the threads behind it.  `seen` marks the
instructions visited; a visit adds at most two threads, so `steps` need not exceed the number of
threads and twice the number of instructions.
-/
def advance (code : Code) (before after : Option Char) :
    Nat → Array Bool → List Nat → List (CharSet × Nat) × Bool
  | 0, _, _ => ([], false)
  | _ + 1, _, [] => ([], false)
  | steps + 1, seen, address :: threads =>
    if seen.getD address true then
      advance code before after steps seen threads
    else
      let seen := seen.setIfInBounds address true
      match code.getD address .accept with
      | .accept => ([], true)
      | .char set next =>
        let (waiting, accepted) := advance code before after steps seen threads
        ((set, next) :: waiting, accepted)
      | .look condition next =>
        advance code before after steps seen
          (if condition.holds before after then next :: threads else threads)
      | .fork preferred other =>
        advance code before after steps seen (preferred :: other :: threads)

/--
The number of characters the preferred match takes up: `best` is that of the match found so far,
and `consumed` how many characters were read.
-/
def run (p : Program) :
    (before : Option Char) → (threads : List Nat) → (consumed : Nat) → (best : Option Nat) →
      Text → Option Nat
  | before, threads, consumed, best, [] =>
    let steps := threads.length + 2 * p.code.size + 1
    let (_, accepted) :=
      advance p.code before none steps (Array.replicate p.code.size false) threads
    if accepted then some consumed else best
  | before, threads, consumed, best, c :: t =>
    let steps := threads.length + 2 * p.code.size + 1
    let (waiting, accepted) :=
      advance p.code before (some c) steps (Array.replicate p.code.size false) threads
    let best := if accepted then some consumed else best
    match waiting.filterMap fun (set, next) => if set.contains c then some next else none with
    | [] => best
    | threads => run p (some c) threads (consumed + 1) best t

/-- The length of the match at the start of a text that stands after `before`. -/
def matchLength? (p : Program) (before : Option Char) (t : Text) : Option Nat :=
  p.run before [p.start] 0 none t

end Program

/-- A match: how many characters stand before it and how many it takes up. -/
structure Match where
  skipped : Nat
  length : Nat
  deriving DecidableEq, Repr

/-- The number of characters up to the end of a match. -/
def Match.stop (m : Match) : Nat :=
  m.skipped + m.length

namespace Program

/-- The match at the earliest place in a text that stands after `before`. -/
def find? (p : Program) (before : Option Char) : Text → Option Match
  | [] => (p.matchLength? before []).map fun n => ⟨0, n⟩
  | c :: t =>
    match p.matchLength? before (c :: t) with
    | some n => some ⟨0, n⟩
    | none =>
      if p.anchored then none
      else (p.find? (some c) t).map fun m => ⟨m.skipped + 1, m.length⟩

end Program

end Regex

/-- A pattern ready to be searched for. -/
structure Regex where
  program : Regex.Program

namespace Regex

/-- The pattern that a text denotes, ready to be searched for. -/
def ofPattern? (pattern : Text) : Option Regex :=
  (Expr.parse? pattern).map fun e => ⟨.ofExpr e⟩

/-- The preferred match at the earliest place of a text that has one. -/
def find? (r : Regex) (t : Text) : Option Match :=
  r.program.find? none t

end Regex

end EditorModes
