import EditorModes.Regex.Alphabet

/-!
# Regular expressions

The regular expressions that patterns denote.  A repetition that is greedy prefers more rounds,
any other prefers fewer, and an alternative prefers its left branch: among the matches at one
place, these preferences single out one.
-/

namespace EditorModes.Regex

/-- A condition on the place between two characters. -/
inductive Look where
  | textStart
  | textEnd
  | lineStart
  | lineEnd
  | lineStartCRLF
  | lineEndCRLF
  | boundary (alphabet : Alphabet)
  | notBoundary (alphabet : Alphabet)
  | wordStart (alphabet : Alphabet)
  | wordEnd (alphabet : Alphabet)
  | wordStartHalf (alphabet : Alphabet)
  | wordEndHalf (alphabet : Alphabet)
  deriving DecidableEq, Repr

/-- Whether the condition holds between the characters `before` and `after`, where present. -/
def Look.holds (before after : Option Char) : Look → Bool
  | textStart => before.isNone
  | textEnd => after.isNone
  | lineStart => before.all (· == '\n')
  | lineEnd => after.all (· == '\n')
  | lineStartCRLF => before.all fun c => c == '\n' || (c == '\r' && after != some '\n')
  | lineEndCRLF => after.all fun c => c == '\r' || (c == '\n' && before != some '\r')
  | boundary alphabet => before.any alphabet.isWord != after.any alphabet.isWord
  | notBoundary alphabet => before.any alphabet.isWord == after.any alphabet.isWord
  | wordStart alphabet => !before.any alphabet.isWord && after.any alphabet.isWord
  | wordEnd alphabet => before.any alphabet.isWord && !after.any alphabet.isWord
  | wordStartHalf alphabet => !before.any alphabet.isWord
  | wordEndHalf alphabet => !after.any alphabet.isWord

/-- A regular expression; a group keeps what it matched or serves to group only. -/
inductive Expr where
  | empty
  | char (set : CharSet)
  | look (condition : Look)
  | group (capturing : Bool) (body : Expr)
  | cat (first second : Expr)
  | alt (left right : Expr)
  | loop (least : Nat) (most : Option Nat) (greedy : Bool) (body : Expr)
  deriving Repr

namespace Expr

/-- The concatenation of a list of expressions. -/
def cats : List Expr → Expr
  | [] => .empty
  | [e] => e
  | e :: es => .cat e (cats es)

/-- The alternative between the expressions of a list. -/
def alts : List Expr → Expr
  | [] => .empty
  | [e] => e
  | e :: es => .alt e (alts es)

/-- The number of characters in the shortest text the expression could match. -/
def leastLength : Expr → Nat
  | empty => 0
  | char _ => 1
  | look _ => 0
  | group _ body => body.leastLength
  | cat first second => first.leastLength + second.leastLength
  | alt left right => min left.leastLength right.leastLength
  | loop least _ _ body => least * body.leastLength

/-- Whether every match of the expression is empty. -/
def isZeroWidth : Expr → Bool
  | empty => true
  | char _ => false
  | look _ => true
  | group _ body => body.isZeroWidth
  | cat first second => first.isZeroWidth && second.isZeroWidth
  | alt left right => left.isZeroWidth && right.isZeroWidth
  | loop _ most _ body => most == some 0 || body.isZeroWidth

/-- Whether the expression matches at the start of a text only. -/
def isAnchored : Expr → Bool
  | empty => false
  | char _ => false
  | look condition => condition = .textStart
  | group _ body => body.isAnchored
  | cat first second => first.isAnchored || (first.isZeroWidth && second.isAnchored)
  | alt left right => left.isAnchored && right.isAnchored
  | loop least _ _ body => 0 < least && body.isAnchored

/-- Whether the expression matches at the end of a text only. -/
def isAnchoredAtEnd : Expr → Bool
  | empty => false
  | char _ => false
  | look condition => condition = .textEnd
  | group _ body => body.isAnchoredAtEnd
  | cat first second =>
    second.isAnchoredAtEnd || (second.isZeroWidth && first.isAnchoredAtEnd)
  | alt left right => left.isAnchoredAtEnd && right.isAnchoredAtEnd
  | loop least _ _ body => 0 < least && body.isAnchoredAtEnd

/-- A repetition, where rounds that match nothing are run at most once. -/
def repetition (least : Nat) (most : Option Nat) (greedy : Bool) (body : Expr) : Expr :=
  if body.isZeroWidth then .loop (min least 1) (some (min (most.getD 1) 1)) greedy body
  else .loop least most greedy body

end Expr

end EditorModes.Regex
