/-!
# Cancellation

A request carries a cancellation token.  Copies of a token share its state: cancelling one cancels
all of them, for good.  Nothing is interrupted by it; whoever holds a token may ask for its state.
-/

namespace EditorModes

/-- The tokens handed out, each with the number of the signal it shares, and the signals. -/
structure CancellationTokens where
  tokens : List Nat := []
  signals : List Bool := []
  deriving DecidableEq, Repr

namespace CancellationTokens

/-- One more token, which shares its signal with no other. -/
def add (c : CancellationTokens) : CancellationTokens where
  tokens := c.tokens ++ [c.signals.length]
  signals := c.signals ++ [false]

/-- One more token that shares the signal of another. -/
def copy? (c : CancellationTokens) (token : Nat) : Option CancellationTokens := do
  return { c with tokens := c.tokens ++ [← c.tokens[token]?] }

/-- The signal of a token is given. -/
def cancel? (c : CancellationTokens) (token : Nat) : Option CancellationTokens := do
  return { c with signals := c.signals.set (← c.tokens[token]?) true }

/-- Whether the signal of each token was given. -/
def states (c : CancellationTokens) : List Bool :=
  c.tokens.map fun signal => c.signals.getD signal false

/-- The state of a token as text. -/
def describe (cancelled : Bool) : String :=
  if cancelled then "CancellationToken(cancelled)" else "CancellationToken(active)"

end CancellationTokens

end EditorModes
