/-!
# Pools by key

There is one pool of workers for each key: a language and the resources that its workers load.
A pool that is removed lives on with whoever holds it, and the key gets another one when it is
needed again.
-/

namespace EditorModes

/-- What a pool of workers is for. -/
structure PoolKey where
  language : String
  resources : List String := []
  deriving DecidableEq, Repr

/-- The pools, no two for one key. -/
structure PoolRegistry (P : Type u) where
  entries : List (PoolKey × P) := []

namespace PoolRegistry

/-- The pool for a key. -/
def get? (r : PoolRegistry P) (key : PoolKey) : Option P :=
  r.entries.lookup key

/-- The pool for a key, which is `fresh` if there was none. -/
def getOrInsert (r : PoolRegistry P) (key : PoolKey) (fresh : P) : P × PoolRegistry P :=
  match r.get? key with
  | some pool => (pool, r)
  | none => (fresh, ⟨r.entries ++ [(key, fresh)]⟩)

/-- The registry without a pool for a key. -/
def remove (r : PoolRegistry P) (key : PoolKey) : PoolRegistry P :=
  ⟨r.entries.filter (·.1 ≠ key)⟩

/-- The number of pools. -/
def size (r : PoolRegistry P) : Nat :=
  r.entries.length

end PoolRegistry

end EditorModes
