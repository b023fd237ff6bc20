import EditorModes.Mode.Features

/-!
# Modes

A mode serves one language.  Its provisions are registered when it is activated, and taken back
when it is deactivated.  The modes it depends on are activated before it; modes that depend on
each other in a circle are never all active, and activating one of them never ends.
-/

namespace EditorModes

/-- What serves a language. -/
structure Mode where
  /-- The language. -/
  id : String
  /-- The modes that must be active before this one. -/
  dependencies : List String := []
  provisions : List Provision
  /-- Whether a worker is elected to validate once the mode is active. -/
  electsValidator : Bool := false

/-- An active mode and the registrations that its activation made. -/
structure ActiveMode where
  mode : Mode
  registrations : List Registration

/-- The modes that are known, no two for one language, and those that are active. -/
structure ModeSet where
  features : Features := {}
  known : List Mode := []
  active : List ActiveMode := []

namespace ModeSet

/-- The known mode of a language. -/
def find? (s : ModeSet) (id : String) : Option Mode :=
  s.known.find? (·.id = id)

/-- Whether there is an active mode of a language. -/
def isActive (s : ModeSet) (id : String) : Bool :=
  s.active.any (·.mode.id = id)

/-- One more known mode, in the place of the one of its language; what is active stays active. -/
def add (s : ModeSet) (mode : Mode) : ModeSet :=
  { s with known := s.known.filter (·.id ≠ mode.id) ++ [mode] }

/-- The provisions of a mode are registered. -/
def start (s : ModeSet) (mode : Mode) : ModeSet :=
  let (registrations, features) := s.features.registerAll mode.id mode.provisions
  { s with features := features, active := s.active ++ [⟨mode, registrations⟩] }

/--
Whether the mode of a language becomes active, and the modes afterwards, when dependencies are
followed at most `depth` deep.
-/
def activateWithin (s : ModeSet) : (depth : Nat) → (id : String) → Option (Bool × ModeSet)
  | 0, _ => none
  | depth + 1, id =>
    match s.find? id with
    | none => some (false, s)
    | some mode =>
      if s.isActive id then some (false, s)
      else do
        let s ← (mode.dependencies.filter (· ≠ id)).foldlM
          (fun s dependency => (activateWithin s depth dependency).map (·.2)) s
        return if s.isActive id then (false, s) else (true, s.start mode)

/--
Whether the mode of a language becomes active, and the modes afterwards; `none` when this never
ends.  A chain of dependencies longer than the number of modes goes around in a circle.
-/
def activate? (s : ModeSet) (id : String) : Option (Bool × ModeSet) :=
  s.activateWithin (s.known.length + 1) id

/-- Whether there was an active mode of a language, and the modes without it. -/
def deactivate (s : ModeSet) (id : String) : Bool × ModeSet :=
  match s.active.find? (·.mode.id = id) with
  | none => (false, s)
  | some active =>
    (true,
      { s with
        features := active.registrations.foldl Features.dispose s.features
        active := s.active.filter (·.mode.id ≠ id) })

/-- The languages of the active modes, in their order. -/
def activeIds (s : ModeSet) : List String :=
  (s.active.map (·.mode.id)).mergeSort fun a b => !(b < a)

end ModeSet

end EditorModes
