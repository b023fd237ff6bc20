import EditorModes.Proofs.Mode.Activation
import Mathlib.Data.List.Nodup
import Mathlib.Data.List.Perm.Subperm

/-!
# Circles of modes

Activating a mode activates first the modes that it depends on, and so on, unless these are active.
It ends exactly when it does not come to modes that are not active and depend on each other in a
circle (`ModeSet.activation_ends_iff`), and then no chain of activations is longer than the number
of modes.
-/

namespace EditorModes.ModeSet

variable {s t u : ModeSet} {id other : String}

/-- Activating a mode that is known and not active activates one that it depends on first. -/
def Requires (s : ModeSet) (id other : String) : Prop :=
  s.isActive id = false ∧ ∃ mode, s.find? id = some mode ∧ other ∈ mode.dependencies ∧ other ≠ id

/-- Activating the mode of a language comes to a mode that requires itself through others. -/
def Circles (s : ModeSet) (id : String) : Prop :=
  ∃ on, Relation.ReflTransGen s.Requires id on ∧ Relation.TransGen s.Requires on on

theorem Circles.head (circles : s.Circles other) (requires : s.Requires id other) :
  s.Circles id
  := by
  obtain ⟨on, leads, around⟩ := circles
  exact ⟨on, leads.head requires, around⟩

/-- A mode that leads into a circle requires another one that does. -/
theorem Circles.exists_requires (circles : s.Circles id) :
  ∃ other, s.Requires id other ∧ s.Circles other
  := by
  obtain ⟨on, leads, around⟩ := circles
  rcases leads.cases_head with rfl | ⟨other, requires, leads⟩
  · obtain ⟨other, requires, leads⟩ := Relation.TransGen.head'_iff.mp around
    exact ⟨other, requires, id, leads, around⟩
  · exact ⟨other, requires, on, leads, around⟩

/-! ### Modes in a circle -/

/-- What is kept by each step of a sequence is kept by all, and each step is made where it holds. -/
theorem exists_of_foldlM {activate? : ModeSet → String → Option ModeSet} {ids : List String}
    {Keeps : ModeSet → Prop}
    (each : ∀ u id v, Keeps u → activate? u id = some v → Keeps v) (keeps : Keeps s)
    (followed : ids.foldlM activate? s = some t) :
  Keeps t ∧ ∀ id ∈ ids, ∃ u v, Keeps u ∧ activate? u id = some v
  := by
  induction ids generalizing s with
  | nil =>
    obtain rfl := Option.some.inj followed
    exact ⟨keeps, by simp⟩
  | cons id ids ih =>
    rw [List.foldlM_cons] at followed
    obtain ⟨u, first, rest⟩ := Option.bind_eq_some_iff.mp followed
    obtain ⟨kept, later⟩ := ih (each s id u keeps first) rest
    exact ⟨kept, List.forall_mem_cons.mpr ⟨⟨s, u, keeps, first⟩, later⟩⟩

/-- The same modes are known, and none that leads into a circle is active. -/
structure Stuck (s u : ModeSet) : Prop where
  known_eq : u.known = s.known
  inactive : ∀ id, s.Circles id → u.isActive id = false

theorem stuck_refl (s : ModeSet) :
  s.Stuck s
  := by
  refine ⟨rfl, fun id circles => ?_⟩
  obtain ⟨other, requires, -⟩ := circles.exists_requires
  exact requires.1

/-- No mode that leads into a circle is activated, and activating one never ends. -/
theorem Stuck.activateWithin (stuck : s.Stuck u) (depth : Nat) (id : String) :
  (s.Circles id → u.activateWithin depth id = none)
    ∧ ∀ activated t, u.activateWithin depth id = some (activated, t) → s.Stuck t
  := by
  induction depth generalizing u id with
  | zero => simp [ModeSet.activateWithin]
  | succ depth ih =>
    have found (id : String) : u.find? id = s.find? id := by
      rw [find?, stuck.known_eq, find?]
    have follows {ids : List String} {v : ModeSet}
        (followed : ids.foldlM (fun s dependency =>
          (ModeSet.activateWithin s depth dependency).map (·.2)) u = some v) :
        s.Stuck v ∧ ∀ other ∈ ids, ¬ s.Circles other := by
      have keeps (w : ModeSet) (other : String) (x : ModeSet) (inside : s.Stuck w)
          (done : (ModeSet.activateWithin w depth other).map (·.2) = some x) : s.Stuck x := by
        obtain ⟨⟨activated, t⟩, ended, rfl⟩ := Option.map_eq_some_iff.mp done
        exact (ih inside other).2 activated t ended
      obtain ⟨kept, all⟩ := exists_of_foldlM keeps stuck followed
      refine ⟨kept, fun other among circles => ?_⟩
      obtain ⟨w, _, inside, done⟩ := all other among
      simp [(ih inside other).1 circles] at done
    have circling (circles : s.Circles id) : u.activateWithin (depth + 1) id = none := by
      obtain ⟨other, ⟨-, mode, known, depends, ne⟩, more⟩ := circles.exists_requires
      have among : other ∈ mode.dependencies.filter (· ≠ id) := by simpa using ⟨depends, ne⟩
      rw [ModeSet.activateWithin, found, known]
      simp only [stuck.inactive id circles, Bool.false_eq_true, if_false, Option.bind_eq_bind,
        Option.bind_eq_none_iff]
      intro v followed
      exact absurd more ((follows followed).2 other among)
    refine ⟨circling, fun activated t done => ?_⟩
    have outside (circles : s.Circles id) : False := by
      simp [circling circles] at done
    rw [ModeSet.activateWithin] at done
    split at done
    · obtain ⟨-, rfl⟩ := Prod.mk.inj (Option.some.inj done)
      exact stuck
    · next mode known =>
      split at done
      · obtain ⟨-, rfl⟩ := Prod.mk.inj (Option.some.inj done)
        exact stuck
      · simp only [Option.bind_eq_bind, Option.bind_eq_some_iff] at done
        obtain ⟨v, followed, done⟩ := done
        have inside := (follows followed).1
        split at done
        · obtain ⟨-, rfl⟩ := Prod.mk.inj (Option.some.inj done)
          exact inside
        · obtain ⟨-, rfl⟩ := Prod.mk.inj (Option.some.inj done)
          refine ⟨inside.known_eq, fun other circles => ?_⟩
          have ne : mode.id ≠ other := by
            rintro rfl
            exact outside (id_of_find? known ▸ circles)
          rw [isActive_start, inside.inactive other circles]
          simp [ne]

/-! ### Modes outside of circles -/

/-- What answers for each dependency where something holds, and keeps it, answers for all. -/
theorem exists_foldlM {activate? : ModeSet → String → Option ModeSet} {ids : List String}
    {Keeps : ModeSet → Prop}
    (each : ∀ u, Keeps u → ∀ id ∈ ids, ∃ v, activate? u id = some v ∧ Keeps v) (keeps : Keeps s) :
  ∃ t, ids.foldlM activate? s = some t
  := by
  induction ids generalizing s with
  | nil => exact ⟨s, rfl⟩
  | cons id ids ih =>
    obtain ⟨u, first, kept⟩ := each s keeps id List.mem_cons_self
    rw [List.foldlM_cons, first]
    exact ih (fun v inside other among => each v inside other (List.mem_cons_of_mem id among)) kept

/-- Different languages of known modes are no more than the modes. -/
theorem length_le_known {path : List String} (distinct : path.Nodup)
    (known : ∀ id ∈ path, (s.find? id).isSome) :
  path.length ≤ s.known.length
  := by
  have among : path ⊆ s.known.map (·.id) := by
    intro id listed
    obtain ⟨mode, found⟩ := Option.isSome_iff_exists.mp (known id listed)
    exact List.mem_map.mpr ⟨mode, List.mem_of_find?_eq_some found, id_of_find? found⟩
  have length_le := (List.subperm_of_subset distinct among).length_le
  rwa [List.length_map] at length_le

/--
Behind a path of modes that are different as there is no circle, activating a mode ends, as deep as
there are modes outside of the path.
-/
theorem exists_activateWithin_of_path {path : List String} {depth : Nat}
    (started : Relation.ReflTransGen (Starts fun _ => True) s u) (straight : ¬ s.Circles id)
    (distinct : path.Nodup) (known : ∀ on ∈ path, (s.find? on).isSome)
    (leads : ∀ on ∈ path, Relation.TransGen s.Requires on id)
    (enough : s.known.length < depth + path.length) :
  ∃ activated t, u.activateWithin depth id = some (activated, t)
  := by
  induction depth generalizing u id path with
  | zero =>
    have := length_le_known distinct known
    omega
  | succ depth ih =>
    rw [activateWithin]
    split
    · exact ⟨false, u, rfl⟩
    · next mode found =>
      split
      · exact ⟨false, u, rfl⟩
      · next inactive =>
        have here : s.find? id = some mode := by
          rw [← found, find?, find?, known_of_starts started]
        have before : s.isActive id = false := by
          rw [← Bool.not_eq_true]
          exact fun active => inactive (isActive_of_starts started active)
        have fresh : id ∉ path := fun among => straight ⟨id, .refl, leads id among⟩
        have each (v : ModeSet) (reached : Relation.ReflTransGen (Starts fun _ => True) s v) :
            ∀ dependency ∈ mode.dependencies.filter (· ≠ id),
              ∃ w, (activateWithin v depth dependency).map (·.2) = some w
                ∧ Relation.ReflTransGen (Starts fun _ => True) s w := by
          intro dependency among
          obtain ⟨depends, ne⟩ := List.mem_filter.mp among
          have requires : s.Requires id dependency :=
            ⟨before, mode, here, depends, by simpa using ne⟩
          have longer : s.known.length < depth + (id :: path).length := by
            rw [List.length_cons]
            omega
          obtain ⟨activated, w, done⟩ := ih reached
            (fun circles => straight (circles.head requires)) (distinct.cons fresh)
            (List.forall_mem_cons.mpr ⟨by simp [here], known⟩)
            (List.forall_mem_cons.mpr ⟨.single requires, fun on listed =>
              (leads on listed).tail requires⟩) longer
          exact ⟨w, by rw [done]; rfl,
            reached.trans (exists_starts v.dependsWithin_all trivial done).1⟩
        obtain ⟨v, followed⟩ := exists_foldlM each started
        rw [followed]
        dsimp only [Option.bind_eq_bind, Option.bind_some]
        split
        · exact ⟨false, v, rfl⟩
        · exact ⟨true, v.start mode, rfl⟩

theorem exists_activate?_of_not_circles (straight : ¬ s.Circles id) :
  ∃ activated t, s.activate? id = some (activated, t)
  := by
  have enough : s.known.length < s.known.length + 1 + ([] : List String).length := by simp
  exact exists_activateWithin_of_path .refl straight .nil (by simp) (by simp) enough

/-! ### Dependencies without circles -/

/-- A mode of a language names another language among its dependencies. -/
def DependsOn (modes : List Mode) (id other : String) : Prop :=
  ∃ mode ∈ modes, mode.id = id ∧ other ∈ mode.dependencies ∧ other ≠ id

/-- No modes depend on each other in a circle. -/
def Acyclic (modes : List Mode) : Prop :=
  ∀ id, ¬ Relation.TransGen (DependsOn modes) id id

theorem Acyclic.mono {modes others : List Mode} (acyclic : Acyclic others)
    (among : ∀ mode ∈ modes, mode ∈ others) :
  Acyclic modes
  := by
  have fewer : DependsOn modes ≤ DependsOn others :=
    fun _ _ ⟨mode, known, depends⟩ => ⟨mode, among mode known, depends⟩
  exact fun id around => acyclic id (Relation.TransGen.mono fewer id id around)

/-- Modes that depend on others of lower ranks only do not depend on each other in a circle. -/
theorem acyclic_of_rank {modes : List Mode} (rank : String → Nat)
    (falls : ∀ mode ∈ modes, ∀ id ∈ mode.dependencies, id ≠ mode.id → rank id < rank mode.id) :
  Acyclic modes
  := by
  intro id around
  have lower : rank id < rank id := by
    refine Relation.TransGen.trans_induction_on (motive := fun {a b} _ => rank b < rank a) around
      ?_ fun _ _ first second => second.trans first
    rintro _ other ⟨mode, known, rfl, depends, ne⟩
    apply falls mode known other depends ne
  apply Nat.lt_irrefl _ lower

/-- Modes that do not depend on each other in a circle do not lead into one. -/
theorem Acyclic.not_circles (acyclic : Acyclic s.known) (id : String) :
  ¬ s.Circles id
  := by
  have requires_le : s.Requires ≤ DependsOn s.known := by
    rintro _ _ ⟨-, mode, found, depends, ne⟩
    exact ⟨mode, List.mem_of_find?_eq_some found, id_of_find? found, depends, ne⟩
  rintro ⟨on, -, around⟩
  exact acyclic on (Relation.TransGen.mono requires_le on on around)

/-! ### Depth -/

/-- What is followed by some steps is followed by others that do the same. -/
theorem foldlM_mono {activate? deeper? : ModeSet → String → Option ModeSet} {ids : List String}
    (each : ∀ u id v, activate? u id = some v → deeper? u id = some v)
    (followed : ids.foldlM activate? s = some t) :
  ids.foldlM deeper? s = some t
  := by
  induction ids generalizing s with
  | nil => exact followed
  | cons id ids ih =>
    rw [List.foldlM_cons] at followed ⊢
    obtain ⟨u, first, rest⟩ := Option.bind_eq_some_iff.mp followed
    rw [each s id u first]
    exact ih rest

/-- An activation that ends does the same when dependencies may be followed deeper. -/
theorem activateWithin_mono {depth more : Nat} (le : depth ≤ more) {result : Bool × ModeSet}
    (done : s.activateWithin depth id = some result) :
  s.activateWithin more id = some result
  := by
  induction depth generalizing s id more result with
  | zero => simp [activateWithin] at done
  | succ depth ih =>
    obtain ⟨more, rfl⟩ := Nat.exists_eq_add_of_le' (Nat.le_trans (Nat.succ_pos depth) le)
    rw [activateWithin] at done ⊢
    split at done
    · exact done
    · split at done
      · next active => rwa [if_pos active]
      · next inactive =>
        rw [if_neg inactive]
        simp only [Option.bind_eq_bind, Option.bind_eq_some_iff] at done ⊢
        obtain ⟨u, followed, done⟩ := done
        refine ⟨u, foldlM_mono ?_ followed, done⟩
        intro v dependency w shallow
        obtain ⟨result, first, rfl⟩ := Option.map_eq_some_iff.mp shallow
        rw [ih (by omega) first, Option.map_some]

/--
Activating a mode ends exactly when it does not lead into a circle of modes that are not active, and
then the number of modes bounds how deep activations are nested in each other: what an activation
comes to at any depth is what it comes to.
-/
theorem activation_ends_iff (s : ModeSet) (id : String) :
  ((∃ depth result, s.activateWithin depth id = some result) ↔ ¬ s.Circles id)
    ∧ ∀ result, (∃ depth, s.activateWithin depth id = some result)
      ↔ s.activate? id = some result
  := by
  have ends (straight : ¬ s.Circles id) : ∃ result, s.activate? id = some result := by
    obtain ⟨activated, t, done⟩ := exists_activate?_of_not_circles straight
    exact ⟨_, done⟩
  have straight {depth : Nat} {result : Bool × ModeSet}
      (done : s.activateWithin depth id = some result) : ¬ s.Circles id := by
    intro circles
    rw [((stuck_refl s).activateWithin depth id).1 circles] at done
    simp at done
  refine ⟨⟨fun ⟨_, _, done⟩ => straight done, fun outside => ?_⟩, fun result => ⟨?_, ?_⟩⟩
  · obtain ⟨result, done⟩ := ends outside
    exact ⟨_, result, done⟩
  · rintro ⟨depth, done⟩
    obtain ⟨other, known⟩ := ends (straight done)
    have first := activateWithin_mono (Nat.le_max_left depth (s.known.length + 1)) done
    have second := activateWithin_mono (Nat.le_max_right depth (s.known.length + 1)) known
    rw [known, ← second, first]
  · intro done
    exact ⟨_, done⟩

/-- Two inactive modes that depend on each other, on themselves and on an unknown one. -/
def partners : ModeSet where
  known := [
    { id := "a", dependencies := ["a", "b"], provisions := [] },
    { id := "b", dependencies := ["unknown", "a"], provisions := [] }]

/-- Activating one of them never ends. -/
theorem activation_of_partners :
  ¬ ∃ depth result, partners.activateWithin depth "a" = some result
  := by
  have first : partners.Requires "a" "b" := ⟨rfl, _, rfl, by decide, by decide⟩
  have second : partners.Requires "b" "a" := ⟨rfl, _, rfl, by decide, by decide⟩
  rintro ⟨depth, result, done⟩
  have never := ((stuck_refl partners).activateWithin depth "a").1
    ⟨"a", .refl, .head first (.single second)⟩
  simp [never] at done

end EditorModes.ModeSet
