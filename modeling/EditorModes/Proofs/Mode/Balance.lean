import EditorModes.Proofs.Mode.Circle
import EditorModes.Proofs.Mode.Registrations
import Mathlib.Data.List.Induction

/-!
# Balance of activations

Where no modes depend on each other in a circle, activating a mode ends, and starts the mode after
the ones it depends on.  Whatever modes are added, activated and deactivated, the registries hold
what the active modes registered, in the order of their starts, and nothing else
(`ModeSet.Balanced`), so what an activation registered is taken back by the deactivation.
-/

namespace EditorModes.ModeSet

variable {s t : ModeSet}

/-! ### What activating does -/

theorem activate?_of_unknown {id : String} (unknown : s.find? id = none) :
  s.activate? id = some (false, s)
  := by
  rw [activate?, activateWithin, unknown]

theorem activate?_of_isActive {id : String} (active : s.isActive id = true) :
  s.activate? id = some (false, s)
  := by
  rw [activate?, activateWithin]
  split
  · rfl
  · rw [if_pos active]

/--
Without circles, a known mode that is not active is started, after other modes; those that it
depends on are active then, unless they are unknown.
-/
theorem exists_activate?_of_inactive (acyclic : Acyclic s.known) {id : String} {mode : Mode}
    (known : s.find? id = some mode) (inactive : s.isActive id = false) :
  ∃ u, Relation.ReflTransGen (Starts (Relation.TransGen (DependsOn s.known) id)) s u
    ∧ u.isActive id = false
    ∧ (∀ d ∈ mode.dependencies, d ≠ id → u.isActive d ∨ u.find? d = none)
    ∧ s.activate? id = some (true, u.start mode)
  := by
  have id_eq := id_of_find? known
  have among := List.mem_of_find?_eq_some known
  obtain ⟨activated, t, done⟩ := exists_activate?_of_not_circles (acyclic.not_circles id)
  rw [activate?, activateWithin, known] at done
  simp only [inactive, Bool.false_eq_true, if_false, Option.bind_eq_bind,
    Option.bind_eq_some_iff] at done
  obtain ⟨u, followed, -⟩ := done
  have within : s.DependsWithin (Relation.TransGen (DependsOn s.known) id) := by
    intro other known leads d depends
    by_cases own : d = other.id
    · rw [own]
      exact leads
    · apply leads.tail ⟨other, known, rfl, depends, own⟩
  have starts : Relation.ReflTransGen (Starts (Relation.TransGen (DependsOn s.known) id)) s u
      ∧ ∀ d ∈ mode.dependencies.filter (· ≠ id), u.isActive d ∨ u.find? d = none := by
    refine starts_of_foldlM ?_ followed
    intro v d w known_eq listed first
    obtain ⟨depends, other⟩ := List.mem_filter.mp listed
    obtain ⟨⟨_, w⟩, done, rfl⟩ := Option.map_eq_some_iff.mp first
    have still : v.DependsWithin (Relation.TransGen (DependsOn s.known) id) := by
      rw [DependsWithin, known_eq]
      exact within
    apply exists_starts still (.single ⟨mode, among, id_eq, depends, by simpa using other⟩) done
  have unstarted : u.isActive id = false := by
    rw [isActive_of_starts_of_not starts.1 (acyclic id), inactive]
  refine ⟨u, starts.1, unstarted, fun d depends other => starts.2 d ?_, ?_⟩
  · simpa using ⟨depends, other⟩
  · rw [activate?, activateWithin, known]
    simp only [inactive, Bool.false_eq_true, if_false]
    rw [followed]
    simp [unstarted]

/--
Without circles, activating a mode ends, and starts modes.  It says that the mode was activated when
it is known and was not active; the mode and the known ones that it depends on are active then.
-/
theorem exists_activate? (acyclic : Acyclic s.known) (id : String) :
  ∃ activated t, s.activate? id = some (activated, t)
    ∧ Relation.ReflTransGen (Starts fun _ => True) s t
    ∧ (activated = true ↔ (s.find? id).isSome ∧ s.isActive id = false)
    ∧ (activated = true → t.isActive id ∧ ∀ mode, s.find? id = some mode →
      ∀ d ∈ mode.dependencies, (s.find? d).isSome → t.isActive d)
  := by
  cases known : s.find? id with
  | none => exact ⟨_, _, activate?_of_unknown known, .refl, by simp, by simp⟩
  | some mode =>
    cases active : s.isActive id with
    | true => exact ⟨_, _, activate?_of_isActive active, .refl, by simp, by simp⟩
    | false =>
      obtain ⟨u, started, -, settled, done⟩ := exists_activate?_of_inactive acyclic known active
      have id_eq := id_of_find? known
      refine ⟨_, _, done, (exists_starts s.dependsWithin_all trivial done).1, by simp, fun _ => ?_⟩
      refine ⟨by simp [isActive_start, id_eq], ?_⟩
      rintro _ ⟨⟩ d depends there
      rw [isActive_start]
      by_cases own : d = id
      · simp [own, id_eq]
      · have unsettled : u.find? d ≠ none := by
          rw [find?, known_of_starts started]
          apply Option.isSome_iff_ne_none.mp there
        rw [(settled d depends own).resolve_right unsettled, Bool.true_or]

/-- Starts add active modes behind those that are. -/
theorem exists_active_append {allowed : String → Prop}
    (started : Relation.ReflTransGen (Starts allowed) s t) :
  ∃ added, t.active = s.active ++ added
  := by
  induction started with
  | refl => exact ⟨[], by simp⟩
  | tail _ last ih =>
    obtain ⟨added, active_eq⟩ := ih
    cases last with
    | start =>
      simp only [start, active_eq, List.append_assoc]
      exact ⟨_, rfl⟩

/-! ### Balance -/

/--
No two active modes are for one language, each has its registrations, and the registries hold the
entries of the active modes, in their order.
-/
structure Balanced (s : ModeSet) : Prop where
  distinct : (s.active.map (·.mode.id)).Nodup
  made : ∀ a ∈ s.active, a.IsMade
  numbered : s.features.Numbered
  entries_eq : ∀ shelf, (s.features.registry shelf).entries = s.active.flatMap (·.entries shelf)

/-- Where nothing is active, the registries are empty. -/
theorem balanced_empty :
  Balanced {}
  := by
  constructor
  · simp
  · simp
  · intro shelf
    cases shelf <;> constructor <;> simp [Features.registry, Registry.map]
  · intro shelf
    cases shelf <;> rfl

theorem Balanced.add (balanced : s.Balanced) (mode : Mode) :
  (s.add mode).Balanced
  := ⟨balanced.distinct, balanced.made, balanced.numbered, balanced.entries_eq⟩

/-- Starting a mode that is not active adds its entries. -/
theorem Balanced.start (balanced : s.Balanced) {mode : Mode}
    (inactive : s.isActive mode.id = false) :
  (s.start mode).Balanced
  := by
  constructor
  · have fresh : mode.id ∉ s.active.map (·.mode.id) := by
      simpa [isActive] using inactive
    rw [ModeSet.start, List.map_append, List.nodup_append]
    refine ⟨balanced.distinct, List.nodup_singleton _, ?_⟩
    rintro id among _ own rfl
    rw [List.map_singleton, List.mem_singleton] at own
    apply fresh (own ▸ among)
  · intro a among
    rcases List.mem_append.mp among with before | new
    · apply balanced.made a before
    · rw [List.mem_singleton.mp new]
      apply s.features.isMade_registerAll mode
  · apply balanced.numbered.registerAll mode.id mode.provisions
  · intro shelf
    have added := s.features.entries_registerAll mode shelf
    rw [balanced.entries_eq] at added
    simpa [ModeSet.start] using added

theorem Balanced.of_starts {allowed : String → Prop} (balanced : s.Balanced)
    (started : Relation.ReflTransGen (Starts allowed) s t) :
  t.Balanced
  := by
  induction started with
  | refl => exact balanced
  | tail _ last ih =>
    cases last with
    | start known inactive => apply ih.start inactive

theorem Balanced.others_ne (balanced : s.Balanced) {a : ActiveMode} {before after : List ActiveMode}
    (active_eq : s.active = before ++ a :: after) :
  ∀ b ∈ before ++ after, b.mode.id ≠ a.mode.id
  := by
  have distinct := balanced.distinct
  rw [active_eq, List.map_append, List.map_cons, List.nodup_middle, List.nodup_cons,
    ← List.map_append] at distinct
  intro b listed same
  apply distinct.1 (List.mem_map.mpr ⟨b, listed, same⟩)

/-- Deactivating an active mode takes it out and takes its registrations back. -/
theorem Balanced.deactivate_of_mem (balanced : s.Balanced) {a : ActiveMode}
    (among : a ∈ s.active) :
  s.deactivate a.mode.id = (true,
    { s with
      features := a.registrations.foldl Features.dispose s.features
      active := s.active.filter (·.mode.id ≠ a.mode.id) })
  := by
  obtain ⟨before, after, active_eq⟩ := List.append_of_mem among
  have others := balanced.others_ne active_eq
  have earlier : before.find? (·.mode.id = a.mode.id) = none := by
    apply List.find?_eq_none.mpr
    intro b listed
    simpa using others b (List.mem_append_left _ listed)
  have found : s.active.find? (·.mode.id = a.mode.id) = some a := by
    rw [active_eq, List.find?_append, earlier]
    simp
  rw [ModeSet.deactivate, found]

/-- Deactivating a mode takes back the entries of its activation, and no others. -/
theorem Balanced.entries_deactivate (balanced : s.Balanced) {a : ActiveMode}
    (among : a ∈ s.active) :
  ∃ before after, s.active = before ++ a :: after
    ∧ (s.deactivate a.mode.id).2.active = before ++ after
    ∧ ∀ shelf, ((s.deactivate a.mode.id).2.features.registry shelf).entries
      = (before ++ after).flatMap (·.entries shelf)
  := by
  obtain ⟨before, after, active_eq⟩ := List.append_of_mem among
  rw [balanced.deactivate_of_mem among]
  refine ⟨before, after, active_eq, ?_, fun shelf => ?_⟩
  · have kept : (before ++ after).filter (·.mode.id ≠ a.mode.id) = before ++ after :=
      List.filter_eq_self.mpr fun b listed => by simpa using balanced.others_ne active_eq b listed
    dsimp only
    rw [active_eq, List.filter_append, List.filter_cons_of_neg (by simp), ← List.filter_append,
      kept]
  · have made := balanced.made a among
    have in_order := (balanced.numbered shelf).in_order
    dsimp only
    rw [Features.entries_dispose _ made.kept, ← made.numbers_entries]
    rw [balanced.entries_eq, active_eq, List.flatMap_append, List.flatMap_cons] at in_order ⊢
    rw [Registered.filter_others in_order, List.flatMap_append]

/-- Whether a mode is deactivated depends on whether it is active. -/
theorem deactivate_fst (s : ModeSet) (id : String) :
  (s.deactivate id).1 = s.isActive id
  := by
  rw [deactivate]
  split
  · next absent => simpa [isActive] using absent
  · next a found =>
    have own := List.find?_some found
    apply (List.any_eq_true.mpr ⟨a, List.mem_of_find?_eq_some found, own⟩).symm

theorem deactivate_of_inactive {id : String} (inactive : s.isActive id = false) :
  s.deactivate id = (false, s)
  := by
  have absent : s.active.find? (·.mode.id = id) = none := by
    simpa [isActive] using inactive
  rw [deactivate, absent]

/-- Deactivating a mode keeps the balance. -/
theorem Balanced.deactivate (balanced : s.Balanced) (id : String) :
  (s.deactivate id).2.Balanced
  := by
  cases active : s.isActive id with
  | false =>
    rw [deactivate_of_inactive active]
    exact balanced
  | true =>
    obtain ⟨a, among, own⟩ := List.any_eq_true.mp active
    obtain rfl : a.mode.id = id := by simpa using own
    obtain ⟨before, after, active_eq, left_eq, entries_eq⟩ := balanced.entries_deactivate among
    have fewer : (before ++ after).Sublist s.active := by
      rw [active_eq]
      apply (List.sublist_cons_self _ _).append_left _
    constructor
    · rw [left_eq]
      apply balanced.distinct.sublist (fewer.map _)
    · rw [left_eq]
      intro b listed
      apply balanced.made b (fewer.subset listed)
    · rw [balanced.deactivate_of_mem among]
      apply balanced.numbered.dispose
    · rw [left_eq]
      exact entries_eq

/-- The registries hold as many entries as the active modes have registrations. -/
theorem Balanced.size_eq (balanced : s.Balanced) :
  s.features.size = (s.active.map (·.registrations.length)).sum
  := by
  rw [Features.size_eq_sum]
  simp only [balanced.entries_eq]
  have made := balanced.made
  generalize s.active = active at made
  induction active with
  | nil => simp
  | cons a active ih =>
    obtain ⟨first, others⟩ := List.forall_mem_cons.mp made
    simp only [List.flatMap_cons, List.length_append, List.sum_map_add, ih others,
      first.sum_length_entries, List.map_cons, List.sum_cons]

/-! ### Runs -/

/-- What is done to the modes. -/
inductive Operation where
  | add (mode : Mode)
  | activate (id : String)
  | deactivate (id : String)

/-- The modes after an operation, unless it never ends. -/
def perform? (s : ModeSet) : Operation → Option ModeSet
  | .add mode => some (s.add mode)
  | .activate id => (s.activate? id).map (·.2)
  | .deactivate id => some (s.deactivate id).2

/-- The modes after operations one after another, when nothing is known before. -/
def run? (ops : List Operation) : Option ModeSet :=
  ops.foldlM perform? {}

/-- The modes that operations add. -/
def added (ops : List Operation) : List Mode :=
  ops.filterMap fun
    | .add mode => some mode
    | _ => none

theorem run?_concat (ops : List Operation) (op : Operation) :
  run? (ops ++ [op]) = (run? ops).bind fun s => s.perform? op
  := by
  rw [run?, run?, List.foldlM_append]
  cases ops.foldlM perform? {} <;> simp

theorem known_deactivate (s : ModeSet) (id : String) :
  (s.deactivate id).2.known = s.known
  := by
  rw [deactivate]
  split <;> rfl

/-- Without circles, operations one after another end in balance, with added modes only. -/
theorem exists_run?_balanced {ops : List Operation} (acyclic : Acyclic (added ops)) :
  ∃ s, run? ops = some s ∧ s.Balanced ∧ ∀ mode ∈ s.known, mode ∈ added ops
  := by
  induction ops using List.reverseRecOn with
  | nil => exact ⟨{}, rfl, balanced_empty, by simp⟩
  | append_singleton ops op ih =>
    have added_eq : added (ops ++ [op]) = added ops ++ added [op] := List.filterMap_append
    rw [added_eq] at acyclic ⊢
    obtain ⟨s, run_eq, balanced, known⟩ :=
      ih (acyclic.mono fun mode before => List.mem_append_left _ before)
    rw [run?_concat, run_eq, Option.bind_some]
    cases op with
    | add mode =>
      refine ⟨_, rfl, balanced.add mode, fun other among => ?_⟩
      rcases List.mem_append.mp among with before | new
      · apply List.mem_append_left _ (known other (List.mem_filter.mp before).1)
      · apply List.mem_append_right _ new
    | activate id =>
      have below : Acyclic s.known :=
        acyclic.mono fun mode among => List.mem_append_left _ (known mode among)
      obtain ⟨activated, t, done, started, -⟩ := exists_activate? below id
      refine ⟨t, by rw [perform?, done]; rfl, balanced.of_starts started, fun mode among => ?_⟩
      rw [known_of_starts started] at among
      apply List.mem_append_left _ (known mode among)
    | deactivate id =>
      refine ⟨_, rfl, balanced.deactivate id, fun mode among => ?_⟩
      rw [known_deactivate] at among
      apply List.mem_append_left _ (known mode among)

/--
Modes without circles are added, activated and deactivated, one after another.  Then activating
a mode ends; it says that the mode was activated exactly when it is known and was not active, and
then the mode is active and so are the known ones that it depends on; the entries of the modes that
are started come behind all others.  Deactivating says whether the mode was active, and removes the
entries of its activation from each registry, where the other entries stay in their order.  The
registries hold as many entries as the active modes have registrations, one for each provision, and
are empty when no mode is active.
-/
theorem run?_balances (ops : List Operation) (acyclic : Acyclic (added ops)) :
  ∃ s, run? ops = some s
    ∧ (∀ id, ∃ activated t, s.activate? id = some (activated, t)
      ∧ (activated = true ↔ (s.find? id).isSome ∧ s.isActive id = false)
      ∧ (activated = true → t.isActive id ∧ ∀ mode, s.find? id = some mode →
        ∀ d ∈ mode.dependencies, (s.find? d).isSome → t.isActive d)
      ∧ ∃ started, t.active = s.active ++ started ∧ ∀ shelf,
        (t.features.registry shelf).entries
          = (s.features.registry shelf).entries ++ started.flatMap (·.entries shelf))
    ∧ (∀ id, ((s.deactivate id).1 = true ↔ s.isActive id)
      ∧ (s.isActive id = false → (s.deactivate id).2 = s)
      ∧ ∀ a ∈ s.active, a.mode.id = id → ∀ shelf, ∃ before after,
        (s.features.registry shelf).entries = before ++ a.entries shelf ++ after
          ∧ ((s.deactivate id).2.features.registry shelf).entries = before ++ after)
    ∧ s.features.size = (s.active.map (·.registrations.length)).sum
    ∧ (∀ a ∈ s.active, a.registrations.length = a.mode.provisions.length)
    ∧ (s.active = [] → ∀ shelf, (s.features.registry shelf).entries = [])
  := by
  obtain ⟨s, run_eq, balanced, known⟩ := exists_run?_balanced acyclic
  refine ⟨s, run_eq, fun id => ?_, fun id => ⟨?_, ?_, ?_⟩, balanced.size_eq,
    fun a among => (balanced.made a among).length_eq, ?_⟩
  · obtain ⟨activated, t, done, started, activated_iff, active⟩ :=
      exists_activate? (acyclic.mono known) id
    obtain ⟨added, active_eq⟩ := exists_active_append started
    refine ⟨activated, t, done, activated_iff, active, added, active_eq, fun shelf => ?_⟩
    rw [(balanced.of_starts started).entries_eq, balanced.entries_eq, active_eq,
      List.flatMap_append]
  · rw [deactivate_fst]
  · intro inactive
    rw [deactivate_of_inactive inactive]
  · rintro a among rfl shelf
    obtain ⟨before, after, active_eq, -, entries_eq⟩ := balanced.entries_deactivate among
    refine ⟨before.flatMap (·.entries shelf), after.flatMap (·.entries shelf), ?_, ?_⟩
    · rw [balanced.entries_eq, active_eq, List.flatMap_append, List.flatMap_cons,
        List.append_assoc]
    · rw [entries_eq, List.flatMap_append]
  · intro none shelf
    rw [balanced.entries_eq, none, List.flatMap_nil]

/-- A mode that needs another is replaced while it is active, and the other one is deactivated. -/
def pages : List Operation :=
  [.add ⟨"page", ["style", "page", "script"], [.service .hover .words, .service .links .words],
      false⟩,
    .add ⟨"style", [], [.service .hover .stylesheets], false⟩,
    .activate "page",
    .add ⟨"page", [], [], false⟩]

/-- Both modes are active then, with three entries; the mode that is missing cannot be activated. -/
theorem run?_balances_pages :
  ∃ s, run? pages = some s ∧ s.isActive "page" ∧ s.features.size = 3
    ∧ (s.deactivate "style").1 = true ∧ ∃ t, s.activate? "script" = some (false, t)
  := by
  have acyclic : Acyclic (added pages) :=
    acyclic_of_rank (fun id => if id = "page" then 1 else 0) (by decide)
  obtain ⟨s, run_eq, activates, deactivates, size_eq, -⟩ := run?_balances pages acyclic
  have seen : (run? pages).map (fun s => (s.isActive "page", s.isActive "style",
      (s.find? "script").isSome, s.active.map (·.registrations.length)))
      = some (true, true, false, [1, 2]) := by decide
  simp only [run_eq, Option.map_some, Option.some.injEq, Prod.mk.injEq] at seen
  obtain ⟨page, style, unknown, lengths_eq⟩ := seen
  refine ⟨s, run_eq, page, by rw [size_eq, lengths_eq]; rfl, (deactivates _).1.mpr style, ?_⟩
  obtain ⟨activated, t, done, activated_iff, -⟩ := activates "script"
  obtain rfl : activated = false := by simpa [unknown] using activated_iff
  exact ⟨t, done⟩

end EditorModes.ModeSet
