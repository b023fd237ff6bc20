import EditorModes.Mode.Set
import EditorModes.Proofs.Registry.Order
import Mathlib.Algebra.BigOperators.Group.List.Basic
import Mathlib.Algebra.GroupWithZero.Nat

/-!
# Registrations of modes

The registries hold providers of different types, and are looked at here as shelves of provisions.
Registering the provisions of a mode adds the entries of its activation behind those that are there
(`Features.entries_registerAll`), and taking the registrations back removes these entries and no
others (`Features.entries_dispose`).
-/

namespace EditorModes

/-! ### Numbers of registrations -/

/-- The entry of another provider. -/
def Registered.map (g : P → Q) (e : Registered P) : Registered Q where
  number := e.number
  selector := e.selector
  score := e.score
  provider := g e.provider

/-- Among entries in the order of their numbers, no others have the numbers of some of them. -/
theorem Registered.filter_others {before own after : List (Registered P)}
    (in_order : (before ++ (own ++ after)).Pairwise (·.number < ·.number)) :
  (before ++ (own ++ after)).filter (·.number ∉ own.map (·.number)) = before ++ after
  := by
  rw [List.pairwise_append, List.pairwise_append] at in_order
  obtain ⟨-, ⟨-, -, own_lt⟩, lt_own⟩ := in_order
  have own_gone : own.filter (·.number ∉ own.map (·.number)) = [] := by
    apply List.filter_eq_nil_iff.mpr
    intro e among
    simpa using ⟨e, among, rfl⟩
  have others_kept : ∀ e, e ∈ before ∨ e ∈ after → e.number ∉ own.map (·.number) := by
    intro e stays taken
    obtain ⟨other, among, same⟩ := List.mem_map.mp taken
    rcases stays with earlier | later
    · have := lt_own e earlier other (List.mem_append_left _ among)
      omega
    · have := own_lt other among e later
      omega
  rw [List.filter_append, List.filter_append, own_gone, List.nil_append,
    List.filter_eq_self.mpr fun e earlier => decide_eq_true (others_kept e (.inl earlier)),
    List.filter_eq_self.mpr fun e later => decide_eq_true (others_kept e (.inr later))]

namespace Registry

variable {r : Registry P}

/-- The registry of other providers. -/
def map (g : P → Q) (r : Registry P) : Registry Q where
  entries := r.entries.map (·.map g)
  registrations := r.registrations
  changes := r.changes

theorem map_register (g : P → Q) (r : Registry P) (selector : Selector) (score : Int)
    (provider : P) :
  (r.register selector score provider).2.map g
    = ((r.map g).register selector score (g provider)).2
  := by
  simp [register, map, Registered.map]

/-- A handle takes back the same entry of the registry of other providers. -/
theorem map_dispose (g : P → Q) (r : Registry P) (h : Handle) :
  (r.dispose h).2.map g = ((r.map g).dispose h).2
  := by
  simp only [dispose, remove, map, Registered.map, List.any_map, List.filter_map,
    Function.comp_def]
  split
  · rfl
  · split <;> simp

end Registry

/-! ### Registries as shelves -/

/-- All registries. -/
def Shelf.all : List Shelf :=
  .tokenizers :: .richEdit :: ServiceKind.all.map .services

theorem Shelf.sum_all (shelf : Shelf) :
  (all.map fun other => if shelf = other then 1 else 0).sum = 1
  := by
  cases shelf with
  | tokenizers | richEdit => rfl
  | services kind => cases kind <;> rfl

namespace Provision

/-- The registry that a provision goes to. -/
def shelf : Provision → Shelf
  | tokenizer _ => .tokenizers
  | richEdit _ => .richEdit
  | service kind _ => .services kind

/-- The documents that a provision of a mode for a language is registered for. -/
def selector (language : String) : Provision → Selector
  | tokenizer t => .ofLanguage t.language
  | richEdit _ | service .. => .ofLanguage language

end Provision

namespace Features

/-- A registry with its providers as provisions. -/
def registry (f : Features) : Shelf → Registry Provision
  | .tokenizers => Registry.map .tokenizer f.tokenizers
  | .richEdit => f.richEdit.map .richEdit
  | .services kind => (f.services kind).map (.service kind)

variable {f : Features}

/-- A provision is registered on its shelf; the other registries stay as they are. -/
theorem registry_register (f : Features) (language : String) (p : Provision) (shelf : Shelf) :
  (f.register language p).2.registry shelf
    = if p.shelf = shelf then ((f.registry shelf).register (p.selector language) 0 p).2
      else f.registry shelf
  := by
  cases p with
  | tokenizer t => cases shelf <;> simp [register, registry, Provision.shelf, Provision.selector,
      TokenizerRegistry.add, Registry.map_register]
  | richEdit support => cases shelf <;> simp [register, registry, Provision.shelf,
      Provision.selector, Registry.map_register]
  | service kind service =>
    cases shelf with
    | tokenizers | richEdit => simp [register, registry, Provision.shelf, setServices]
    | services other =>
      by_cases same : other = kind
      · subst same
        simp [register, registry, Provision.shelf, Provision.selector, setServices,
          Registry.map_register]
      · simp [register, registry, Provision.shelf, setServices, same, Ne.symm same]

theorem registration_register (f : Features) (language : String) (p : Provision) :
  (f.register language p).1 = ⟨p.shelf, ⟨(f.registry p.shelf).registrations, false⟩⟩
  := by
  cases p <;> rfl

/-- A registration is taken back from its registry; the others stay as they are. -/
theorem registry_dispose (f : Features) (r : Registration) (shelf : Shelf) :
  (f.dispose r).registry shelf
    = if r.shelf = shelf then ((f.registry shelf).dispose r.handle).2 else f.registry shelf
  := by
  obtain ⟨own, handle⟩ := r
  cases own with
  | tokenizers | richEdit => cases shelf <;> simp [dispose, registry, Registry.map_dispose]
  | services kind =>
    cases shelf with
    | tokenizers | richEdit => simp [dispose, registry, setServices]
    | services other =>
      by_cases same : other = kind
      · subst same
        simp [dispose, registry, setServices, Registry.map_dispose]
      · simp [dispose, registry, setServices, same, Ne.symm same]

/-- The provisions in all registries are those on all shelves. -/
theorem size_eq_sum (f : Features) :
  f.size = (Shelf.all.map fun shelf => (f.registry shelf).entries.length).sum
  := by
  have tokenizers_eq : (f.registry .tokenizers).entries.length = f.tokenizers.size :=
    List.length_map _
  have rich_edit_eq : (f.registry .richEdit).entries.length = f.richEdit.size :=
    List.length_map _
  have services_eq (kind : ServiceKind) :
      (f.registry (.services kind)).entries.length = (f.services kind).size :=
    List.length_map _
  rw [size, Shelf.all, List.map_cons, List.map_cons, List.sum_cons, List.sum_cons, List.map_map,
    Function.comp_def, List.sum_eq_foldl]
  simp only [tokenizers_eq, rich_edit_eq, services_eq, Nat.add_assoc]

/-- The numbers are given in order in every registry. -/
def Numbered (f : Features) : Prop :=
  ∀ shelf, (f.registry shelf).Numbered

/-- More provisions are numbered on. -/
theorem Numbered.registerAll (numbered : f.Numbered) (language : String)
    (provisions : List Provision) :
  (f.registerAll language provisions).2.Numbered
  := by
  induction provisions generalizing f with
  | nil => exact numbered
  | cons p provisions ih =>
    have first : (f.register language p).2.Numbered := by
      intro shelf
      rw [registry_register]
      split
      · apply (numbered shelf).register
      · apply numbered shelf
    apply ih first

/-- What is left when registrations are taken back keeps its numbers. -/
theorem Numbered.dispose (numbered : f.Numbered) (registrations : List Registration) :
  (registrations.foldl Features.dispose f).Numbered
  := by
  induction registrations generalizing f with
  | nil => exact numbered
  | cons r registrations ih =>
    have first : (f.dispose r).Numbered := by
      intro shelf
      rw [registry_dispose]
      split
      · apply (numbered shelf).dispose
      · apply numbered shelf
    apply ih first

end Features

/-! ### What an activation registers -/

/-- The number that a registration has in a registry, when it is one of its registrations. -/
def Registration.number? (r : Registration) (shelf : Shelf) : Option Nat :=
  if r.shelf = shelf then some r.handle.number else none

/-- In all registries together there are as many registrations as there are. -/
theorem Registration.sum_length_filterMap (registrations : List Registration) :
  (Shelf.all.map fun shelf => (registrations.filterMap (·.number? shelf)).length).sum
    = registrations.length
  := by
  induction registrations with
  | nil => simp
  | cons r registrations ih =>
    have split_eq (shelf : Shelf) : ((r :: registrations).filterMap (·.number? shelf)).length
        = (if r.shelf = shelf then 1 else 0)
          + (registrations.filterMap (·.number? shelf)).length := by
      rw [List.filterMap_cons, number?]
      by_cases own : r.shelf = shelf
      · simp [own, Nat.add_comm]
      · simp [own]
    simp only [split_eq, List.sum_map_add, Shelf.sum_all, ih, List.length_cons, Nat.add_comm]

/-- The entry of a registry for a provision with its registration, when it is in that registry. -/
def Provision.registered? (p : Provision) (language : String) (r : Registration) (shelf : Shelf) :
    Option (Registered Provision) :=
  (r.number? shelf).map fun number => ⟨number, p.selector language, 0, p⟩

namespace ActiveMode

/-- The entries of a registry that an activation made. -/
def entries (a : ActiveMode) (shelf : Shelf) : List (Registered Provision) :=
  (a.mode.provisions.zip a.registrations).filterMap fun (p, r) => p.registered? a.mode.id r shelf

/-- There is a registration for each provision, and none is taken back. -/
structure IsMade (a : ActiveMode) : Prop where
  length_eq : a.registrations.length = a.mode.provisions.length
  kept : ∀ r ∈ a.registrations, r.handle.disposed = false

variable {a : ActiveMode}

/-- The entries that an activation made have the numbers of its registrations. -/
theorem IsMade.numbers_entries (made : a.IsMade) (shelf : Shelf) :
  (a.entries shelf).map (·.number) = a.registrations.filterMap (·.number? shelf)
  := by
  have numbers_eq (x : Provision × Registration) :
      (x.1.registered? a.mode.id x.2 shelf).map (·.number) = x.2.number? shelf := by
    simp [Provision.registered?, Function.comp_def]
  have registrations_eq : a.registrations
      = (a.mode.provisions.zip a.registrations).map Prod.snd :=
    (List.map_snd_zip (Nat.le_of_eq made.length_eq)).symm
  rw [entries, List.map_filterMap]
  simp only [numbers_eq]
  conv_rhs => rw [registrations_eq, List.filterMap_map]
  rfl

/-- In all registries together an activation made as many entries as it has registrations. -/
theorem IsMade.sum_length_entries (made : a.IsMade) :
  (Shelf.all.map fun shelf => (a.entries shelf).length).sum = a.registrations.length
  := by
  rw [← Registration.sum_length_filterMap]
  congr 2
  funext shelf
  rw [← made.numbers_entries, List.length_map]

end ActiveMode

namespace Features

/-- Registering the provisions of a mode adds the entries of its activation to each registry. -/
theorem entries_registerAll (f : Features) (mode : Mode) (shelf : Shelf) :
  ((f.registerAll mode.id mode.provisions).2.registry shelf).entries
    = (f.registry shelf).entries
      ++ ActiveMode.entries ⟨mode, (f.registerAll mode.id mode.provisions).1⟩ shelf
  := by
  simp only [ActiveMode.entries]
  generalize mode.id = language
  generalize mode.provisions = provisions
  induction provisions generalizing f with
  | nil => simp [registerAll]
  | cons p provisions ih =>
    simp only [registerAll, List.zip_cons_cons, List.filterMap_cons]
    rw [ih, registry_register, registration_register]
    by_cases own : p.shelf = shelf
    · subst own
      simp [Registry.register, Provision.registered?, Registration.number?]
    · simp [own, Provision.registered?, Registration.number?]

/-- The registrations of a mode are made. -/
theorem isMade_registerAll (f : Features) (mode : Mode) :
  ActiveMode.IsMade ⟨mode, (f.registerAll mode.id mode.provisions).1⟩
  := by
  suffices made : ∀ language (provisions : List Provision),
      (f.registerAll language provisions).1.length = provisions.length
        ∧ ∀ r ∈ (f.registerAll language provisions).1, r.handle.disposed = false from
    ⟨(made _ _).1, (made _ _).2⟩
  intro language provisions
  induction provisions generalizing f with
  | nil => simp [registerAll]
  | cons p provisions ih =>
    obtain ⟨length_eq, kept⟩ := ih (f.register language p).2
    have first : (f.register language p).1.handle.disposed = false := by
      rw [registration_register]
    exact ⟨congrArg Nat.succ length_eq, List.forall_mem_cons.mpr ⟨first, kept⟩⟩

/-- Taking registrations back removes their entries from the registries, and no others. -/
theorem entries_dispose (f : Features) {registrations : List Registration}
    (kept : ∀ r ∈ registrations, r.handle.disposed = false) (shelf : Shelf) :
  ((registrations.foldl dispose f).registry shelf).entries
    = (f.registry shelf).entries.filter
        (·.number ∉ registrations.filterMap (·.number? shelf))
  := by
  induction registrations generalizing f with
  | nil => simp
  | cons r registrations ih =>
    obtain ⟨first, others⟩ := List.forall_mem_cons.mp kept
    rw [List.foldl_cons, ih _ others, registry_dispose, List.filterMap_cons,
      Registration.number?]
    by_cases own : r.shelf = shelf
    · simp [own, Registry.dispose, first, Registry.entries_remove, Bool.and_comm]
    · simp [own]

end Features

end EditorModes
