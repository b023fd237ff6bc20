import Mathlib.Data.List.Basic
import Mathlib.Data.List.Forall2

/-!
# Computations that may fail

One computation after another and a mapping of a list: neither fails when no part of it does.  Also
what is found under a name in a list, alone and in two lists that agree in their names.
-/

namespace EditorModes

/-! ### Computations and mappings -/

theorem bind_eq_ok_iff {x : Except ε α} {f : α → Except ε β} {b : β} :
  x >>= f = .ok b ↔ ∃ a, x = .ok a ∧ f a = .ok b
  := by
  cases x <;> simp [bind, Except.bind]

theorem toOption_eq_some_iff {x : Except ε α} {a : α} :
  x.toOption = some a ↔ x = .ok a
  := by
  cases x <;> simp [Except.toOption]

theorem map_eq_error_iff {x : Except ε α} {f : α → β} {e : ε} :
  x.map f = .error e ↔ x = .error e
  := by
  cases x <;> simp [Except.map]

/-- A mapping that does not fail takes each member to one. -/
theorem forall₂_of_mapM {f : α → Except ε β} {l : List α} {results : List β}
    (mapped : l.mapM f = .ok results) :
  List.Forall₂ (fun a b => f a = .ok b) l results
  := by
  induction l generalizing results with
  | nil =>
    obtain rfl : [] = results := Except.ok.inj mapped
    exact .nil
  | cons a l ih =>
    rw [List.mapM_cons, bind_eq_ok_iff] at mapped
    obtain ⟨b, first, mapped⟩ := mapped
    obtain ⟨others, rest, made⟩ := bind_eq_ok_iff.mp mapped
    obtain rfl := Except.ok.inj made
    exact .cons first (ih rest)

theorem mapM_eq_ok_of_forall₂ {f : α → Except ε β} {l : List α} {results : List β}
    (all : List.Forall₂ (fun a b => f a = .ok b) l results) :
  l.mapM f = .ok results
  := by
  induction all with
  | nil => rfl
  | cons first _ ih =>
    rw [List.mapM_cons, first, ih]
    rfl

/-- Lists that are related member by member have related members. -/
theorem exists_of_mem_forall₂ {R : α → β → Prop} {l : List α} {others : List β}
    (all : List.Forall₂ R l others) {b : β} (among : b ∈ others) :
  ∃ a ∈ l, R a b
  := by
  induction all with
  | nil => simp at among
  | cons first _ ih =>
    rcases List.mem_cons.mp among with rfl | later
    · exact ⟨_, List.mem_cons_self, first⟩
    · obtain ⟨a, listed, related⟩ := ih later
      exact ⟨a, List.mem_cons_of_mem _ listed, related⟩

theorem exists_of_mem_mapM {f : α → Except ε β} {l : List α} {results : List β} {b : β}
    (mapped : l.mapM f = .ok results) (among : b ∈ results) :
  ∃ a ∈ l, f a = .ok b
  := exists_of_mem_forall₂ (forall₂_of_mapM mapped) among

/-- A mapping that fails for no member does not fail. -/
theorem exists_mapM_eq_ok_iff {f : α → Except ε β} {l : List α} :
  (∃ results, l.mapM f = .ok results) ↔ ∀ a ∈ l, ∃ b, f a = .ok b
  := by
  constructor
  · rintro ⟨results, mapped⟩ a among
    obtain ⟨b, -, made⟩ := exists_of_mem_forall₂ (forall₂_of_mapM mapped).flip among
    exact ⟨b, made⟩
  · intro each
    induction l with
    | nil => exact ⟨[], rfl⟩
    | cons a l ih =>
      obtain ⟨b, first⟩ := each a List.mem_cons_self
      obtain ⟨others, rest⟩ := ih fun a among => each a (List.mem_cons_of_mem _ among)
      refine ⟨b :: others, ?_⟩
      rw [List.mapM_cons, first, rest]
      rfl

/-- Of two lists that are related to one, the second is the first with each member changed. -/
theorem eq_map_of_forall₂ {R : α → β → Prop} {S : α → γ → Prop} {f : β → γ} {l : List α}
    {first : List β} {second : List γ} (changed : ∀ a b c, R a b → S a c → c = f b)
    (all : List.Forall₂ R l first) (others : List.Forall₂ S l second) :
  second = first.map f
  := by
  induction all generalizing second with
  | nil =>
    cases others
    rfl
  | cons related _ ih =>
    cases others with
    | cons related' rest => rw [List.map_cons, ← changed _ _ _ related related', ih rest]

/-! ### Names -/

theorem lookup_isSome_iff_mem {l : List (String × α)} {name : String} :
  (l.lookup name).isSome = true ↔ name ∈ l.map (·.1)
  := by
  rw [List.lookup_isSome_iff, List.mem_map]
  constructor
  · rintro ⟨listed, among, same⟩
    exact ⟨listed, among, (beq_iff_eq.mp same).symm⟩
  · rintro ⟨listed, among, rfl⟩
    exact ⟨listed, among, beq_self_eq_true _⟩

/-- What is found under a name in lists that agree in their names is related. -/
theorem lookup_of_forall₂ {R : String → α → β → Prop} {l : List (String × α)}
    {others : List (String × β)}
    (all : List.Forall₂ (fun a b => b.1 = a.1 ∧ R a.1 a.2 b.2) l others) (name : String) :
  (l.lookup name = none ∧ others.lookup name = none)
    ∨ ∃ a b, l.lookup name = some a ∧ others.lookup name = some b ∧ R name a b
  := by
  induction all with
  | nil => exact .inl ⟨rfl, rfl⟩
  | @cons a b l others first _ ih =>
    obtain ⟨here, a⟩ := a
    obtain ⟨other, b⟩ := b
    obtain ⟨named, related⟩ := first
    change other = here at named
    subst other
    by_cases same : name = here
    · subst same
      exact .inr ⟨a, b, List.lookup_cons_self, List.lookup_cons_self, related⟩
    · rw [List.lookup_cons, List.lookup_cons, beq_false_of_ne same]
      exact ih

/-- What is found in a list whose values are changed is what is found in it, changed. -/
theorem lookup_map (f : α → β) (l : List (String × α)) (name : String) :
  (l.map fun s => (s.1, f s.2)).lookup name = (l.lookup name).map f
  := by
  induction l with
  | nil => rfl
  | cons s l ih =>
    rw [List.map_cons, List.lookup_cons, List.lookup_cons, ih]
    split <;> rfl

end EditorModes
