import EditorModes.Grammar.Compile
import EditorModes.Proofs.Grammar.Checked
import Mathlib.Data.List.Chain
import Mathlib.Logic.Relation

/-!
# Includes put in place

What the entries of a state come to is said once, by `Grammar.Spliced`: own rules stay where they
are, and an include is replaced by what the entries of its state come to.  Resolving states keeps a
table of what is known so far; whatever is in it already, the table stays sound and grows, and an
error names something that is wrong with the includes (`Grammar.resolves_resolve`).
-/

namespace EditorModes

namespace Grammar

variable {entries : List (String × List Entry)} {own inner : List Entry}
  {rules part : List CompiledRule} {state target : String} {chain : List String}
  {resolved next : Resolved}

/-! ### What entries come to -/

/--
The rules that some entries come to: an own rule stays in its place, and an include is replaced by
what the entries of its state come to.
-/
inductive Spliced (entries : List (String × List Entry)) : List Entry → List CompiledRule → Prop
    where
  | nil : Spliced entries [] []
  | own {rule : CompiledRule} {own : List Entry} {rules : List CompiledRule}
    (later : Spliced entries own rules) : Spliced entries (.own rule :: own) (rule :: rules)
  | include {target : String} {inner own : List Entry} {part rules : List CompiledRule}
    (declared : entries.lookup target = some inner) (inside : Spliced entries inner part)
    (later : Spliced entries own rules) :
    Spliced entries (.include target :: own) (part ++ rules)

/-- Entries come to the same rules, however that is found out. -/
theorem Spliced.unique {others : List CompiledRule} (spliced : Spliced entries own rules)
    (other : Spliced entries own others) :
  rules = others
  := by
  induction spliced generalizing others with
  | nil =>
    cases other
    rfl
  | own later ih =>
    cases other with
    | own later' => rw [ih later']
  | «include» declared inside later ih_inside ih_later =>
    cases other with
    | «include» declared' inside' later' =>
      obtain rfl := Option.some.inj (declared.symm.trans declared')
      rw [ih_inside inside', ih_later later']

theorem exists_of_lookup (declared : entries.lookup state = some own) {entry : Entry}
    (among : entry ∈ own) :
  ∃ e ∈ entries, entry ∈ e.2
  := by
  obtain ⟨before, after, rfl, -⟩ := List.lookup_eq_some_iff.mp declared
  exact ⟨(state, own), by simp, among⟩

/-- The rules that entries of states come to are own rules of states. -/
theorem Spliced.exists_own (spliced : Spliced entries own rules)
    (listed : ∀ entry ∈ own, ∃ e ∈ entries, entry ∈ e.2) {rule : CompiledRule}
    (among : rule ∈ rules) :
  ∃ e ∈ entries, .own rule ∈ e.2
  := by
  induction spliced with
  | nil => cases among
  | own later ih =>
    rcases List.mem_cons.mp among with rfl | among
    · exact listed _ List.mem_cons_self
    · exact ih (fun entry among => listed entry (List.mem_cons_of_mem _ among)) among
  | «include» declared inside later ih_inside ih_later =>
    rcases List.mem_append.mp among with among | among
    · exact ih_inside (fun entry among => exists_of_lookup declared among) among
    · exact ih_later (fun entry among => listed entry (List.mem_cons_of_mem _ among)) among

/-! ### What can be wrong with includes -/

/--
An include of a state that is not declared, or includes that lead back to a state they led to: what
is wrong with includes, the rest of a grammar apart.
-/
inductive IncludeDefect (Includes : String → String → Prop) (Declared : String → Prop) :
    CompileCause → Prop where
  | unknown {state target : String} (includes : Includes state target)
    (undeclared : ¬ Declared target) :
    IncludeDefect Includes Declared (.unknownInclude state target)
  | cycle {chain : List String} {state : String} (again : state ∈ chain)
    (walk : (chain ++ [state]).IsChain Includes) :
    IncludeDefect Includes Declared (.includeCycle (chain ++ [state]))

/-- A state has an entry that takes in another one. -/
def IncludesIn (entries : List (String × List Entry)) (state target : String) : Prop :=
  ∃ own, entries.lookup state = some own ∧ .include target ∈ own

/-- A state has entries. -/
def DeclaredIn (entries : List (String × List Entry)) (state : String) : Prop :=
  (entries.lookup state).isSome

/-- What is wrong with the includes among some entries. -/
abbrev DefectIn (entries : List (String × List Entry)) : CompileCause → Prop :=
  IncludeDefect (IncludesIn entries) (DeclaredIn entries)

theorem declaredIn_iff :
  DeclaredIn entries state ↔ state ∈ entries.map (·.1)
  := lookup_isSome_iff_mem

/-- A chain that comes to a state again takes that state back to itself. -/
theorem transGen_of_isChain {α : Type} {R : α → α → Prop} {chain : List α} {a : α}
    (again : a ∈ chain) (walk : (chain ++ [a]).IsChain R) :
  Relation.TransGen R a a
  := by
  obtain ⟨before, after, rfl⟩ := List.append_of_mem again
  rw [List.append_assoc, List.cons_append] at walk
  have round := walk.right_of_append
  cases after with
  | nil =>
    rw [List.nil_append, List.isChain_cons_cons] at round
    exact .single round.1
  | cons b after =>
    rw [List.cons_append, List.isChain_cons_cons] at round
    apply Relation.TransGen.head' round.1
    exact List.relationReflTransGen_of_exists_isChain_cons (after ++ [a]) round.2 (by simp)

/-- Where what is included is declared and no includes lead back, nothing is wrong. -/
theorem not_includeDefect {Includes : String → String → Prop} {Declared : String → Prop}
    {cause : CompileCause} (declared : ∀ state target, Includes state target → Declared target)
    (acyclic : ∀ state, ¬ Relation.TransGen Includes state state) :
  ¬ IncludeDefect Includes Declared cause
  := by
  rintro (⟨includes, undeclared⟩ | ⟨again, walk⟩)
  · exact undeclared (declared _ _ includes)
  · exact acyclic _ (transGen_of_isChain again walk)

/-- What entries include that come to rules is declared and leads nowhere without an end. -/
theorem Spliced.acc (spliced : Spliced entries own rules) (among : .include target ∈ own) :
  DeclaredIn entries target ∧ Acc (flip (IncludesIn entries)) target
  := by
  induction spliced generalizing target with
  | nil => cases among
  | own later ih =>
    rcases List.mem_cons.mp among with ⟨⟨⟩⟩ | among
    exact ih among
  | «include» declared inside later ih_inside ih_later =>
    rcases List.mem_cons.mp among with same | among
    · obtain rfl := Entry.include.inj same
      refine ⟨by simp [DeclaredIn, declared], .intro _ ?_⟩
      rintro next ⟨own, found, among⟩
      obtain rfl := Option.some.inj (declared.symm.trans found)
      exact (ih_inside among).2
    · exact ih_later among

/-- From where includes lead nowhere without an end they do not lead back. -/
theorem not_transGen_of_acc {α : Type} {R : α → α → Prop} {a : α} (ends : Acc (flip R) a) :
  ¬ Relation.TransGen R a a
  := by
  induction ends with
  | intro a _ ih =>
    intro cycle
    obtain ⟨b, first, back⟩ := Relation.TransGen.head'_iff.mp cycle
    exact ih b first (Relation.TransGen.tail' back first)

/-! ### Resolving one state after another -/

/-- Each state in the table is declared and has the rules that its entries come to. -/
def Sound (entries : List (String × List Entry)) (resolved : Resolved) : Prop :=
  ∀ state rules, resolved.lookup state = some rules →
    ∃ own, entries.lookup state = some own ∧ Spliced entries own rules

/-- All that is in the one table is in the other. -/
def Extends (resolved next : Resolved) : Prop :=
  ∀ state rules, resolved.lookup state = some rules → next.lookup state = some rules

/--
A computation with a table of resolved states keeps the table sound and only adds to it; it gives
what is good with the table it leaves, or names something that is wrong.
-/
def Resolves (entries : List (String × List Entry)) (resolved : Resolved)
    (x : StateT Resolved Checked α) (Good : α → Resolved → Prop) : Prop :=
  match x.run resolved with
  | .ok (a, next) => Good a next ∧ Sound entries next ∧ Extends resolved next
  | .error cause => DefectIn entries cause

namespace Resolves

variable {x : StateT Resolved Checked α} {Good : α → Resolved → Prop}

theorem pure {a : α} (sound : Sound entries resolved) (good : Good a resolved) :
  Resolves entries resolved (pure a) Good
  := ⟨good, sound, fun _ _ found => found⟩

theorem throw {cause : CompileCause} (defect : DefectIn entries cause) :
  Resolves entries resolved (throw cause : StateT Resolved Checked α) Good
  := defect

theorem get {f : Resolved → StateT Resolved Checked α}
    (looks : Resolves entries resolved (f resolved) Good) :
  Resolves entries resolved (get >>= f) Good
  := looks

/-- One computation after another. -/
theorem bind {f : α → StateT Resolved Checked β} {Last : β → Resolved → Prop}
    (first : Resolves entries resolved x Good)
    (later : ∀ a next, Good a next → Sound entries next → Extends resolved next →
      Resolves entries next (f a) Last) :
  Resolves entries resolved (x >>= f) Last
  := by
  unfold Resolves at first ⊢
  rw [StateT.run_bind]
  cases ran : x.run resolved with
  | error cause =>
    rw [ran] at first
    exact first
  | ok result =>
    obtain ⟨a, next⟩ := result
    rw [ran] at first
    obtain ⟨good, sound, grown⟩ := first
    have second := later a next good sound grown
    unfold Resolves at second
    change match (f a).run next with
      | .ok (b, last) => Last b last ∧ Sound entries last ∧ Extends resolved last
      | .error cause => DefectIn entries cause
    cases ran : (f a).run next with
    | error cause =>
      rw [ran] at second
      exact second
    | ok result =>
      rw [ran] at second
      obtain ⟨good, sound, further⟩ := second
      exact ⟨good, sound, fun state rules found => further state rules (grown state rules found)⟩

/-- One computation for each member of a list, where later ones leave good what is good. -/
theorem mapM {l : List β} {f : β → StateT Resolved Checked α} {Good : β → α → Resolved → Prop}
    (kept : ∀ b a resolved next, Good b a resolved → Extends resolved next → Good b a next)
    (sound : Sound entries resolved)
    (each : ∀ b ∈ l, ∀ resolved, Sound entries resolved →
      Resolves entries resolved (f b) (Good b)) :
  Resolves entries resolved (l.mapM f) fun results next =>
    List.Forall₂ (fun b a => Good b a next) l results
  := by
  induction l generalizing resolved with
  | nil => exact pure sound .nil
  | cons b l ih =>
    rw [List.mapM_cons]
    apply (each b List.mem_cons_self resolved sound).bind
    intro a next good sound grown
    apply (ih sound fun b among => each b (List.mem_cons_of_mem _ among)).bind
    intro others last all sound further
    exact pure sound (.cons (kept _ _ _ _ good further) all)

end Resolves

/-- An entry comes to a part of the rules, according to the table. -/
def Placed (resolved : Resolved) : Entry → List CompiledRule → Prop
  | .own rule, part => part = [rule]
  | .include target, part => resolved.lookup target = some part

theorem placed_of_extends (entry : Entry) (part : List CompiledRule) (resolved next : Resolved)
    (placed : Placed resolved entry part) (grown : Extends resolved next) :
  Placed next entry part
  := by
  cases entry with
  | own rule => exact placed
  | «include» target => exact grown target part placed

/-- Entries come to the rules that a sound table places for them. -/
theorem spliced_of_forall₂ (sound : Sound entries resolved) {parts : List (List CompiledRule)}
    (placed : List.Forall₂ (Placed resolved) own parts) :
  Spliced entries own parts.flatten
  := by
  induction placed with
  | nil => exact .nil
  | @cons entry part own parts first _ ih =>
    cases entry with
    | own rule =>
      obtain rfl : part = [rule] := first
      exact .own ih
    | «include» target =>
      obtain ⟨inner, declared, inside⟩ := sound target part first
      exact .include declared inside ih

/-- A table that grows at its head by a state with the rules its entries come to stays sound. -/
theorem sound_cons (sound : Sound entries resolved) (declared : entries.lookup state = some own)
    (spliced : Spliced entries own rules) :
  Sound entries ((state, rules) :: resolved) ∧ Extends resolved ((state, rules) :: resolved)
  := by
  constructor
  · intro other known found
    by_cases same : other = state
    · subst same
      obtain rfl : rules = known := by simpa using found
      exact ⟨own, declared, spliced⟩
    · apply sound
      simpa [List.lookup_cons, beq_false_of_ne same] using found
  · intro other known found
    by_cases same : other = state
    · subst same
      obtain ⟨own', declared', spliced'⟩ := sound other known found
      obtain rfl := Option.some.inj (declared.symm.trans declared')
      simp [spliced.unique spliced']
    · simpa [List.lookup_cons, beq_false_of_ne same] using found

/--
Resolving a declared state that a chain of includes led to: the table comes to hold the rules of
the state, or the includes from there on are defective.
-/
theorem resolves_resolve (walk : (chain ++ [state]).IsChain (IncludesIn entries))
    (declared : DeclaredIn entries state) (sound : Sound entries resolved) :
  Resolves entries resolved (resolve entries chain state) fun rules next =>
    next.lookup state = some rules
  := by
  induction count : unchained entries chain using Nat.strong_induction_on
    generalizing chain state resolved with
  | _ n ih =>
  subst count
  rw [resolve]
  apply Resolves.get
  cases known : resolved.lookup state with
  | some rules => exact .pure sound known
  | none =>
    dsimp only
    split
    · next again => exact .throw (.cycle again walk)
    · next fresh =>
      split
      · next undeclared => simp [DeclaredIn, undeclared] at declared
      · next own found =>
        refine Resolves.bind (Resolves.mapM placed_of_extends sound ?_) ?_
        · intro entry among table table_sound
          cases entry with
          | own rule => exact .pure table_sound rfl
          | «include» target =>
            have includes : IncludesIn entries state target := ⟨own, found, among⟩
            dsimp only
            split
            · next undeclared =>
              refine .throw (.unknown includes fun listed => ?_)
              simp [Option.isNone_iff_eq_none.mp undeclared, DeclaredIn] at listed
            · next target_declared =>
              rw [Bool.not_eq_true, Option.isNone_eq_false_iff] at target_declared
              refine ih _ (unchained_lt fresh found) ?_ target_declared table_sound rfl
              rw [List.append_assoc, List.singleton_append, List.isChain_split]
              exact ⟨walk, .cons_cons includes (.singleton target)⟩
        · intro parts next placed next_sound grown
          have spliced := spliced_of_forall₂ next_sound placed
          obtain ⟨last_sound, further⟩ := sound_cons next_sound found spliced
          exact ⟨by simp, last_sound, further⟩

/--
Resolving declared states one after another: in the end each has its rules in a sound table, or
some includes are defective.
-/
theorem resolveAll_cases {order : List String}
    (declared : ∀ state ∈ order, DeclaredIn entries state) :
  (∃ table, resolveAll entries order = .ok table ∧ Sound entries table
      ∧ ∀ state ∈ order, (table.lookup state).isSome)
    ∨ ∃ cause, resolveAll entries order = .error cause ∧ DefectIn entries cause
  := by
  have resolves : Resolves entries [] (order.mapM (resolve entries [])) fun parts table =>
      List.Forall₂ (fun state part => table.lookup state = some part) order parts := by
    apply Resolves.mapM
    · exact fun state part _ _ found grown => grown state part found
    · intro state part found
      cases found
    · exact fun state among table sound =>
        resolves_resolve (.singleton state) (declared state among) sound
  unfold Resolves at resolves
  unfold resolveAll
  cases ran : (order.mapM (resolve entries [])).run [] with
  | error cause =>
    rw [ran] at resolves
    exact .inr ⟨cause, rfl, resolves⟩
  | ok result =>
    obtain ⟨parts, table⟩ := result
    rw [ran] at resolves
    obtain ⟨all, sound, -⟩ := resolves
    refine .inl ⟨table, rfl, sound, fun state among => ?_⟩
    obtain ⟨part, -, found⟩ := exists_of_mem_forall₂ all.flip among
    simp [found]

end Grammar

end EditorModes
