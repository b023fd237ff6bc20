import EditorModes.Proofs.Regex.Enclosing
import Mathlib.Data.List.Forall2

/-!
# Patterns without the `^` in front

A group that is read behind a `^` is read without it as well: what is repeated, named or closed in
it is not the `^`, and the expression that comes out does not nest deeper (`Reading.Eases`).  So a
text that is a pattern behind a `^` is one without it, unless the automata for it, which have to
start anywhere, become too large (`parse?_of_tied`).
-/

namespace EditorModes.Regex

/-! ### Groups -/

namespace OpenGroup

variable {g g' : OpenGroup}

/-- A group that has some of the items of another one and branches that nest no deeper. -/
structure Eases (g g' : OpenGroup) : Prop where
  branches : List.Forall₂ (fun b b' => b.depth ≤ b'.depth) g.branches g'.branches
  items : g.items.Sublist g'.items

theorem foldl_max_le_iff {l : List Nat} {least bound : Nat} :
  l.foldl max least ≤ bound ↔ least ≤ bound ∧ ∀ n ∈ l, n ≤ bound
  := by
  induction l generalizing least with
  | nil => simp
  | cons n l ih =>
    rw [List.foldl_cons, ih, Nat.max_le, List.forall_mem_cons, and_assoc]

theorem le_foldl_max {l : List Nat} {n : Nat} (among : n ∈ l) :
  n ≤ l.foldl max 0
  := (foldl_max_le_iff.mp (Nat.le_refl _)).2 n among

/-- The greatest of some numbers does not get less when none of them does. -/
theorem foldl_max_mono {l l' : List Nat} (all : List.Forall₂ (· ≤ ·) l l') :
  l.foldl max 0 ≤ l'.foldl max 0
  := by
  suffices ∀ a b, a ≤ b → l.foldl max a ≤ l'.foldl max b from this 0 0 (Nat.le_refl 0)
  induction all with
  | nil => exact fun _ _ least => least
  | cons first _ ih => exact fun _ _ least => ih _ _ (by omega)

/-- The current branch nests no deeper. -/
theorem Eases.branch_depth_le (eases : g.Eases g') :
  g.branch.depth ≤ g'.branch.depth
  := by
  have fewer := eases.items.length_le
  have exprs : g.exprs.Sublist g'.exprs := eases.items.filterMap _
  have inner : (g.exprs.map (·.depth)).foldl max 0 ≤ (g'.exprs.map (·.depth)).foldl max 0 := by
    rw [foldl_max_le_iff]
    exact ⟨Nat.zero_le _, fun n among => le_foldl_max ((exprs.map _).subset among)⟩
  unfold branch
  dsimp only
  split <;> split <;> omega

/-- What is closed nests no deeper. -/
theorem Eases.close_depth_le (eases : g.Eases g') :
  g.close.depth ≤ g'.close.depth
  := by
  have current := eases.branch_depth_le
  have branches := eases.branches
  unfold close
  generalize g.branches = l at branches
  generalize g'.branches = l' at branches
  cases branches with
  | nil => exact current
  | cons first rest =>
    apply Nat.add_le_add_left
    apply foldl_max_mono
    rw [List.forall₂_map_left_iff, List.forall₂_map_right_iff]
    exact .cons current (.cons first rest)

theorem Eases.push (eases : g.Eases g') (item : Item) :
  Eases { g with items := item :: g.items } { g' with items := item :: g'.items }
  := ⟨eases.branches, eases.items.cons_cons item⟩

theorem Eases.nextBranch (eases : g.Eases g') :
  g.nextBranch.Eases g'.nextBranch
  := ⟨.cons eases.branch_depth_le eases.branches, .refl []⟩

/-- The last item, which is the same in both, is repeated. -/
theorem Eases.repeatLast? (eases : g.Eases g') (same : g.items.head? = g'.items.head?)
    {least : Nat} {most : Option Nat} {greedy : Bool} {repeated' : OpenGroup}
    (repeats' : g'.repeatLast? least most greedy = some repeated') :
  ∃ repeated, g.repeatLast? least most greedy = some repeated ∧ repeated.Eases repeated'
    ∧ repeated.items.head? = repeated'.items.head?
  := by
  obtain ⟨capturing, f, branches, items⟩ := g
  obtain ⟨capturing', f', branches', items'⟩ := g'
  rcases items' with _ | ⟨e | _, items'⟩
  · cases repeats'
  · obtain rfl := Option.some.inj repeats'
    obtain ⟨items, rfl⟩ := List.head?_eq_some_iff.mp same
    have later : items.Sublist items' := List.cons_sublist_cons.mp eases.items
    exact ⟨_, rfl, ⟨eases.branches, later.cons_cons _⟩, rfl⟩
  · cases repeats'

end OpenGroup

/-! ### Readers -/

namespace Reading

/--
Two readers at one place that differ in the outermost group only, where the first has fewer items
and nests no deeper.  Where no group is open around, the last items are the same.
-/
inductive Eases : Reading → Reading → Prop where
  | inside {f : Flags} {names : List Text} (around : List OpenGroup) {top bottom other : OpenGroup}
    (eases : bottom.Eases other) :
    Eases ⟨f, names, around ++ [bottom], top⟩ ⟨f, names, around ++ [other], top⟩
  | outside {f : Flags} {names : List Text} {bottom other : OpenGroup} (eases : bottom.Eases other)
    (same : bottom.items.head? = other.items.head?) :
    Eases ⟨f, names, [], bottom⟩ ⟨f, names, [], other⟩

variable {s s' next' : Reading} {t : Text} {sign : Sign} {e' : Nested Expr}

/-- A sign that the second reader takes is taken by the first as well. -/
theorem Eases.after? (eases : s.Eases s') (after' : s'.after? sign = some next') :
  ∃ next, s.after? sign = some next ∧ next.Eases next'
  := by
  cases eases with
  | @inside f names around top bottom other eases =>
    cases sign with
    | opening f' capturing name =>
      rw [Reading.after?] at after' ⊢
      split at after'
      · cases after'
      · next fresh =>
        obtain rfl := Option.some.inj after'
        exact ⟨_, if_neg fresh, .inside (top :: around) eases⟩
    | closing =>
      rcases around with _ | ⟨enclosing, around⟩ <;> obtain rfl := Option.some.inj after'
      · exact ⟨_, rfl, .outside (eases.push _) rfl⟩
      · exact ⟨_, rfl, .inside around eases⟩
    | flags _ | bar | item _ =>
      obtain rfl := Option.some.inj after'
      exact ⟨_, rfl, .inside around eases⟩
    | repetition least most greedy =>
      obtain ⟨group, repeats, rfl⟩ := Option.map_eq_some_iff.mp after'
      exact ⟨_, Option.map_eq_some_iff.mpr ⟨group, repeats, rfl⟩, .inside around eases⟩
  | @outside f names bottom other eases same =>
    cases sign with
    | opening f' capturing name =>
      rw [Reading.after?] at after' ⊢
      split at after'
      · cases after'
      · next fresh =>
        obtain rfl := Option.some.inj after'
        exact ⟨_, if_neg fresh, .inside [] eases⟩
    | closing => cases after'
    | bar =>
      obtain rfl := Option.some.inj after'
      exact ⟨_, rfl, .outside eases.nextBranch rfl⟩
    | flags _ | item _ =>
      obtain rfl := Option.some.inj after'
      exact ⟨_, rfl, .outside (eases.push _) rfl⟩
    | repetition least most greedy =>
      obtain ⟨group', repeats', rfl⟩ := Option.map_eq_some_iff.mp after'
      obtain ⟨group, repeats, eases, same⟩ := eases.repeatLast? same repeats'
      exact ⟨_, Option.map_eq_some_iff.mpr ⟨group, repeats, rfl⟩, .outside eases same⟩

theorem Eases.flags_eq (eases : s.Eases s') :
  s.flags = s'.flags
  := by
  cases eases <;> rfl

/-- What the second reader reads to its end the first does as well, and it nests no deeper. -/
theorem Eases.exists_reads (eases : s.Eases s') (reads' : s'.Reads t e') :
  ∃ e, s.Reads t e ∧ e.depth ≤ e'.depth
  := by
  induction reads' generalizing s with
  | done at_end closed =>
    rw [← eases.flags_eq] at at_end
    cases eases with
    | inside around => simp at closed
    | outside eases => exact ⟨_, .done at_end rfl, eases.close_depth_le⟩
  | sign read after' _ ih =>
    rw [← eases.flags_eq] at read
    obtain ⟨next, after, eases⟩ := eases.after? after'
    obtain ⟨e, later, depth_le⟩ := ih eases
    exact ⟨e, .sign read after later, depth_le⟩

/-- What is read behind the mark is read of the mark and what follows it. -/
theorem Reads.with_caseMark {ignoreCase : Bool} {e : Nested Expr}
    (reads : (behindCaseMark ignoreCase).Reads t e) :
  (start {}).Reads (caseMark ignoreCase ++ t) e
  := by
  cases ignoreCase with
  | false => exact reads
  | true => exact .sign rfl rfl reads

/-- A group that is read behind a `^` is read without it, and what comes out nests no deeper. -/
theorem exists_reads_group {ignoreCase : Bool}
    (tied : (start {}).Reads (caseMark ignoreCase ++ '^' :: '(' :: '?' :: ':' :: t) e') :
  ∃ e, (start {}).Reads (caseMark ignoreCase ++ '(' :: '?' :: ':' :: t) e ∧ e.depth ≤ e'.depth
  := by
  have inside := (tied.behind_caseMark.behind rfl rfl).behind rfl rfl
  have eases : (behindCaseMark ignoreCase).group.Eases
      ((behindCaseMark ignoreCase).group.add ⟨.look .textStart, 0⟩) :=
    ⟨.nil, List.sublist_cons_self _ _⟩
  obtain ⟨e, reads, depth_le⟩ := (Eases.inside [] eases).exists_reads inside
  exact ⟨e, Reads.with_caseMark (.sign rfl rfl reads), depth_le⟩

end Reading

/-! ### Patterns -/

/-- A text reads as an expression, but the automata for it are too large. -/
def IsTooLarge (pattern : Text) : Prop :=
  ∃ e, (Reading.start {}).Reads pattern e ∧ e.value.isWithinLimit = false

theorem parse?_of_reads {pattern : Text} {e : Nested Expr}
    (reads : (Reading.start {}).Reads pattern e) :
  Expr.parse? pattern
    = if e.depth ≤ nestLimit ∧ e.value.isWithinLimit = true then some e.value else none
  := by
  have parsed := Reading.parseItems_of_reads reads (Nat.lt_succ_self _)
  change parseItems (pattern.length + 1) {} [] [] ⟨false, {}, [], []⟩ pattern = some e at parsed
  rw [Expr.parse?, parsed]
  rfl

theorem IsTooLarge.parse?_eq_none {pattern : Text} (large : IsTooLarge pattern) :
  Expr.parse? pattern = none
  := by
  obtain ⟨e, reads, exceeds⟩ := large
  rw [parse?_of_reads reads, exceeds]
  simp

/-- A group that is a pattern behind a `^` is one without it, unless it is too large. -/
theorem parse?_of_tied {ignoreCase : Bool} {t : Text} {tied : Expr}
    (parsed : Expr.parse? (Reading.caseMark ignoreCase ++ '^' :: '(' :: '?' :: ':' :: t)
      = some tied) :
  (∃ e, Expr.parse? (Reading.caseMark ignoreCase ++ '(' :: '?' :: ':' :: t) = some e)
    ∨ IsTooLarge (Reading.caseMark ignoreCase ++ '(' :: '?' :: ':' :: t)
  := by
  obtain ⟨depth, reads_tied, shallow⟩ := Reading.reads_of_parse? parsed
  obtain ⟨e, reads, depth_le⟩ := Reading.exists_reads_group reads_tied
  cases within : e.value.isWithinLimit with
  | false => exact .inr ⟨e, reads, within⟩
  | true =>
    have limits := And.intro (Nat.le_trans depth_le shallow) within
    exact .inl ⟨e.value, by rw [parse?_of_reads reads, if_pos limits]⟩

end EditorModes.Regex
