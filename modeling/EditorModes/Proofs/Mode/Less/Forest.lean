import EditorModes.Mode.Less.Stylesheet
import Mathlib.Data.List.Basic

/-!
# Trees of rules and variables

The nodes of an outline are well arranged when each stands within the one above it, and behind the
one before it (`Less.Forest`).  A variable that does not stand across the ends of other nodes is
placed so that they stay well arranged, and all other nodes stay (`Less.Forest.place`).  In a well
arranged outline every variable is right below the innermost rule that holds it
(`Less.Forest.innermost`).
-/

namespace EditorModes

/-- A span inside another. -/
def Span.Within (s outer : Span) : Prop :=
  outer.start ≤ s.start ∧ s.stop ≤ outer.stop

namespace Less

namespace OutlineNode

/-- The part of the node that names it. -/
def selection : OutlineNode → Span
  | mk _ _ _ selection _ => selection

/-- The nodes right below. -/
def children : OutlineNode → List OutlineNode
  | mk _ _ _ _ children => children

/-- The node without those below it. -/
def alone : OutlineNode → OutlineNode
  | mk name kind span selection _ => mk name kind span selection []

/-- The nodes of trees, each one before those below it. -/
def preorder : List OutlineNode → List OutlineNode
  | [] => []
  | .mk name kind span selection children :: nodes =>
    .mk name kind span selection children :: (preorder children ++ preorder nodes)

@[simp]
theorem kind_alone (node : OutlineNode) :
  node.alone.kind = node.kind
  := by cases node; rfl

@[simp]
theorem span_alone (node : OutlineNode) :
  node.alone.span = node.span
  := by cases node; rfl

theorem alone_eq {node : OutlineNode} (leaf : node.children = []) :
  node.alone = node
  := by
  obtain ⟨name, kind, span, selection, children⟩ := node
  obtain rfl : children = [] := leaf
  rfl

variable {node other added : OutlineNode} {nodes more : List OutlineNode}

theorem map_alone_eq (leaves : ∀ node ∈ nodes, node.children = []) :
  nodes.map alone = nodes
  := by
  conv_rhs => rw [← List.map_id nodes]
  exact List.map_congr_left fun node among => alone_eq (leaves node among)

theorem filter_map_alone (kind : OutlineKind) (nodes : List OutlineNode) :
  (nodes.map alone).filter (·.kind = kind) = (nodes.filter (·.kind = kind)).map alone
  := by
  rw [List.filter_map]
  congr 2
  funext node
  rw [Function.comp_apply, kind_alone]

@[simp]
theorem preorder_nil :
  preorder [] = []
  := by rw [preorder]

@[simp]
theorem preorder_cons (node : OutlineNode) (nodes : List OutlineNode) :
  preorder (node :: nodes) = node :: (preorder node.children ++ preorder nodes)
  := by
  obtain ⟨name, kind, span, selection, children⟩ := node
  rw [preorder]
  rfl

@[simp]
theorem preorder_append (nodes more : List OutlineNode) :
  preorder (nodes ++ more) = preorder nodes ++ preorder more
  := by
  induction nodes with
  | nil => simp
  | cons node nodes ih => simp [ih]

/-- Trees have their tops among their nodes. -/
theorem mem_preorder (among : node ∈ nodes) :
  node ∈ preorder nodes
  := by
  induction nodes with
  | nil => simp at among
  | cons first nodes ih =>
    rw [preorder_cons]
    rcases List.mem_cons.mp among with rfl | behind
    · exact List.mem_cons_self
    · exact List.mem_cons_of_mem _ (List.mem_append_right _ (ih behind))

/-- The node with others below it. -/
def withChildren : OutlineNode → List OutlineNode → OutlineNode
  | mk name kind span selection _, children => mk name kind span selection children

@[simp]
theorem span_withChildren (node : OutlineNode) (nodes : List OutlineNode) :
  (node.withChildren nodes).span = node.span
  := by cases node; rfl

@[simp]
theorem children_withChildren (node : OutlineNode) (nodes : List OutlineNode) :
  (node.withChildren nodes).children = nodes
  := by cases node; rfl

@[simp]
theorem alone_withChildren (node : OutlineNode) (nodes : List OutlineNode) :
  (node.withChildren nodes).alone = node.alone
  := by cases node; rfl

/-- A rule holds the nodes that stand within it. -/
def Holds (node added : OutlineNode) : Prop :=
  node.kind = .rule ∧ added.span.Within node.span

instance (node added : OutlineNode) : Decidable (node.Holds added) :=
  inferInstanceAs (Decidable (_ ∧ _ ∧ _))

@[simp]
theorem place_nil (added : OutlineNode) :
  place added [] = [added]
  := by rw [place, placeInside?, Option.getD_none, insertByStart]

/-- The first node takes one more in, or has it before or behind it. -/
theorem place_cons (added node : OutlineNode) (nodes : List OutlineNode) :
  place added (node :: nodes) =
    if node.Holds added then node.withChildren (place added node.children) :: nodes
    else if placeInside? added nodes = none ∧ added.span.start < node.span.start then
      added :: node :: nodes
    else node :: place added nodes
  := by
  obtain ⟨name, kind, span, selection, children⟩ := node
  have holds_iff : (mk name kind span selection children).Holds added
      ↔ (decide (kind = .rule) && decide (span.start ≤ added.span.start)
        && decide (added.span.stop ≤ span.stop)) = true := by
    rw [Bool.and_eq_true, Bool.and_eq_true, decide_eq_true_eq, decide_eq_true_eq,
      decide_eq_true_eq, and_assoc]
    rfl
  rw [place, placeInside?]
  simp only [holds_iff]
  split
  · rfl
  · cases inside : placeInside? added nodes with
    | none =>
      simp only [Option.map_none, Option.getD_none, true_and, insertByStart, place, inside]
    | some placed => simp [place, inside]

end OutlineNode

open OutlineNode

variable {lo hi : Nat} {node added : OutlineNode} {nodes more : List OutlineNode}

/-- A node over some text, whose name is within it; no variable has nodes below it. -/
structure OutlineNode.Sound (node : OutlineNode) : Prop where
  nonempty : node.span.start < node.span.stop
  selection_within : node.selection.Within node.span
  selection_le : node.selection.start ≤ node.selection.stop
  leaf : node.kind = .variable → node.children = []

theorem OutlineNode.Sound.isRule (sound : node.Sound) (below : added ∈ node.children) :
  node.kind = .rule
  := by
  rcases kind_eq : node.kind with _ | _
  · rfl
  · simp [sound.leaf kind_eq] at below

theorem OutlineNode.Sound.withChildren (sound : node.Sound) (isRule : node.kind = .rule)
    (nodes : List OutlineNode) :
  (node.withChildren nodes).Sound
  := by
  obtain ⟨name, kind, span, selection, children⟩ := node
  obtain rfl : kind = .rule := isRule
  exact ⟨sound.nonempty, sound.selection_within, sound.selection_le, nofun⟩

/-- Nodes between two offsets, each within the one above it and behind the one before it. -/
inductive Forest : Nat → Nat → List OutlineNode → Prop
  | nil {lo hi : Nat} : lo ≤ hi → Forest lo hi []
  | cons {lo hi : Nat} {node : OutlineNode} {nodes : List OutlineNode} :
    lo ≤ node.span.start → node.Sound → Forest node.span.start node.span.stop node.children →
      Forest node.span.stop hi nodes → Forest lo hi (node :: nodes)

namespace Forest

/-- The offsets that nodes are between are in order. -/
theorem le (forest : Forest lo hi nodes) :
  lo ≤ hi
  := by
  induction forest with
  | nil in_order => exact in_order
  | cons first sound _ _ _ ih =>
    have := sound.nonempty
    omega

/-- Nodes are between further offsets as well. -/
theorem mono (forest : Forest lo hi nodes) {lo' hi' : Nat} (lo_le : lo' ≤ lo) (le_hi : hi ≤ hi') :
  Forest lo' hi' nodes
  := by
  induction forest generalizing lo' with
  | nil in_order => exact .nil (by omega)
  | cons first sound children _ _ ih =>
    exact .cons (Nat.le_trans lo_le first) sound children (ih (Nat.le_refl _) le_hi)

theorem append {mid : Nat} (first : Forest lo mid nodes) (second : Forest mid hi more) :
  Forest lo hi (nodes ++ more)
  := by
  induction first with
  | nil in_order => exact second.mono in_order (Nat.le_refl _)
  | cons start_le sound children _ _ ih => exact .cons start_le sound children (ih second)

/-- All nodes are between the offsets. -/
theorem bounds (forest : Forest lo hi nodes) (among : node ∈ preorder nodes) :
  node.Sound ∧ lo ≤ node.span.start ∧ node.span.stop ≤ hi
  := by
  induction forest with
  | nil _ => simp at among
  | cons first sound children rest ih_children ih =>
    have := sound.nonempty
    have := rest.le
    rw [preorder_cons] at among
    rcases List.mem_cons.mp among with rfl | among
    · exact ⟨sound, first, rest.le⟩
    rcases List.mem_append.mp among with below | behind
    · obtain ⟨sound, start_le, le_stop⟩ := ih_children below
      exact ⟨sound, by omega, by omega⟩
    · obtain ⟨sound, start_le, le_stop⟩ := ih behind
      exact ⟨sound, by omega, le_stop⟩

/-- Nodes beside each other are in order, one behind the other. -/
theorem pairwise (forest : Forest lo hi nodes) :
  nodes.Pairwise fun a b => a.span.start < b.span.start ∧ a.span.stop ≤ b.span.start
  := by
  induction forest with
  | nil _ => exact List.Pairwise.nil
  | cons first sound children rest _ ih =>
    refine List.pairwise_cons.mpr ⟨fun other behind => ?_, ih⟩
    have := sound.nonempty
    have := (rest.bounds (mem_preorder behind)).2.1
    omega

/-- The nodes below a node are well arranged between its ends. -/
theorem children (forest : Forest lo hi nodes) (among : node ∈ preorder nodes) :
  Forest node.span.start node.span.stop node.children
  := by
  induction forest with
  | nil _ => simp at among
  | cons first sound children rest ih_children ih =>
    rw [preorder_cons] at among
    rcases List.mem_cons.mp among with rfl | among
    · exact children
    rcases List.mem_append.mp among with below | behind
    · exact ih_children below
    · exact ih behind

/-! ### One more variable -/

/-- No rule behind some offset holds what starts before it. -/
theorem placeInside?_eq_none (forest : Forest lo hi nodes) (before : added.span.start < lo) :
  placeInside? added nodes = none
  := by
  induction forest with
  | nil _ => rw [placeInside?]
  | @cons lo hi node nodes first sound _ _ _ ih =>
    have := sound.nonempty
    obtain ⟨name, kind, span, selection, children⟩ := node
    rw [placeInside?, if_neg, ih (by omega)]
    · rfl
    · change lo ≤ span.start at first
      simp only [Bool.and_eq_true, decide_eq_true_eq]
      omega

/-- A node that stands before another, behind it, or within it when that is a rule. -/
def Apart (node added : OutlineNode) : Prop :=
  node.span.stop ≤ added.span.start ∨ added.span.stop ≤ node.span.start ∨ node.Holds added

/-- A node that is apart from all others is placed so that all stay well arranged. -/
theorem place (forest : Forest lo hi nodes) (sound : added.Sound) (leaf : added.children = [])
    (first : lo ≤ added.span.start) (last : added.span.stop ≤ hi)
    (apart : ∀ node ∈ preorder nodes, Apart node added) :
  Forest lo hi (OutlineNode.place added nodes)
  := by
  have nonempty := sound.nonempty
  have alone : Forest added.span.start added.span.stop added.children := by
    rw [leaf]
    exact .nil (Nat.le_of_lt nonempty)
  induction forest with
  | nil _ =>
    rw [place_nil]
    exact .cons first sound alone (.nil last)
  | @cons lo hi node nodes start_le node_sound children rest ih_children ih =>
    have node_nonempty := node_sound.nonempty
    simp only [preorder_cons, List.mem_cons, List.mem_append] at apart
    rw [place_cons]
    by_cases holds : node.Holds added
    · rw [if_pos holds]
      have grown := ih_children holds.2.1 holds.2.2 fun other among =>
        apart other (.inr (.inl among))
      refine .cons ?_ (node_sound.withChildren holds.1 _) ?_ ?_
      · rwa [span_withChildren]
      · rwa [span_withChildren, children_withChildren]
      · rwa [span_withChildren]
    · rw [if_neg holds]
      rcases apart node (.inl rfl) with before | behind | within
      · rw [if_neg (by omega)]
        exact .cons start_le node_sound children
          (ih before last fun other among => apart other (.inr (.inr among)))
      · rw [if_pos ⟨rest.placeInside?_eq_none (by omega), by omega⟩]
        exact .cons first sound alone (.cons behind node_sound children rest)
      · exact absurd within holds

end Forest

/-- One more node leaves all others as they are, and in their order. -/
theorem preorder_place (leaf : added.children = []) (nodes : List OutlineNode) :
  ∃ before after, (preorder nodes).map alone = before ++ after
    ∧ (preorder (OutlineNode.place added nodes)).map alone = before ++ added.alone :: after
  := by
  fun_induction preorder nodes with
  | case1 => exact ⟨[], [], rfl, by simp [leaf]⟩
  | case2 name kind span selection children nodes ih_children ih =>
    obtain ⟨before, after, below_eq, grown_eq⟩ := ih_children
    obtain ⟨before', after', behind_eq, longer_eq⟩ := ih
    let node := OutlineNode.mk name kind span selection children
    change ∃ before after, (node :: (preorder children ++ preorder nodes)).map alone = _
      ∧ (preorder (OutlineNode.place added (node :: nodes))).map alone = _
    rw [place_cons]
    split
    · refine ⟨node.alone :: before, after ++ (preorder nodes).map alone, ?_, ?_⟩
      · simp [below_eq]
      · have grown_eq : (preorder (OutlineNode.place added node.children)).map alone
            = before ++ added.alone :: after := grown_eq
        simp [grown_eq]
    · split
      · refine ⟨[], (node :: (preorder children ++ preorder nodes)).map alone, rfl, ?_⟩
        simp [leaf]
        rfl
      · refine ⟨node.alone :: ((preorder children).map alone ++ before'), after', ?_, ?_⟩
        · simp [behind_eq]
        · simp [longer_eq]
          rfl

/-! ### Innermost rules -/

/-- A node on top which no rule holds, or right below a rule that holds it, within all that do. -/
def IsInnermost (nodes : List OutlineNode) (added : OutlineNode) : Prop :=
  (added ∈ nodes ∧ ∀ rule ∈ preorder nodes, ¬ rule.Holds added)
    ∨ ∃ parent ∈ preorder nodes, parent.Holds added ∧ added ∈ parent.children
      ∧ ∀ rule ∈ preorder nodes, rule.Holds added → parent ∈ preorder [rule]

theorem Forest.not_holds (forest : Forest lo hi nodes)
    (nonempty : added.span.start < added.span.stop) (before : added.span.stop ≤ lo) :
  ∀ rule ∈ preorder nodes, ¬ rule.Holds added
  := by
  intro rule among holds
  have := (forest.bounds among).2.1
  have := holds.2.1
  omega

theorem not_holds_of_stop_le (nonempty : added.span.start < added.span.stop)
    (behind : node.span.stop ≤ added.span.start) :
  ¬ node.Holds added
  := by
  intro holds
  have := holds.2.2
  omega

/-- The first node on top is held by none, when it is a variable. -/
theorem isInnermost_first (sound : added.Sound) (isVariable : added.kind = .variable)
    (rest : Forest added.span.stop hi nodes) :
  IsInnermost (added :: nodes) added
  := by
  refine .inl ⟨List.mem_cons_self, fun rule among => ?_⟩
  rw [preorder_cons, sound.leaf isVariable, preorder_nil, List.nil_append] at among
  rcases List.mem_cons.mp among with rfl | behind
  · exact fun holds => nomatch isVariable.symm.trans holds.1
  · exact rest.not_holds sound.nonempty (Nat.le_refl _) rule behind

/-- What stands within the first node on top is held by none behind that. -/
theorem IsInnermost.below (innermost : IsInnermost node.children added) (sound : node.Sound)
    (nonempty : added.span.start < added.span.stop) (within : added.span.Within node.span)
    (rest : Forest node.span.stop hi nodes) :
  IsInnermost (node :: nodes) added
  := by
  have none_behind := rest.not_holds nonempty within.2
  right
  simp only [preorder_cons, List.mem_cons, List.mem_append]
  rcases innermost with ⟨top, none_below⟩ | ⟨parent, among, holds, right_below, least⟩
  · refine ⟨node, .inl rfl, ⟨sound.isRule top, within⟩, top, ?_⟩
    rintro rule (rfl | below | behind) holds
    · exact .inl rfl
    · exact absurd holds (none_below rule below)
    · exact absurd holds (none_behind rule behind)
  · refine ⟨parent, .inr (.inl among), holds, right_below, ?_⟩
    rintro rule (rfl | below | behind) holds
    · exact .inr (.inl among)
    · simpa using least rule below holds
    · exact absurd holds (none_behind rule behind)

/-- What stands behind the first node on top is not held by it or by those below it. -/
theorem IsInnermost.behind (innermost : IsInnermost nodes added)
    (nonempty : added.span.start < added.span.stop) (after : node.span.stop ≤ added.span.start)
    (children : Forest node.span.start node.span.stop node.children) :
  IsInnermost (node :: nodes) added
  := by
  have none_before : ∀ rule ∈ preorder node.children, ¬ rule.Holds added := fun rule below =>
    not_holds_of_stop_le nonempty (Nat.le_trans (children.bounds below).2.2 after)
  have not_first : ¬ node.Holds added := not_holds_of_stop_le nonempty after
  simp only [IsInnermost, preorder_cons, List.mem_cons, List.mem_append]
  rcases innermost with ⟨top, none_holds⟩ | ⟨parent, among, holds, right_below, least⟩
  · refine .inl ⟨.inr top, ?_⟩
    rintro rule (rfl | below | behind)
    · exact not_first
    · exact none_before rule below
    · exact none_holds rule behind
  · refine .inr ⟨parent, .inr (.inr among), holds, right_below, ?_⟩
    rintro rule (rfl | below | behind) holds
    · exact absurd holds not_first
    · exact absurd holds (none_before rule below)
    · simpa using least rule behind holds

/-- In well arranged nodes, a variable is right below the innermost rule that holds it. -/
theorem Forest.innermost (forest : Forest lo hi nodes) (among : added ∈ preorder nodes)
    (isVariable : added.kind = .variable) :
  IsInnermost nodes added
  := by
  have nonempty := (forest.bounds among).1.nonempty
  induction forest with
  | nil _ => simp at among
  | cons first sound children rest ih_children ih =>
    rw [preorder_cons] at among
    rcases List.mem_cons.mp among with rfl | among
    · exact isInnermost_first sound isVariable rest
    rcases List.mem_append.mp among with below | behind
    · exact (ih_children below).below sound nonempty (children.bounds below).2 rest
    · exact (ih behind).behind nonempty (rest.bounds behind).2.1 children

end Less

end EditorModes
