import EditorModes.Mode.Less.Provider
import EditorModes.Proofs.Mode.Less.Stylesheet
import EditorModes.Proofs.Mode.Validation

/-!
# Outlines of stylesheets

The outline of every stylesheet is well formed, whether its braces are balanced or not, and the
entries that an editor gets for it are nested as its nodes are (`Less.outline_wellFormed`).
-/

namespace EditorModes

/-- A span between two cuts has a range. -/
theorem Text.exists_rangeOf? {t : Text} {s : Span} (first : t.IsCut s.start)
    (last : t.IsCut s.stop) :
  ∃ r, t.rangeOf? s = some r
  := by
  obtain ⟨before, after, rfl, start_eq⟩ := first
  obtain ⟨upTo, behind, parts, stop_eq⟩ := last
  have start_at := Text.positionAt?_append before after
  have stop_at := Text.positionAt?_append upTo behind
  rw [start_eq] at start_at
  rw [← parts, stop_eq] at stop_at
  rw [rangeOf?, start_at, stop_at]
  exact ⟨_, rfl⟩

/-- A range inside another. -/
def Range.Within (r outer : Range) : Prop :=
  (outer.start = r.start ∨ outer.start.Before r.start)
    ∧ (r.stop = outer.stop ∨ r.stop.Before outer.stop)

/-- A span inside another has a range inside the other one's. -/
theorem Span.Within.range {t : Text} {s outer : Span} {r around : Range} (within : s.Within outer)
    (found : t.rangeOf? s = some r) (found_outer : t.rangeOf? outer = some around) :
  r.Within around
  := by
  simp only [Text.rangeOf?, Option.bind_eq_bind, Option.bind_eq_some_iff, Option.pure_def,
    Option.some.injEq] at found found_outer
  obtain ⟨start, start_at, stop, stop_at, rfl⟩ := found
  obtain ⟨start', start_at', stop', stop_at', rfl⟩ := found_outer
  exact ⟨Text.positionAt?_in_order within.1 start_at' start_at,
    Text.positionAt?_in_order within.2 stop_at stop_at'⟩

namespace OutlineEntry

/-- Where the entry stands. -/
def range : OutlineEntry → Range
  | mk _ _ range _ _ => range

/-- The part of the entry that names it. -/
def selection : OutlineEntry → Range
  | mk _ _ _ selection _ => selection

/-- The entries right below. -/
def children : OutlineEntry → List OutlineEntry
  | mk _ _ _ _ children => children

/-- The entries of an outline, each one before those below it. -/
def preorder : List OutlineEntry → List OutlineEntry
  | [] => []
  | .mk name kind range selection children :: entries =>
    .mk name kind range selection children :: (preorder children ++ preorder entries)

end OutlineEntry

namespace Less

open OutlineNode

variable {t : Text} {nodes : List OutlineNode} {entries : List OutlineEntry} {node : OutlineNode}

/-- The entries for nodes, with the ranges of their spans. -/
inductive Shown (t : Text) : List OutlineNode → List OutlineEntry → Prop
  | nil : Shown t [] []
  | cons {name : Text} {kind : OutlineKind} {span selected : Span} {range selection : Range}
    {children nodes : List OutlineNode} {below entries : List OutlineEntry} :
    t.rangeOf? span = some range → t.rangeOf? selected = some selection →
      Shown t children below → Shown t nodes entries →
        Shown t (.mk name kind span selected children :: nodes)
          (.mk (String.ofList name) kind.symbol range selection below :: entries)

theorem run_rangeOf {d : Document} {s : Span} {range : Range}
    (range_eq : d.text.rangeOf? s = some range) (pool : Workers) :
  (rangeOf d s).run.run pool = (.ok range, pool)
  := by
  rw [rangeOf, range_eq]
  rfl

/-- Nodes whose spans have ranges can be shown. -/
theorem exists_outlineEntries (d : Document) (nodes : List OutlineNode)
    (ranges : ∀ node ∈ preorder nodes,
      (∃ r, d.text.rangeOf? node.span = some r) ∧ ∃ r, d.text.rangeOf? node.selection = some r) :
  ∃ entries, Shown d.text nodes entries
    ∧ ∀ pool, (outlineEntries d nodes).run.run pool = (.ok entries, pool)
  := by
  fun_induction preorder nodes with
  | case1 => exact ⟨[], .nil, fun _ => by rw [outlineEntries]; rfl⟩
  | case2 name kind span selected children nodes ih_children ih =>
    obtain ⟨⟨range, range_eq⟩, ⟨selection, selection_eq⟩⟩ := ranges _ List.mem_cons_self
    change d.text.rangeOf? span = some range at range_eq
    change d.text.rangeOf? selected = some selection at selection_eq
    obtain ⟨below, shown_below, ran_below⟩ := ih_children fun node among =>
      ranges node (List.mem_cons_of_mem _ (List.mem_append_left _ among))
    obtain ⟨entries, shown, ran⟩ := ih fun node among =>
      ranges node (List.mem_cons_of_mem _ (List.mem_append_right _ among))
    refine ⟨_, .cons range_eq selection_eq shown_below shown, fun pool => ?_⟩
    rw [outlineEntries]
    simp only [Asking.run_bind, run_rangeOf range_eq, run_rangeOf selection_eq, ran_below, ran]
    rfl

namespace Shown

/-- Each entry at the top shows a node at the top. -/
theorem exists_top (shown : Shown t nodes entries) {entry : OutlineEntry}
    (among : entry ∈ entries) :
  ∃ node ∈ nodes, t.rangeOf? node.span = some entry.range
  := by
  induction shown with
  | nil => simp at among
  | cons range_eq _ _ _ _ ih =>
    rcases List.mem_cons.mp among with rfl | among
    · exact ⟨_, List.mem_cons_self, range_eq⟩
    · obtain ⟨node, listed, range_eq⟩ := ih among
      exact ⟨node, List.mem_cons_of_mem _ listed, range_eq⟩

/-- Each entry shows a node, and those below it the nodes below that. -/
theorem exists_node (shown : Shown t nodes entries) {entry : OutlineEntry}
    (among : entry ∈ OutlineEntry.preorder entries) :
  ∃ node ∈ preorder nodes, t.rangeOf? node.span = some entry.range
    ∧ t.rangeOf? node.selection = some entry.selection ∧ Shown t node.children entry.children
  := by
  induction shown with
  | nil => simp [OutlineEntry.preorder] at among
  | cons range_eq selection_eq below behind ih_below ih =>
    rw [OutlineEntry.preorder] at among
    simp only [preorder_cons, List.mem_cons, List.mem_append]
    rcases List.mem_cons.mp among with rfl | among
    · exact ⟨_, .inl rfl, range_eq, selection_eq, below⟩
    rcases List.mem_append.mp among with among | among
    · obtain ⟨node, within, facts⟩ := ih_below among
      exact ⟨node, .inr (.inl within), facts⟩
    · obtain ⟨node, within, facts⟩ := ih among
      exact ⟨node, .inr (.inr within), facts⟩

end Shown

/-- Nodes that stand within those above them, with each name within its node. -/
structure WellFormed (nodes : List OutlineNode) : Prop where
  /-- The name of a node is within the node. -/
  selections : ∀ node ∈ preorder nodes, node.selection.Within node.span
  /-- A node is within the one above it. -/
  nested : ∀ node ∈ preorder nodes, ∀ child ∈ node.children, child.span.Within node.span
  /-- Nodes beside each other are in order, one behind the other. -/
  siblings : ∀ beside, (beside = nodes ∨ ∃ node ∈ preorder nodes, beside = node.children) →
    beside.Pairwise fun a b => a.span.start < b.span.start ∧ a.span.stop ≤ b.span.start
  /-- A variable is right below the innermost rule that holds it, or on top when none does. -/
  innermost : ∀ node ∈ preorder nodes, node.kind = .variable → IsInnermost nodes node

/-- Well arranged nodes are well formed. -/
theorem Forest.wellFormed {lo hi : Nat} (forest : Forest lo hi nodes) :
  WellFormed nodes
  where
  selections _ among := (forest.bounds among).1.selection_within
  nested _ among _ below := ((forest.children among).bounds (mem_preorder below)).2
  siblings := by
    rintro _ (rfl | ⟨node, among, rfl⟩)
    · exact forest.pairwise
    · exact (forest.children among).pairwise
  innermost _ among isVariable := forest.innermost among isVariable

/-- Entries that stand within those above them, with each name within its entry. -/
structure Nested (entries : List OutlineEntry) : Prop where
  /-- The name of an entry is within the entry. -/
  selections : ∀ entry ∈ OutlineEntry.preorder entries, entry.selection.Within entry.range
  /-- An entry is within the one above it. -/
  nested : ∀ entry ∈ OutlineEntry.preorder entries, ∀ child ∈ entry.children,
    child.range.Within entry.range

/-- The entries for well formed nodes are nested. -/
theorem WellFormed.nested_entries (wellFormed : WellFormed nodes) (shown : Shown t nodes entries) :
  Nested entries
  where
  selections entry among := by
    obtain ⟨node, within, range_eq, selection_eq, -⟩ := shown.exists_node among
    exact (wellFormed.selections node within).range selection_eq range_eq
  nested entry among child below := by
    obtain ⟨node, within, range_eq, -, shown_below⟩ := shown.exists_node among
    obtain ⟨child_node, child_below, child_range_eq⟩ := shown_below.exists_top below
    exact (wellFormed.nested node within child_node child_below).range child_range_eq range_eq

/-- The name and the block of a rule are between cuts of the stylesheet. -/
theorem IsRuleOf.isCut_of_mask {brace : Nat}
    (isRule : IsRuleOf (mask t) (mask t).byteSize node brace) :
  (t.IsCut node.span.start ∧ t.IsCut node.span.stop)
    ∧ t.IsCut node.selection.start ∧ t.IsCut node.selection.stop
  := by
  obtain ⟨first, last⟩ := isRule.firm_selection
  refine ⟨⟨?_, isCut_of_firm_or_eq (isRule.closes.imp_left And.right)⟩, first.isCut_of_mask,
    last.isCut_of_mask⟩
  rw [isRule.start_eq]
  exact first.isCut_of_mask

/-- The nodes of an outline and their names are between cuts of the stylesheet. -/
theorem Stylesheet.IsOf.isCut_of_mem_outline {sheet : Stylesheet} (isOf : sheet.IsOf t)
    (among : node ∈ preorder sheet.outline) :
  (t.IsCut node.span.start ∧ t.IsCut node.span.stop)
    ∧ t.IsCut node.selection.start ∧ t.IsCut node.selection.stop
  := by
  rcases kind_eq : node.kind with _ | _
  · have filtered : node ∈ (preorder sheet.outline).filter (·.kind = .rule) :=
      List.mem_filter.mpr ⟨among, decide_eq_true kind_eq⟩
    obtain ⟨brace, isRule⟩ := exists_isRuleOf_of_mem isOf.rules_outline filtered
    exact isRule.isCut_of_mask
  · have filtered : node ∈ (preorder sheet.outline).filter (·.kind = .variable) :=
      List.mem_filter.mpr ⟨among, decide_eq_true kind_eq⟩
    have declared := isOf.isDeclarationIn (isOf.variables_outline.mem_iff.mp filtered)
    rw [declared.selection_eq]
    exact ⟨declared.firm.isCut_of_mask, declared.firm.isCut_of_mask⟩

theorem Stylesheet.IsOf.exists_ranges {sheet : Stylesheet} (isOf : sheet.IsOf t)
    (among : node ∈ preorder sheet.outline) :
  (∃ r, t.rangeOf? node.span = some r) ∧ ∃ r, t.rangeOf? node.selection = some r
  := by
  have cuts := isOf.isCut_of_mem_outline among
  exact ⟨Text.exists_rangeOf? cuts.1.1 cuts.1.2, Text.exists_rangeOf? cuts.2.1 cuts.2.2⟩

/--
The outline of every stylesheet is well formed, whether its braces are balanced or not.  It has one
rule for each opening brace of the masked stylesheet, in their order, and one variable for each that
is declared.  Its nodes can be shown to an editor, as entries that are nested as the nodes are.
-/
theorem outline_wellFormed (d : Document) :
  ∃ sheet, Stylesheet.ofText? d.text = some sheet
    ∧ WellFormed sheet.outline
    ∧ List.Forall₂ (IsRuleOf (mask d.text) (mask d.text).byteSize)
      ((preorder sheet.outline).filter (·.kind = .rule)) (openingBraces (mask d.text))
    ∧ ((preorder sheet.outline).filter (·.kind = .variable)).Perm
      ((sheet.occurrences.filter (·.isDeclaration)).map fun o =>
        .mk o.name .variable o.span o.span [])
    ∧ ∃ entries, (∀ pool, (outlineEntries d sheet.outline).run.run pool = (.ok entries, pool))
      ∧ Shown d.text sheet.outline entries ∧ Nested entries
  := by
  obtain ⟨sheet, analyzed, isOf⟩ := Stylesheet.exists_ofText? d.text
  have wellFormed := isOf.forest_outline.wellFormed
  obtain ⟨entries, shown, ran⟩ :=
    exists_outlineEntries d sheet.outline fun _ => isOf.exists_ranges
  exact ⟨sheet, analyzed, wellFormed, isOf.rules_outline, isOf.variables_outline, entries, ran,
    shown, wellFormed.nested_entries shown⟩

end Less

end EditorModes
