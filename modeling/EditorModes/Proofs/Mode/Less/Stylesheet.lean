import EditorModes.Proofs.Grammar.Compile
import EditorModes.Proofs.Mode.Less.Block
import EditorModes.Proofs.Text.LineStarts

/-!
# What is known of a stylesheet

Every stylesheet can be analyzed (`Stylesheet.exists_ofText?`).  No declared variable stands across
an end of a rule or of another declared variable, so the outline, which has the declared variables
placed among the rules, is well arranged (`Stylesheet.IsOf.forest_outline`), with the rules as
before (`Stylesheet.IsOf.rules_outline`) and one node for each declared variable
(`Stylesheet.IsOf.variables_outline`).
-/

namespace EditorModes

namespace Text

/-- There is a slice between two cuts in order. -/
theorem exists_slice? {t : Text} {first last : Nat} (firstCut : t.IsCut first)
    (lastCut : t.IsCut last) (in_order : first ≤ last) :
  ∃ between, t.slice? first last = some between
  := by
  obtain ⟨before, rest, parts, rfl⟩ := firstCut
  obtain ⟨upTo, after, rfl, rfl⟩ := lastCut
  obtain ⟨between, rfl⟩ : before <+: upTo :=
    prefix_of_byteSize_le ⟨rest, parts.symm⟩ (List.prefix_append _ _) in_order
  exact ⟨between, slice?_append before between after⟩

end Text

/-- What may be made of each member may be made of all, one after another. -/
theorem exists_mapM {f : α → Option β} {R : α → β → Prop} {l : List α}
    (each : ∀ a ∈ l, ∃ b, f a = some b ∧ R a b) :
  ∃ results, l.mapM f = some results ∧ List.Forall₂ R l results
  := by
  induction l with
  | nil => exact ⟨[], rfl, .nil⟩
  | cons a l ih =>
    obtain ⟨b, made, related⟩ := each a List.mem_cons_self
    obtain ⟨results, mapped, all_related⟩ := ih fun a among => each a (List.mem_cons_of_mem _ among)
    exact ⟨b :: results, by simp [List.mapM_cons, made, mapped], .cons related all_related⟩

theorem mapM_congr {f g : α → Option β} {l : List α} (same : ∀ a ∈ l, f a = g a) :
  l.mapM f = l.mapM g
  := by
  induction l with
  | nil => rfl
  | cons a l ih =>
    rw [List.mapM_cons, List.mapM_cons, same a List.mem_cons_self,
      ih fun b among => same b (List.mem_cons_of_mem a among)]

namespace Less

open OutlineNode

variable {text masked : Text} {s : Span} {offset : Nat} {node : OutlineNode}
  {nodes added : List OutlineNode} {lo hi brace stop : Nat}

theorem FirmSpan.isCut_of_mask (firm : FirmSpan (mask text) s) :
  text.IsCut s.start ∧ text.IsCut s.stop
  := ⟨firm.start.isCut_of_mask, isCut_of_firm_or_eq firm.stop⟩

/-- Where a variable stands, as is known of the stylesheet. -/
structure Occurrence.IsOf (o : Occurrence) (use : VariableUse) : Prop where
  name_eq : o.name = use.name
  span_eq : o.span = use.span
  declared_iff : o.isDeclaration = use.value.isSome

/-- What is known of a stylesheet when its text is analyzed. -/
structure Stylesheet.IsOf (sheet : Stylesheet) (text : Text) : Prop where
  rules_eq : sheet.rules = ruleTree (mask text)
  occurrences : List.Forall₂ (fun use o => Occurrence.IsOf o use) (variableUses (mask text))
    sheet.occurrences

theorem exists_variableAt?_of_mem {use : VariableUse} (among : use ∈ variableUses masked) :
  ∃ before rest, masked = before ++ '@' :: rest
    ∧ variableAt? before.byteSize (lastMark before) rest = some use
  := exists_variableAt?_of_mem_variablesFrom [] masked among

theorem standsAt_of_mem_variableUses {use : VariableUse} (among : use ∈ variableUses masked) :
  ∃ before name after, masked = before ++ '@' :: name ++ after ∧ use.StandsAt before name after
  := by
  obtain ⟨before, rest, rfl, read⟩ := exists_variableAt?_of_mem among
  obtain ⟨name, after, rfl, stands⟩ := standsAt_of_variableAt? read
  exact ⟨before, name, after, by simp, stands⟩

namespace Stylesheet

/-- What is known of a variable; its value is cut out of the stylesheet. -/
def occurrence? (text : Text) (use : VariableUse) : Option Occurrence := do
  let value ← match use.value with
    | none => pure none
    | some span => (text.slice? span.start span.stop).map fun value => some value.trim
  return { name := use.name, span := use.span, value := value }

/-- Something is known of each variable. -/
theorem exists_occurrence? {use : VariableUse} (among : use ∈ variableUses (mask text)) :
  ∃ o, occurrence? text use = some o ∧ o.IsOf use
  := by
  obtain ⟨before, name, after, masked_eq, stands⟩ := standsAt_of_mem_variableUses among
  rw [occurrence?]
  cases value_eq : use.value with
  | none => exact ⟨_, rfl, rfl, rfl, by rw [value_eq]; rfl⟩
  | some span =>
    have firm := stands.value span value_eq
    rw [← masked_eq] at firm
    obtain ⟨first, last⟩ := firm.isCut_of_mask
    obtain ⟨value, value_cut⟩ := Text.exists_slice? first last firm.start_le
    exact ⟨⟨use.name, use.span, some value.trim⟩, by simp [value_cut], rfl, rfl,
      by rw [value_eq]; rfl⟩

/-- Every stylesheet can be analyzed. -/
theorem exists_ofText? (text : Text) :
  ∃ sheet, ofText? text = some sheet ∧ sheet.IsOf text
  := by
  have each (use : VariableUse) : use ∈ variableUses (mask text) →
      ∃ o, occurrence? text use = some o ∧ o.IsOf use := exists_occurrence?
  obtain ⟨occurrences, mapped, related⟩ := exists_mapM each
  refine ⟨⟨occurrences, ruleTree (mask text), unmatchedBraces (mask text)⟩, ?_, ⟨rfl, related⟩⟩
  change ((variableUses (mask text)).mapM (occurrence? text) >>= _) = _
  rw [mapped]
  rfl

end Stylesheet

/-! ### Declared variables -/

/-- The node of a variable that is declared in a masked stylesheet. -/
structure IsDeclarationIn (masked : Text) (node : OutlineNode) : Prop where
  kind_eq : node.kind = .variable
  leaf : node.children = []
  selection_eq : node.selection = node.span
  nonempty : node.span.start < node.span.stop
  firm : FirmSpan masked node.span
  opens : Opens masked node.span.start
  whole : ∀ offset, Opens masked offset → node.span.start < offset → node.span.stop ≤ offset

/-- The node of a declared variable. -/
def Occurrence.toNode (o : Occurrence) : OutlineNode :=
  .mk o.name .variable o.span o.span []

/-- What is known of a declared variable makes the node of one. -/
theorem Occurrence.IsOf.isDeclarationIn {o : Occurrence} {use : VariableUse} (isOf : o.IsOf use)
    (among : use ∈ variableUses masked) (declared : o.isDeclaration = true) :
  IsDeclarationIn masked o.toNode
  := by
  obtain ⟨before, name, after, rfl, stands⟩ := standsAt_of_mem_variableUses among
  have span_eq : o.toNode.span = use.span := isOf.span_eq
  obtain ⟨nonempty, firm⟩ := stands.firmSpan
  refine ⟨rfl, rfl, rfl, ?_, ?_, ?_, fun offset opens inside => ?_⟩
  · rwa [span_eq]
  · rwa [span_eq]
  · rw [span_eq, stands.span_eq]
    exact ⟨before, '@' :: name ++ after, by simp, rfl, stands.opens (isOf.declared_iff ▸ declared)⟩
  · rw [span_eq] at inside ⊢
    exact stands.stop_le opens inside

/-- A declared variable is as sound as any node. -/
theorem IsDeclarationIn.sound (declared : IsDeclarationIn masked node) :
  node.Sound
  where
  nonempty := declared.nonempty
  selection_within := by
    rw [declared.selection_eq]
    exact ⟨Nat.le_refl _, Nat.le_refl _⟩
  selection_le := by
    rw [declared.selection_eq]
    exact Nat.le_of_lt declared.nonempty
  leaf _ := declared.leaf

/-- A declared variable does not stand across an end of a rule. -/
theorem IsRuleOf.apart {rule : OutlineNode} (isRule : IsRuleOf masked masked.byteSize rule brace)
    (declared : IsDeclarationIn masked node) :
  Forest.Apart rule node
  := by
  rcases Nat.lt_or_ge node.span.start rule.span.start with before | inside
  · exact .inr (.inl (declared.whole _ isRule.opens before))
  rcases Nat.lt_or_ge node.span.start rule.span.stop with within | behind
  · right
    right
    refine ⟨isRule.kind_eq, inside, ?_⟩
    rcases isRule.closes with ⟨closes, -⟩ | atEnd
    · exact declared.whole _ closes within
    · rw [atEnd]
      exact declared.firm.stop_le
  · exact .inl behind

theorem IsDeclarationIn.apart {other : OutlineNode} (first : IsDeclarationIn masked node)
    (declared : IsDeclarationIn masked other) (in_order : node.span.start < other.span.start) :
  Forest.Apart node other
  := .inl (first.whole _ declared.opens in_order)

/-! ### The outline -/

theorem exists_isRuleOf_of_mem {braces : List Nat}
    (rules : List.Forall₂ (IsRuleOf masked stop) nodes braces) (among : node ∈ nodes) :
  ∃ brace, IsRuleOf masked stop node brace
  := by
  obtain ⟨brace, -, isRule⟩ :=
    exists_of_mem_forall₂ (List.Forall₂.flip (R := flip (IsRuleOf masked stop)) rules) among
  exact ⟨brace, isRule⟩

theorem apart_of_alone_eq {other another : OutlineNode} (same : other.alone = another.alone)
    (apart : Forest.Apart other node) :
  Forest.Apart another node
  := by
  have kind_eq : other.kind = another.kind := by rw [← kind_alone, same, kind_alone]
  have span_eq : other.span = another.span := by rw [← span_alone, same, span_alone]
  rwa [Forest.Apart, Holds, ← kind_eq, ← span_eq]

/-- Each node, with one more placed, was there before or is the new one. -/
theorem exists_of_mem_place {placed new : OutlineNode} (leaf : new.children = [])
    (among : placed ∈ preorder (place new nodes)) :
  placed.alone = new.alone ∨ ∃ other ∈ preorder nodes, other.alone = placed.alone
  := by
  obtain ⟨before, after, nodes_eq, placed_eq⟩ := preorder_place leaf nodes
  have alone_among : placed.alone ∈ before ++ new.alone :: after := by
    rw [← placed_eq]
    exact List.mem_map_of_mem among
  rcases List.mem_append.mp alone_among with earlier | later
  · right
    apply List.mem_map.mp
    rw [nodes_eq]
    exact List.mem_append_left _ earlier
  · rcases List.mem_cons.mp later with same | later
    · exact .inl same
    · right
      apply List.mem_map.mp
      rw [nodes_eq]
      exact List.mem_append_right _ later

/-- Declared variables, placed one after another, leave nodes well arranged. -/
theorem forest_placeAll (forest : Forest 0 masked.byteSize nodes)
    (declared : ∀ node ∈ added, IsDeclarationIn masked node)
    (in_order : added.Pairwise fun a b => a.span.start < b.span.start)
    (apart : ∀ node ∈ added, ∀ other ∈ preorder nodes, Forest.Apart other node) :
  Forest 0 masked.byteSize (added.foldl (fun nodes node => place node nodes) nodes)
  := by
  induction added generalizing nodes with
  | nil => exact forest
  | cons new added ih =>
    obtain ⟨behind, in_order⟩ := List.pairwise_cons.mp in_order
    have isNew := declared new List.mem_cons_self
    have grown := forest.place isNew.sound isNew.leaf (Nat.zero_le _) isNew.firm.stop_le
      (apart new List.mem_cons_self)
    refine ih grown (fun node among => declared node (List.mem_cons_of_mem _ among)) in_order ?_
    intro node among other within
    rcases exists_of_mem_place isNew.leaf within with same | ⟨earlier, among_nodes, same⟩
    · have isNode := declared node (List.mem_cons_of_mem _ among)
      exact apart_of_alone_eq same.symm (isNew.apart isNode (behind node among))
    · exact apart_of_alone_eq same (apart node (List.mem_cons_of_mem _ among) earlier among_nodes)

/-- Variables that are placed leave the rules as they are and in their order. -/
theorem rules_placeAll (leaves : ∀ node ∈ added, node.kind = .variable ∧ node.children = [])
    (nodes : List OutlineNode) :
  ((preorder (added.foldl (fun nodes node => place node nodes) nodes)).map alone).filter
      (·.kind = .rule)
    = ((preorder nodes).map alone).filter (·.kind = .rule)
  := by
  induction added generalizing nodes with
  | nil => rfl
  | cons new added ih =>
    obtain ⟨isVariable, leaf⟩ := leaves new List.mem_cons_self
    obtain ⟨before, after, nodes_eq, placed_eq⟩ := preorder_place leaf nodes
    rw [List.foldl_cons, ih fun node among => leaves node (List.mem_cons_of_mem _ among),
      placed_eq, nodes_eq]
    simp [isVariable]

/-- Variables that are placed are all there, with those that were there before. -/
theorem variables_placeAll (leaves : ∀ node ∈ added, node.kind = .variable ∧ node.children = [])
    (nodes : List OutlineNode) :
  (((preorder (added.foldl (fun nodes node => place node nodes) nodes)).map alone).filter
      (·.kind = .variable)).Perm
    (added.map alone ++ ((preorder nodes).map alone).filter (·.kind = .variable))
  := by
  induction added generalizing nodes with
  | nil => exact .refl _
  | cons new added ih =>
    obtain ⟨isVariable, leaf⟩ := leaves new List.mem_cons_self
    obtain ⟨before, after, nodes_eq, placed_eq⟩ := preorder_place leaf nodes
    refine (ih (fun node among => leaves node (List.mem_cons_of_mem _ among)) _).trans ?_
    rw [placed_eq, nodes_eq, List.filter_append, List.filter_append,
      List.filter_cons_of_pos (by simp [isVariable]), List.map_cons, List.cons_append,
      ← List.append_assoc, ← List.append_assoc]
    exact List.perm_middle

namespace Stylesheet

/-- The nodes of the declared variables. -/
def declaredNodes (sheet : Stylesheet) : List OutlineNode :=
  (sheet.occurrences.filter (·.isDeclaration)).map Occurrence.toNode

theorem outline_eq (sheet : Stylesheet) :
  sheet.outline = sheet.declaredNodes.foldl (fun nodes node => place node nodes) sheet.rules
  := by
  rw [declaredNodes, List.foldl_map]
  rfl

namespace IsOf

variable {sheet : Stylesheet}

/-- The nodes of declared variables are those of variables declared in the text. -/
theorem isDeclarationIn (isOf : sheet.IsOf text) (among : node ∈ sheet.declaredNodes) :
  IsDeclarationIn (mask text) node
  := by
  obtain ⟨o, filtered, rfl⟩ := List.mem_map.mp among
  obtain ⟨listed, declared⟩ := List.mem_filter.mp filtered
  obtain ⟨use, used, same⟩ := exists_of_mem_forall₂ isOf.occurrences listed
  exact same.isDeclarationIn used declared

/-- What holds between the spans of variables holds between those known of the stylesheet. -/
theorem pairwise_occurrences (isOf : sheet.IsOf text) {R : Span → Span → Prop}
    (related : (variableUses (mask text)).Pairwise fun a b => R a.span b.span) :
  sheet.occurrences.Pairwise fun a b => R a.span b.span
  := by
  have spans_eq : (variableUses (mask text)).map (·.span) = sheet.occurrences.map (·.span) := by
    rw [← List.forall₂_eq_eq_eq, List.forall₂_map_left_iff, List.forall₂_map_right_iff]
    exact isOf.occurrences.imp fun _ _ same => same.span_eq.symm
  have spans_related := List.pairwise_map.mpr related
  rw [spans_eq] at spans_related
  exact List.pairwise_map.mp spans_related

theorem declared_in_order (isOf : sheet.IsOf text) :
  sheet.declaredNodes.Pairwise fun a b => a.span.start < b.span.start
  := by
  have in_order := isOf.pairwise_occurrences (R := fun a b => a.start < b.start)
    (variablesFrom_in_order 0 none (mask text)).2
  exact List.pairwise_map.mpr (in_order.filter _)

theorem exists_isRuleOf (isOf : sheet.IsOf text) (within : node ∈ preorder sheet.rules) :
  ∃ brace, IsRuleOf (mask text) (mask text).byteSize node brace
  := by
  rw [isOf.rules_eq] at within
  exact exists_isRuleOf_of_mem (ruleTree_spec (mask text)).2 within

theorem leaves (isOf : sheet.IsOf text) :
  ∀ node ∈ sheet.declaredNodes, node.kind = .variable ∧ node.children = []
  := fun _ among => ⟨(isOf.isDeclarationIn among).kind_eq, (isOf.isDeclarationIn among).leaf⟩

/-- The outline is well arranged. -/
theorem forest_outline (isOf : sheet.IsOf text) :
  Forest 0 (mask text).byteSize sheet.outline
  := by
  rw [outline_eq]
  refine forest_placeAll ?_ (fun _ => isOf.isDeclarationIn) isOf.declared_in_order ?_
  · rw [isOf.rules_eq]
    exact (ruleTree_spec (mask text)).1
  · intro node among rule within
    obtain ⟨brace, isRule⟩ := isOf.exists_isRuleOf within
    exact isRule.apart (isOf.isDeclarationIn among)

/-- The rules of the outline are those of the stylesheet, apart from what is below them. -/
theorem map_alone_rules (isOf : sheet.IsOf text) :
  ((preorder sheet.outline).filter (·.kind = .rule)).map alone
    = (preorder (ruleTree (mask text))).map alone
  := by
  have all_rules : (preorder sheet.rules).filter (·.kind = .rule) = preorder sheet.rules := by
    refine List.filter_eq_self.mpr fun node within => ?_
    obtain ⟨brace, isRule⟩ := isOf.exists_isRuleOf within
    simp [isRule.kind_eq]
  rw [← filter_map_alone, outline_eq, rules_placeAll isOf.leaves, filter_map_alone, all_rules,
    isOf.rules_eq]

/-- The outline has one rule for each opening brace, in their order. -/
theorem rules_outline (isOf : sheet.IsOf text) :
  List.Forall₂ (IsRuleOf (mask text) (mask text).byteSize)
    ((preorder sheet.outline).filter (·.kind = .rule)) (openingBraces (mask text))
  := by
  have alone_rules : List.Forall₂ (IsRuleOf (mask text) (mask text).byteSize)
      (((preorder sheet.outline).filter (·.kind = .rule)).map alone)
      (openingBraces (mask text)) := by
    rw [isOf.map_alone_rules, List.forall₂_map_left_iff]
    exact (ruleTree_spec (mask text)).2.imp fun _ _ => isRuleOf_alone_iff.mpr
  exact (List.forall₂_map_left_iff.mp alone_rules).imp fun _ _ => isRuleOf_alone_iff.mp

/-- The outline has one variable for each that is declared. -/
theorem variables_outline (isOf : sheet.IsOf text) :
  ((preorder sheet.outline).filter (·.kind = .variable)).Perm sheet.declaredNodes
  := by
  have placed := variables_placeAll isOf.leaves sheet.rules
  have no_others : (preorder sheet.rules).filter (·.kind = .variable) = [] := by
    refine List.filter_eq_nil_iff.mpr fun node within => ?_
    obtain ⟨brace, isRule⟩ := isOf.exists_isRuleOf within
    simp [isRule.kind_eq]
  rw [← outline_eq, filter_map_alone, filter_map_alone, no_others, List.map_nil, List.append_nil,
    map_alone_eq fun node among => (isOf.leaves node among).2, map_alone_eq] at placed
  · exact placed
  · intro node filtered
    obtain ⟨within, isVariable⟩ := List.mem_filter.mp filtered
    exact (isOf.forest_outline.bounds within).1.leaf (of_decide_eq_true isVariable)

end IsOf

end Stylesheet

end Less

end EditorModes
