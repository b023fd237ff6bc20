import EditorModes.Proofs.Mode.Less.Depth

/-!
# Colors in selectors

The name of a rule is what its statement has before the opening brace, without white space at the
ends (`Less.Stylesheet.IsOf.exists_opening_brace`).  Whether a color is in a value is told by a
colon before it in its statement and by what follows right behind it, so a color in a selector is
reported when it has a colon before it and more of the selector behind (`Less.colors_in_selector`).
-/

namespace EditorModes.Less

open OutlineNode
open BlockScan (ofMasked)

variable {text masked part : Text} {span : Span} {node : OutlineNode} {sheet : Stylesheet}

/-! ### The names of rules -/

namespace BlockScan

/-- An opening brace names one more rule, and the others keep their names. -/
theorem selections_read (scan : BlockScan) (offset : Nat) (c : Char) (stop : Nat) :
  ((scan.read offset c).heads stop).map (·.selection)
    = (scan.heads stop).map (·.selection)
      ++ if c = '\x7b' then [(OpenBlock.ofStatement scan.statement offset).selection] else []
  := by
  have step := scan.step offset c
  generalize scan.read offset c = found at step ⊢
  cases step with
  | opening =>
    simp [heads, openHeads_cons, OpenBlock.ofStatement, OpenBlock.toNode, alone, selection]
  | lone => exact (List.append_nil _).symm
  | @closing block outer opened_eq =>
    have found_eq : scan.heads stop = (preorder scan.rules).map alone ++ openHeads stop outer
        ++ (block.toNode stop).alone :: (preorder block.children).map alone := by
      rw [heads, opened_eq, openHeads_cons, List.append_assoc]
    have children_eq : (block.toNode (offset + 1)).children = block.children := rfl
    rw [closeBlock, heads_addRule, found_eq, preorder_cons, children_eq, preorder_nil,
      List.append_nil, if_neg (by decide), List.append_nil, List.map_append, List.map_append]
    rfl
  | ending => exact (List.append_nil _).symm
  | inner plain =>
    rw [if_neg (ne_brace_of_inner plain).1, List.append_nil]
    rfl

/-- Each rule is named by the statement before its opening brace. -/
theorem exists_of_mem_selections (stop : Nat)
    (among : span ∈ ((ofMasked masked).heads stop).map (·.selection)) :
  ∃ part rest : Text, masked = part ++ '\x7b' :: rest
    ∧ span = (OpenBlock.ofStatement (openStatement part) part.byteSize).selection
  := by
  induction masked using List.reverseRecOn with
  | nil => simp [ofMasked, readAll, heads, openHeads] at among
  | append_singleton t c ih =>
    rw [ofMasked_append_singleton, selections_read, statement_ofMasked] at among
    rcases List.mem_append.mp among with among | here
    · obtain ⟨part, rest, rfl, span_eq⟩ := ih among
      exact ⟨part, rest ++ [c], by simp, span_eq⟩
    · split at here
      · next brace =>
        subst brace
        exact ⟨t, [], rfl, List.mem_singleton.mp here⟩
      · simp at here

end BlockScan

/-- Each rule of an outline is named by the statement before its opening brace. -/
theorem Stylesheet.IsOf.exists_opening_brace (isOf : sheet.IsOf text)
    (among : node ∈ preorder sheet.outline) (rule : node.kind = .rule) :
  ∃ part rest : Text, mask text = part ++ '\x7b' :: rest
    ∧ node.selection = (OpenBlock.ofStatement (openStatement part) part.byteSize).selection
  := by
  apply BlockScan.exists_of_mem_selections (mask text).byteSize
  rw [← map_alone_ruleTree, ← isOf.map_alone_rules, List.map_map]
  refine List.mem_map.mpr ⟨node, List.mem_filter.mpr ⟨among, decide_eq_true rule⟩, ?_⟩
  cases node
  rfl

/-! ### Colors -/

/-- The spans of the colors that are written in a stylesheet, in values or not. -/
def colorLiterals (text : Text) : List Span :=
  colorsFrom 0 none 0 (mask text)

theorem mem_valueColors_iff :
  span ∈ valueColorsFrom 0 none false 0 (mask text)
    ↔ span ∈ colorLiterals text ∧ slicedInValue? (mask text) span = some true
  := mem_sift?_iff (sift?_colorsFrom [] (mask text) none 0)

/-- Variables do not stand where colors are written. -/
theorem Stylesheet.IsOf.notMem_colorLiterals (isOf : sheet.IsOf text) {color : ColorUse}
    (among : color ∈ sheet.colorVariables) :
  color.span ∉ colorLiterals text
  := by
  intro written
  have written : color.span ∈ colorsFrom (Text.byteSize []) none 0 (mask text) := written
  obtain ⟨o, listed, color_eq⟩ := exists_of_mem_colorVariables among
  obtain ⟨use, used, same⟩ := exists_of_mem_forall₂ isOf.occurrences listed
  obtain ⟨before, name, after, masked_eq, stands⟩ := standsAt_of_mem_variableUses used
  obtain ⟨other, rest, last, length, parts, found, span_eq⟩ := exists_colorLength?_of_mem written
  have size_eq : before.byteSize = other.byteSize := by
    rw [color_eq, same.span_eq, stands.span_eq] at span_eq
    exact congrArg Span.start span_eq
  rw [List.nil_append, masked_eq, List.append_assoc] at parts
  obtain ⟨-, rfl⟩ := Text.append_inj_of_byteSize_eq parts size_eq
  exact head?_ne_of_colorLength? found rfl

/-- The colors of a stylesheet are those in values and the variables that stand for some. -/
theorem exists_colors? (text : Text) :
  ∃ sheet colors, Stylesheet.ofText? text = some sheet ∧ sheet.IsOf text
    ∧ colors? text = some colors
    ∧ let spans := valueColorsFrom 0 none false 0 (mask text)
      (∀ color ∈ colors, color.span ∈ spans ∨ color ∈ sheet.colorVariables)
        ∧ ∀ span ∈ spans, ∃ color ∈ colors, color.span = span
  := by
  obtain ⟨literals, mapped, related⟩ := exists_literals text
  obtain ⟨sheet, analyzed, isOf⟩ := Stylesheet.exists_ofText? text
  let colors := (literals ++ sheet.colorVariables).mergeSort fun a b => a.span.start ≤ b.span.start
  refine ⟨sheet, colors, analyzed, isOf, ?_, fun color among => ?_, fun span listed => ?_⟩
  · rw [colors?, analyzed]
    exact congrArg (Option.bind · _) mapped
  · refine (List.mem_append.mp (List.mem_mergeSort.mp among)).imp_left fun literal => ?_
    obtain ⟨span, listed, span_eq⟩ := exists_of_mem_forall₂ related literal
    rwa [span_eq]
  · obtain ⟨color, literal, span_eq⟩ := exists_of_mem_forall₂ related.flip listed
    exact ⟨color, List.mem_mergeSort.mpr (List.mem_append_left _ literal), span_eq⟩

/-! ### Selectors -/

/--
A selector in a masked stylesheet: the text before its statement, white space, the selector itself,
more white space, and the text from the opening brace on.
-/
structure Selector (masked : Text) (selected : Span) (prior lead name trail after : Text) :
    Prop where
  parts : masked = prior ++ lead ++ name ++ (trail ++ '\x7b' :: after)
  span_eq : selected = ⟨Text.byteSize (prior ++ lead), Text.byteSize (prior ++ lead ++ name)⟩
  lead_spaces : ∀ c ∈ lead, Property.isSpace c = true
  trail_spaces : ∀ c ∈ trail, Property.isSpace c = true
  /-- The selector ends with something else than white space. -/
  ends : ∀ c ∈ name.getLast?, Property.isSpace c = false
  /-- No statement ends within the statement. -/
  inner : ∀ c ∈ lead ++ name, isStatementEnd c = false
  starts : ∀ c ∈ prior.getLast?, isStatementEnd c = true

/-- Before each opening brace stands a selector. -/
theorem exists_selector (part after : Text) :
  ∃ prior lead name trail,
    Selector (part ++ '\x7b' :: after)
      (OpenBlock.ofStatement (openStatement part) part.byteSize).selection
      prior lead name trail after
  := by
  obtain ⟨prior, part_eq, inner, starts⟩ :=
    Text.exists_suffixWhile (fun c => !isStatementEnd c) part
  obtain ⟨lead, trail, parts, -, lead_spaces, trail_spaces, selection_eq⟩ :=
    exists_selection prior (openStatement part)
  have whole : prior ++ openStatement part = part := part_eq.symm
  rw [whole] at selection_eq
  refine ⟨prior, lead, (openStatement part).trim, trail, ?_, selection_eq, lead_spaces,
    trail_spaces, isSpace_getLast?_trim _, fun c among => ?_, fun c last => ?_⟩
  · conv_lhs => rw [← whole, parts]
    simp
  · have within : c ∈ openStatement part := by
      rw [parts]
      exact List.mem_append_left _ among
    simpa using inner c within
  · simpa using starts c last

namespace Selector

variable {selected : Span} {prior lead name trail after before between more : Text}

/-- Within a selector, the statement has a colon when the selector has one before. -/
theorem contains_openStatement (selector : Selector masked selected prior lead name trail after)
    (name_eq : name = before ++ more) :
  (openStatement (prior ++ lead ++ before)).contains ':' = decide (':' ∈ before)
  := by
  have statement_eq : openStatement (prior ++ lead ++ before) = lead ++ before := by
    rw [openStatement, List.append_assoc]
    refine Text.suffixWhile_append_run (fun c among => ?_) fun c last => ?_
    · have inside : c ∈ lead ++ name := by
        rw [name_eq, ← List.append_assoc]
        exact List.mem_append_left more among
      simp [selector.inner c inside]
    · simp [selector.starts c last]
  have no_colon : ':' ∉ lead := fun among =>
    absurd (selector.lead_spaces ':' among) (by decide)
  rw [statement_eq]
  simp [no_colon]

/-- Behind a part of a selector comes the brace if the part is the last one of the selector. -/
theorem head?_trimStart (selector : Selector masked selected prior lead name trail after)
    (name_eq : name = before ++ more) :
  (Text.trimStart (more ++ (trail ++ '\x7b' :: after))).head? = some '\x7b' ↔ more = []
  := by
  constructor
  · intro brace
    by_contra nonempty
    obtain ⟨first, c, more_eq⟩ := (List.eq_nil_or_concat more).resolve_left nonempty
    have marks : Property.isSpace c = false := selector.ends c (by simp [name_eq, more_eq])
    obtain ⟨d, rest, shown⟩ : ∃ d rest, more.dropWhile Property.isSpace = d :: rest := by
      apply List.exists_cons_of_ne_nil
      intro empty
      have space := List.dropWhile_eq_nil_iff.mp empty c (by simp [more_eq])
      rw [marks] at space
      contradiction
    have among : d ∈ more := by
      apply (List.dropWhile_suffix Property.isSpace).subset
      rw [shown]
      exact List.mem_cons_self
    have ends := selector.inner d (by simp [name_eq, among])
    rw [Text.trimStart, Text.trimStartBy, List.dropWhile_append, shown] at brace
    obtain rfl : d = '\x7b' := by simpa using brace
    revert ends
    decide
  · rintro rfl
    rw [Text.trimStart, Text.trimStartBy, List.nil_append,
      List.dropWhile_append_of_pos selector.trail_spaces]
    rfl

/-- A part of a selector seems to be in a value behind a colon, unless the selector ends there. -/
theorem slicedInValue?_eq (selector : Selector masked selected prior lead name trail after)
    (name_eq : name = before ++ between ++ more) :
  slicedInValue? masked ⟨Text.byteSize (prior ++ lead ++ before),
      Text.byteSize (prior ++ lead ++ before ++ between)⟩
    = some (decide (':' ∈ before ∧ more ≠ []))
  := by
  have masked_eq : masked = prior ++ lead ++ before ++ between
      ++ (more ++ (trail ++ '\x7b' :: after)) := by
    rw [selector.parts, name_eq]
    simp
  rw [masked_eq, slicedInValue?_append,
    selector.contains_openStatement (name_eq.trans (List.append_assoc _ _ _))]
  simp [selector.head?_trimStart name_eq]

theorem slice?_eq (selector : Selector masked selected prior lead name trail after)
    (name_eq : name = before ++ more) :
  masked.slice? selected.start (Text.byteSize (prior ++ lead ++ before)) = some before
  := by
  have masked_eq : masked = prior ++ lead ++ before ++ (more ++ (trail ++ '\x7b' :: after)) := by
    rw [selector.parts, name_eq]
    simp
  rw [masked_eq, selector.span_eq, Text.slice?_append]

/-- A color in a selector stands between two parts of it. -/
theorem exists_between (selector : Selector (mask text) selected prior lead name trail after)
    (written : span ∈ colorLiterals text) (within : span.Within selected) :
  ∃ before between more : Text, name = before ++ between ++ more
    ∧ span = ⟨Text.byteSize (prior ++ lead ++ before),
      Text.byteSize (prior ++ lead ++ before ++ between)⟩
  := by
  have written : span ∈ colorsFrom (Text.byteSize []) none 0 (mask text) := written
  have firm : FirmSpan (mask text) span := firmSpan_of_mem_colorsFrom written
  have cuts (offset : Nat) (cut : text.IsCut offset) :
      (prior ++ lead ++ name ++ (trail ++ '\x7b' :: after)).IsCut offset := by
    rw [← selector.parts]
    exact (mask_blanked text).isCut cut
  obtain ⟨start_le, le_stop⟩ := within
  rw [selector.span_eq] at start_le le_stop
  obtain ⟨before, between, more, name_eq, start_eq, stop_eq⟩ := Text.exists_between_inside
    (cuts _ firm.isCut_of_mask.1) (cuts _ firm.isCut_of_mask.2) start_le firm.start_le le_stop
  exact ⟨before, between, more, name_eq, by rw [start_eq, stop_eq]⟩

/-- A color in a selector seems to be in a value behind a colon, when the selector goes on. -/
theorem slicedInValue?_iff (selector : Selector (mask text) selected prior lead name trail after)
    (written : span ∈ colorLiterals text) (within : span.Within selected) :
  slicedInValue? (mask text) span = some true
    ↔ (∃ name ∈ (mask text).slice? selected.start span.start, ':' ∈ name)
      ∧ span.stop < selected.stop
  := by
  obtain ⟨before, between, more, name_eq, rfl⟩ := selector.exists_between written within
  have goes_on : more ≠ []
      ↔ Text.byteSize (prior ++ lead ++ before ++ between) < selected.stop := by
    have stop_eq : selected.stop
        = Text.byteSize (prior ++ lead ++ before ++ between) + more.byteSize := by
      rw [selector.span_eq, name_eq, ← Text.byteSize_append]
      simp only [List.append_assoc]
    rw [stop_eq, Nat.lt_add_right_iff_pos]
    refine ⟨Text.byteSize_pos, ?_⟩
    rintro positive rfl
    exact absurd positive (Nat.lt_irrefl 0)
  have cut := selector.slice?_eq (name_eq.trans (List.append_assoc _ _ _))
  rw [selector.slicedInValue?_eq name_eq, cut, ← goes_on]
  simp

end Selector

/--
The colors of a stylesheet are some of those written in it and the variables that stand for one.  A
color that is written in the selector of a rule is among them exactly when a colon stands before it
in the selector and the selector goes on behind it.
-/
theorem colors_in_selector (text : Text) :
  ∃ sheet colors, Stylesheet.ofText? text = some sheet ∧ colors? text = some colors
    ∧ (∀ color ∈ colors, color.span ∈ colorLiterals text ∨ color ∈ sheet.colorVariables)
    ∧ ∀ rule ∈ preorder sheet.outline, rule.kind = .rule →
      ∀ span ∈ colorLiterals text, span.Within rule.selection →
        ((∃ color ∈ colors, color.span = span)
          ↔ (∃ name ∈ (mask text).slice? rule.selection.start span.start, ':' ∈ name)
            ∧ span.stop < rule.selection.stop)
  := by
  obtain ⟨sheet, colors, analyzed, isOf, colors_eq, reported, all⟩ := exists_colors? text
  refine ⟨sheet, colors, analyzed, colors_eq, fun color among => ?_, fun node among rule => ?_⟩
  · exact (reported color among).imp_left fun value => (mem_valueColors_iff.mp value).1
  · intro span written within
    have reported_iff : (∃ color ∈ colors, color.span = span)
        ↔ span ∈ valueColorsFrom 0 none false 0 (mask text) := by
      refine ⟨?_, all span⟩
      rintro ⟨color, among, rfl⟩
      exact (reported color among).resolve_right fun stands =>
        isOf.notMem_colorLiterals stands written
    obtain ⟨part, rest, masked_eq, selection_eq⟩ := isOf.exists_opening_brace among rule
    obtain ⟨prior, lead, name, trail, selector⟩ := exists_selector part rest
    rw [← masked_eq, ← selection_eq] at selector
    rw [reported_iff, mem_valueColors_iff, and_iff_right written]
    exact selector.slicedInValue?_iff written within

/-- A color behind a pseudo-class is reported, though it stands in the selector of a rule. -/
theorem color_in_selector :
  let text : Text := ['a', ':', 'h', 'o', 'v', 'e', 'r', ' ', '#', 'a', 'b', 'c', ' ', 'b', ' ',
    '\x7b', '\x7d']
  ∃ sheet rule, Stylesheet.ofText? text = some sheet ∧ rule ∈ preorder sheet.outline
    ∧ rule.kind = .rule ∧ rule.selection = ⟨0, 14⟩
    ∧ colors? text = some [⟨⟨8, 12⟩, ['#', 'a', 'b', 'c']⟩] ∧ ⟨8, 12⟩ ∈ colorLiterals text
  := by
  intro text
  let rule : OutlineNode := .mk (text.take 14) .rule ⟨0, 17⟩ ⟨0, 14⟩ []
  have outline_eq : (Stylesheet.ofText? text).map (·.outline) = some [rule] := rfl
  obtain ⟨sheet, analyzed, outline_eq⟩ := Option.map_eq_some_iff.mp outline_eq
  have colors_eq : colors? text = some ([⟨⟨8, 12⟩, ['#', 'a', 'b', 'c']⟩].mergeSort
      fun a b => a.span.start ≤ b.span.start) := rfl
  rw [List.mergeSort_singleton] at colors_eq
  refine ⟨sheet, rule, analyzed, ?_, rfl, rfl, colors_eq, by decide⟩
  rw [outline_eq]
  exact mem_preorder List.mem_cons_self

end EditorModes.Less
