import EditorModes.Proofs.Mode.Less.Brace
import EditorModes.Proofs.Mode.Less.MaskBytes
import EditorModes.Proofs.Mode.Less.Outline
import EditorModes.Proofs.Mode.Less.Slicing
import EditorModes.Proofs.Mode.Less.Symbol

/-!
# Spans of what is found

The mask of a stylesheet has spaces where the stylesheet has longer characters, so a cut of the mask
need not be one of the stylesheet.  What is found in the mask starts and ends beside characters that
were not blanked out, though, and there the two have the same cuts.  No part of a stylesheet or of
its mask is cut out inside a character or beyond an end, and the spans that are found lie between
cuts of the stylesheet (`Less.analysis_on_cuts`).
-/

namespace EditorModes

/-- A span in order and within a text, whose ends are cuts of the text. -/
structure Span.OnCuts (s : Span) (t : Text) : Prop where
  start_le : s.start ≤ s.stop
  stop_le : s.stop ≤ t.byteSize
  start : t.IsCut s.start
  stop : t.IsCut s.stop

theorem Span.OnCuts.of_isCut {t : Text} {s : Span} (start_le : s.start ≤ s.stop)
    (first : t.IsCut s.start) (last : t.IsCut s.stop) :
  s.OnCuts t
  := ⟨start_le, last.le_byteSize, first, last⟩

namespace Less

open OutlineNode

variable {text : Text} {sheet : Stylesheet} {offset : Nat}

theorem FirmSpan.onCuts {s : Span} (firm : FirmSpan (mask text) s) :
  s.OnCuts text
  := .of_isCut firm.start_le firm.isCut_of_mask.1 firm.isCut_of_mask.2

namespace Stylesheet

/-- Variables stand between cuts. -/
theorem IsOf.onCuts (isOf : sheet.IsOf text) {o : Occurrence} (among : o ∈ sheet.occurrences) :
  o.span.OnCuts text
  := by
  obtain ⟨use, used, same⟩ := exists_of_mem_forall₂ isOf.occurrences among
  obtain ⟨before, name, after, masked_eq, stands⟩ := standsAt_of_mem_variableUses used
  have firm := stands.firmSpan.2
  rw [← masked_eq, ← same.span_eq] at firm
  exact firm.onCuts

theorem IsOf.onCuts_of_mem_referencesAt (isOf : sheet.IsOf text) {s : Span} {all : Bool}
    (among : s ∈ sheet.referencesAt offset all) :
  s.OnCuts text
  := by
  obtain ⟨o, found, rfl⟩ := exists_of_mem_referencesAt among
  exact isOf.onCuts (mem_occurrencesAt_iff.mp found).1

theorem IsOf.onCuts_of_mem_declarationsAt (isOf : sheet.IsOf text) {s : Span}
    (among : s ∈ sheet.declarationsAt offset) :
  s.OnCuts text
  := by
  obtain ⟨o, found, rfl⟩ := exists_of_mem_declarationsAt among
  exact isOf.onCuts (mem_occurrencesAt_iff.mp found).1

theorem IsOf.onCuts_of_mem_outline (isOf : sheet.IsOf text) {node : OutlineNode}
    (among : node ∈ preorder sheet.outline) :
  node.span.OnCuts text ∧ node.selection.OnCuts text
  := by
  obtain ⟨sound, -⟩ := isOf.forest_outline.bounds among
  obtain ⟨cuts, named⟩ := isOf.isCut_of_mem_outline among
  exact ⟨.of_isCut (Nat.le_of_lt sound.nonempty) cuts.1 cuts.2,
    .of_isCut sound.selection_le named.1 named.2⟩

theorem IsOf.onCuts_of_mem_colorVariables (isOf : sheet.IsOf text) {color : ColorUse}
    (among : color ∈ sheet.colorVariables) :
  color.span.OnCuts text
  := by
  obtain ⟨o, listed, span_eq⟩ := exists_of_mem_colorVariables among
  rw [span_eq]
  exact isOf.onCuts listed

end Stylesheet

/-- Braces without partners lie between cuts. -/
theorem LoneBrace.IsOf.onCuts {b : LoneBrace} (isOf : b.IsOf (mask text)) :
  b.span.OnCuts text
  := by
  obtain ⟨⟨before, after, masked_eq, size_eq⟩, -⟩ := isOf
  have braced : b.imbalance.brace.utf8Size = 1 ∧ b.imbalance.brace ≠ ' ' := by
    rcases b.imbalance.brace_cases with brace_eq | brace_eq
    · rw [brace_eq]
      decide
    · rw [brace_eq]
      decide
  have edged : Edged [b.imbalance.brace] :=
    ⟨⟨_, rfl, braced.2⟩, ⟨_, rfl, braced.2⟩⟩
  have firm := edged.firmSpan before after
  rw [List.append_assoc, List.singleton_append, ← masked_eq, Text.byteSize_append,
    Text.byteSize_cons, braced.1, size_eq] at firm
  exact firm.onCuts

/-- Every worker finds the problems of a stylesheet, which lie between cuts. -/
theorem Worker.exists_problems? (w : Worker) (text : Text) :
  ∃ problems, w.problems? text = some problems ∧ ∀ p ∈ problems, p.span.OnCuts text
  := by
  rw [problems?]
  by_cases ignored : w.options.unbalancedBraces = .ignore
  · exact ⟨[], by rw [if_pos ignored], by simp⟩
  · obtain ⟨sheet, analyzed, -⟩ := Stylesheet.exists_ofText? text
    refine ⟨_, by rw [if_neg ignored, analyzed, Option.map_some], fun p among => ?_⟩
    obtain ⟨b, lone, rfl⟩ := List.mem_map.mp among
    rw [Stylesheet.loneBraces_eq analyzed] at lone
    exact (((unmatchedBraces_spec (mask text)).1 b).mp lone).onCuts

/-- The white space at the start of a line is measured up to a cut of the line. -/
theorem isCut_of_editIndent? {number : Nat} {line indent : Text} {edit : IndentEdit}
    (edited : editIndent? number line indent = some edit) :
  edit.line = number ∧ line.IsCut edit.current
  := by
  rw [editIndent?] at edited
  split at edited
  · simp at edited
  · obtain rfl := Option.some.inj edited
    exact ⟨rfl, .of_isPrefix (List.takeWhile_prefix _)⟩

/-- Lines are edited up to one of their own cuts. -/
theorem isCut_of_mem_indentFrom {unit : Text} {number : Nat} {depth : Int}
    {lines : List (Text × Text)} {edit : IndentEdit}
    (among : edit ∈ indentFrom unit number depth lines) :
  ∃ i line, edit.line = number + i ∧ lines[i]?.map (·.1) = some line
    ∧ line.dropCarriageReturn.IsCut edit.current
  := by
  induction lines generalizing number depth with
  | nil => simp [indentFrom] at among
  | cons first lines ih =>
    obtain ⟨line, masked⟩ := first
    have here {indent : Text}
        (edited : edit ∈ (editIndent? number line.dropCarriageReturn indent).toList) :
        ∃ i line', edit.line = number + i ∧ ((line, masked) :: lines)[i]?.map (·.1) = some line'
          ∧ line'.dropCarriageReturn.IsCut edit.current := by
      obtain ⟨number_eq, isCut⟩ := isCut_of_editIndent? (Option.mem_toList.mp edited)
      exact ⟨0, line, number_eq, rfl, isCut⟩
    have later {depth : Int} (among : edit ∈ indentFrom unit (number + 1) depth lines) :
        ∃ i line', edit.line = number + i ∧ ((line, masked) :: lines)[i]?.map (·.1) = some line'
          ∧ line'.dropCarriageReturn.IsCut edit.current := by
      obtain ⟨i, line', number_eq, listed, isCut⟩ := ih among
      exact ⟨i + 1, line', by omega, by simpa using listed, isCut⟩
    rw [indentFrom] at among
    dsimp only at among
    split at among
    · rcases List.mem_append.mp among with edited | among
      · split at edited
        · exact here edited
        · simp at edited
      · exact later among
    · rcases List.mem_append.mp among with edited | among
      · exact here edited
      · exact later among

/-- The indentation of a line of a stylesheet ends at a cut of the line. -/
theorem exists_line_of_mem_indentEdits {unit : Text} {edit : IndentEdit}
    (among : edit ∈ indentEdits text unit) :
  ∃ line, (text.splitOnChar '\n')[edit.line]? = some line
    ∧ line.dropCarriageReturn.IsCut edit.current
  := by
  obtain ⟨i, line, number_eq, listed, isCut⟩ := isCut_of_mem_indentFrom among
  rw [Nat.zero_add] at number_eq
  obtain ⟨⟨line', masked⟩, both, rfl⟩ := Option.map_eq_some_iff.mp listed
  rw [number_eq]
  exact ⟨_, (List.getElem?_zip_eq_some.mp both).1, isCut⟩

/--
Whatever is asked about a stylesheet, at any offset and by any worker, is found without a part that
is cut out inside a character or beyond an end.  Masking comes to its end, and the variables, rules,
completions, colors and indentation that are found by byte offsets are those that are known.  The
spans of what is found are in order and within the stylesheet, and start and end at its cuts.
-/
theorem analysis_on_cuts (text unit : Text) (offset : Nat) :
  Masking text text.bytes 0 (mask text).bytes
    ∧ (∃ sheet, Stylesheet.ofText? text = some sheet ∧ slicedSheet? text = some sheet
      ∧ (∀ o ∈ sheet.occurrences, o.span.OnCuts text)
      ∧ (∀ shown ∈ sheet.hoverAt? offset, shown.1.OnCuts text)
      ∧ (∀ all, ∀ s ∈ sheet.referencesAt offset all, s.OnCuts text)
      ∧ (∀ s ∈ sheet.declarationsAt offset, s.OnCuts text)
      ∧ (∀ o ∈ sheet.occurrencesAt offset, o.span.OnCuts text)
      ∧ ∀ node ∈ preorder sheet.outline, node.span.OnCuts text ∧ node.selection.OnCuts text)
    ∧ (∃ suggestions, suggestionsAt? text offset = some suggestions
      ∧ slicedSuggestions? text offset = some suggestions)
    ∧ (∃ colors, colors? text = some colors ∧ slicedColors? text = some colors
      ∧ ∀ color ∈ colors, color.span.OnCuts text)
    ∧ (∀ w : Worker, ∃ problems, w.problems? text = some problems
      ∧ ∀ p ∈ problems, p.span.OnCuts text)
    ∧ slicedIndentation? text unit = some (indentEdits text unit)
    ∧ ∀ edit ∈ indentEdits text unit, ∃ line, (text.splitOnChar '\n')[edit.line]? = some line
      ∧ line.dropCarriageReturn.IsCut edit.current
  := by
  obtain ⟨sheet, literals, analyzed, isOf, firm, colored, found⟩ := slicedColors?_eq text
  obtain ⟨suggestions, suggested, known⟩ := slicedSuggestions?_eq text offset
  refine ⟨masking text, ⟨sheet, analyzed, ?_, fun o among => isOf.onCuts among, ?_, ?_, ?_, ?_, ?_⟩,
    ⟨suggestions, known, suggested⟩, ⟨_, found, colored, ?_⟩, fun w => w.exists_problems? text,
    slicedIndentation?_eq text unit, fun edit among => exists_line_of_mem_indentEdits among⟩
  · rw [slicedSheet?_eq, analyzed]
  · rintro ⟨s, declaration⟩ shown
    exact isOf.onCuts_of_mem_referencesAt (Stylesheet.mem_referencesAt_of_hoverAt? shown)
  · intro all s among
    exact isOf.onCuts_of_mem_referencesAt among
  · intro s among
    exact isOf.onCuts_of_mem_declarationsAt among
  · intro o among
    exact isOf.onCuts (Stylesheet.mem_occurrencesAt_iff.mp among).1
  · intro node among
    exact isOf.onCuts_of_mem_outline among
  · intro color among
    rcases List.mem_append.mp (List.mem_mergeSort.mp among) with literal | variable_use
    · exact (firm color literal).onCuts
    · exact isOf.onCuts_of_mem_colorVariables variable_use

end Less

end EditorModes
