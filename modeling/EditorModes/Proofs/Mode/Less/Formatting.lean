import EditorModes.Proofs.Mode.Less.Indentation
import EditorModes.Proofs.Mode.Less.Looking
import EditorModes.Proofs.Protocol.TextEdit
import Mathlib.Data.List.DropRight

/-!
# Formatting

The edits of a formatted stylesheet replace the white space that lines start with, which they
measure in bytes while a client counts UTF-16 units.  They can be applied always, and keep the
number of lines.  All that lines have besides their white space is kept exactly when the lines that
are edited start with characters of one byte, or have nothing else (`Less.format_keeps_content`).
-/

namespace EditorModes

namespace Text

variable {content t : Text} {edits : List TextEdit} {e : TextEdit}

theorem map_mapIdx_eq_map_iff {f : Nat → α → α} {g : α → β} {l : List α} :
  (l.mapIdx f).map g = l.map g ↔ ∀ n, ∀ a ∈ l[n]?, g (f n a) = g a
  := by
  rw [List.ext_getElem?_iff]
  apply forall_congr'
  intro n
  rw [List.getElem?_map, List.getElem?_mapIdx, List.getElem?_map]
  cases l[n]? <;> simp

theorem takeWhile_append_trimStart (t : Text) :
  t.takeWhile Property.isSpace ++ t.trimStart = t
  := List.takeWhile_append_dropWhile

theorem trimStart_append {spaces : Text} (all_spaces : ∀ c ∈ spaces, Property.isSpace c = true)
    (t : Text) :
  trimStart (spaces ++ t) = t.trimStart
  := List.dropWhile_append_of_pos all_spaces

/-- A text that starts with no white space is left as it is only when no columns are dropped. -/
theorem trimStart_dropColumns_iff (trimmed : t.trimStart = t) (column : Nat) :
  (t.dropColumns column).trimStart = t ↔ t = [] ∨ column = 0
  := by
  rw [← dropColumns_eq_self_iff]
  constructor
  · intro same
    obtain ⟨removed, parts, -⟩ := t.exists_dropColumns column
    have part : t.dropColumns column <:+ t := ⟨removed, parts.symm⟩
    have whole : t <:+ t.dropColumns column := by
      have part : (t.dropColumns column).trimStart <:+ t.dropColumns column :=
        List.dropWhile_suffix Property.isSpace
      rwa [same] at part
    exact part.eq_of_length (Nat.le_antisymm part.length_le whole.length_le)
  · intro same
    rw [same, trimmed]

/--
The edit of a line that replaces as many columns as its white space has bytes keeps the rest of the
line, when there is any, exactly if the white space has one byte for each character.
-/
theorem trimStart_editLine_iff (spaces : ∀ c ∈ e.newText.toList, Property.isSpace c = true)
    (column_eq : e.range.stop.column = byteSize (content.takeWhile Property.isSpace)) :
  (content.editLine e).trimStart = content.trimStart
    ↔ content.trimStart = [] ∨ ∀ c ∈ content.takeWhile Property.isSpace, c.utf8Size = 1
  := by
  obtain ⟨more, size_eq⟩ := Nat.exists_eq_add_of_le
    (utf16Size_le_byteSize (content.takeWhile Property.isSpace))
  have left_eq : (content.editLine e).trimStart
      = (content.trimStart.dropColumns more).trimStart := by
    have dropped := dropColumns_append (content.takeWhile Property.isSpace) content.trimStart more
    rw [takeWhile_append_trimStart, ← size_eq] at dropped
    rw [editLine, trimStart_append spaces, column_eq, dropped]
  have more_iff : (∀ c ∈ content.takeWhile Property.isSpace, c.utf8Size = 1) ↔ more = 0 := by
    rw [← utf16Size_eq_byteSize_iff, size_eq]
    omega
  have trimmed : content.trimStart.trimStart = content.trimStart :=
    List.dropWhile_idempotent Property.isSpace content
  rw [left_eq, more_iff, trimStart_dropColumns_iff trimmed]

end Text

namespace Less

open Text

variable {e : IndentEdit} {unit text : Text}

/-- An edit as it is sent to a client. -/
def IndentEdit.toTextEdit (e : IndentEdit) : TextEdit :=
  ⟨⟨⟨e.line, 0⟩, ⟨e.line, e.current⟩⟩, String.ofList e.indent⟩

/-- The unit of indentation that a client asks for. -/
def indentUnit (tabSize : Nat) (insertSpaces : Bool) : Text :=
  if insertSpaces then List.replicate tabSize ' ' else ['\t']

theorem finds_format (d : Document) (tabSize : Nat) (insertSpaces : Bool) :
  Finds (format d tabSize insertSpaces)
    (.ok (answerOfList ((indentEdits d.text (indentUnit tabSize insertSpaces)).map (·.toTextEdit))))
  := by
  apply Finds.bind_ok (Finds.analyze _)
  apply Finds.pure

theorem getD_answerOfList (l : List α) :
  (answerOfList l).getD [] = l
  := by
  cases l <;> rfl

/-- A client indents by white space that ends no line. -/
theorem mem_indentUnit {tabSize : Nat} {insertSpaces : Bool} {c : Char}
    (among : c ∈ indentUnit tabSize insertSpaces) :
  Property.isSpace c = true ∧ Inner c
  := by
  rw [indentUnit] at among
  split at among
  · rw [List.eq_of_mem_replicate among]
    exact ⟨by decide, by decide, by decide⟩
  · rw [List.mem_singleton.mp among]
    exact ⟨by decide, by decide, by decide⟩

/-- The edits of a stylesheet are at its lines, which they indent by the unit. -/
theorem line_of_mem_indentEdits (among : e ∈ indentEdits text unit) :
  (∃ content, text.lineContents[e.line]? = some content
      ∧ e.current = byteSize (content.takeWhile Property.isSpace))
    ∧ ∀ c ∈ e.indent, c ∈ unit
  := by
  obtain ⟨n, before, piece, region, line, edited⟩ := mem_indentEdits_iff.mp among
  obtain ⟨indent, indented, -, rfl⟩ := editLine?_eq_some_iff.mp edited
  constructor
  · obtain ⟨after, found, parts, place⟩ := line.place
    refine ⟨piece.dropCarriageReturn, ?_, rfl⟩
    have listed : text.lines[n]? = some found :=
      line?_eq_some_iff.mpr ⟨before, piece, after, parts, place⟩
    have contents_eq : text.lines.map (·.content) = text.lineContents := map_content_linesFrom 0 _
    rw [← contents_eq, List.getElem?_map, listed, dropCarriageReturn_eq_iff.mpr place.ending]
    rfl
  · rcases indented with ⟨-, -, rfl⟩ | ⟨-, rfl⟩
    · simp
    · intro c among
      obtain ⟨copy, copied, among⟩ := List.mem_flatten.mp among
      rwa [List.eq_of_mem_replicate copied] at among

/-- The edits that a client is sent are in the order of their lines, which they stay on. -/
theorem toTextEdit_lines (text : Text) (tabSize : Nat) (insertSpaces : Bool) :
  ((indentEdits text (indentUnit tabSize insertSpaces)).map (·.toTextEdit)).Pairwise
      (·.range.start.line < ·.range.start.line)
    ∧ ∀ e ∈ (indentEdits text (indentUnit tabSize insertSpaces)).map (·.toTextEdit),
      e.AtLineStart ∧ (∀ c ∈ e.newText.toList, Property.isSpace c = true)
        ∧ ∃ content, text.lineContents[e.range.start.line]? = some content
          ∧ e.range.stop.column = byteSize (content.takeWhile Property.isSpace)
  := by
  constructor
  · apply List.pairwise_map.mpr
    apply (indentFrom_in_order _ 0 0 _).1
  · intro sent among
    obtain ⟨e, listed, rfl⟩ := List.mem_map.mp among
    obtain ⟨on_line, indented⟩ := line_of_mem_indentEdits listed
    have indent_eq : e.toTextEdit.newText.toList = e.indent := String.toList_ofList
    have unit_of (c : Char) (among : c ∈ e.toTextEdit.newText.toList) :
        Property.isSpace c = true ∧ Inner c := by
      rw [indent_eq] at among
      exact mem_indentUnit (indented c among)
    exact ⟨⟨rfl, rfl, fun c among => (unit_of c among).2⟩, fun c among => (unit_of c among).1,
      on_line⟩

/--
The edits that format a stylesheet can be applied, by the lines of the text, and keep the number of
lines.  Each line keeps what it has behind its white space exactly when on the lines that are edited
the white space has one byte for each character, or nothing is behind it.  A client counts the same
lines before and after if carriage returns stand before line feeds.
-/
theorem format_keeps_content (d : Document) (tabSize : Nat) (insertSpaces : Bool) :
  ∃ answer formatted, Finds (format d tabSize insertSpaces) (.ok answer)
    ∧ d.text.edited? d.text.lines (answer.getD []) = some formatted
    ∧ formatted.lineContents.length = d.text.lineContents.length
    ∧ (formatted.lineContents.map trimStart = d.text.lineContents.map trimStart
      ↔ ∀ e ∈ answer.getD [], ∀ content ∈ d.text.lineContents[e.range.start.line]?,
        content.trimStart = [] ∨ ∀ c ∈ content.takeWhile Property.isSpace, c.utf8Size = 1)
    ∧ (d.text.ReturnsPaired →
      d.text.clientLines = d.text.lines ∧ formatted.clientLines = formatted.lines)
  := by
  obtain ⟨in_order, each⟩ := toTextEdit_lines d.text tabSize insertSpaces
  have found := finds_format d tabSize insertSpaces
  generalize (indentEdits d.text (indentUnit tabSize insertSpaces)).map (·.toTextEdit) = edits
    at in_order each found
  have each_line : ∀ e ∈ edits,
      e.AtLineStart ∧ e.range.start.line < d.text.lineContents.length := by
    intro e among
    obtain ⟨at_start, -, content, listed, -⟩ := each e among
    exact ⟨at_start, (List.getElem?_eq_some_iff.mp listed).1⟩
  obtain ⟨formatted, edited, contents_eq, paired⟩ := exists_edited? in_order each_line
  refine ⟨_, formatted, found, ?_, ?_, ?_, fun pairs => ?_⟩
  · rw [getD_answerOfList, edited]
  · rw [contents_eq, List.length_mapIdx]
  · rw [getD_answerOfList, contents_eq, map_mapIdx_eq_map_iff]
    have edit_iff {e : TextEdit} {content : Text} (among : e ∈ edits)
        (listed : d.text.lineContents[e.range.start.line]? = some content) :
        (content.editLine e).trimStart = content.trimStart ↔ content.trimStart = []
          ∨ ∀ c ∈ content.takeWhile Property.isSpace, c.utf8Size = 1 := by
      obtain ⟨-, spaces, other, listed', column_eq⟩ := each e among
      obtain rfl := Option.some.inj (listed.symm.trans listed')
      exact trimStart_editLine_iff spaces column_eq
    constructor
    · intro same e among content listed
      have kept := same e.range.start.line content listed
      rw [editedContent_of_mem in_order among] at kept
      exact (edit_iff among listed).mp kept
    · intro narrow n content listed
      rw [editedContent]
      split
      · next e here =>
        have among := List.mem_of_find?_eq_some here
        obtain rfl : e.range.start.line = n := by simpa using List.find?_some here
        exact (edit_iff among listed).mpr (narrow e among content listed)
      · rfl
  · exact ⟨clientLines_eq pairs, clientLines_eq (paired pairs)⟩

/--
A wide space has three bytes and one column, so that as many columns as it has bytes reach behind
it; and behind a carriage return of its own a client counts another line than the server.
-/
theorem format_loses_content :
  let wide : Text := ['a', '\x7b', '\n', '\u3000', 'b', ':', 'c', '\n', '\x7d']
  let returning : Text := ['a', '\x7b', '\r', 'b', '\n', ' ', 'c']
  ∀ text ∈ [wide, returning], ∃ answer formatted,
    Finds (format ⟨"file:///d.less", "less", 1, text⟩ 4 true) (.ok answer)
      ∧ text.edited? text.clientLines (answer.getD []) = some formatted
      ∧ formatted.clientLines.map (·.content.trimStart)
        ≠ text.clientLines.map (·.content.trimStart)
  := by
  intro wide returning text among
  have found := finds_format ⟨"file:///d.less", "less", 1, text⟩ 4 true
  rcases List.mem_pair.mp among with rfl | rfl
  · have edits_eq : indentEdits wide (indentUnit 4 true) = [⟨1, 3, [' ', ' ', ' ', ' ']⟩] := by
      decide
    have changed : ((indentEdits wide (indentUnit 4 true)).map (·.toTextEdit)).mapM
        (·.change? wide.clientLines) = some [(⟨3, 8⟩, [' ', ' ', ' ', ' '])] := by
      rw [edits_eq]
      decide
    refine ⟨_, ['a', '\x7b', '\n', ' ', ' ', ' ', ' ', 'c', '\n', '\x7d'], found, ?_, by decide⟩
    rw [getD_answerOfList, edited?, changed, Option.bind_eq_bind, Option.bind_some,
      List.mergeSort_singleton]
    decide
  · have edits_eq : indentEdits returning (indentUnit 4 true) = [⟨1, 1, [' ', ' ', ' ', ' ']⟩] := by
      decide
    have changed : ((indentEdits returning (indentUnit 4 true)).map (·.toTextEdit)).mapM
        (·.change? returning.clientLines) = some [(⟨3, 4⟩, [' ', ' ', ' ', ' '])] := by
      rw [edits_eq]
      decide
    refine ⟨_, ['a', '\x7b', '\r', ' ', ' ', ' ', ' ', '\n', ' ', 'c'], found, ?_, by decide⟩
    rw [getD_answerOfList, edited?, changed, Option.bind_eq_bind, Option.bind_some,
      List.mergeSort_singleton]
    decide

end Less

end EditorModes
