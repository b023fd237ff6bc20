import EditorModes.Proofs.Text.Position
import EditorModes.Protocol.Value
import Mathlib.Data.List.Nodup

/-!
# Applying edits

A client applies the edits of an answer to its text all at once.  It finds the ends of their ranges
among the lines of the text, by columns in UTF-16 units.  Edits that replace the first columns of
lines, in the order of the lines, can be applied to every text, and change nothing else
(`Text.exists_edited?`).  A client ends lines at carriage returns too, but where these stand before
line feeds it counts the same lines (`Text.clientLines_eq`).
-/

namespace EditorModes

/-- The byte offset of a position among lines; a column past the end of a line stands for it. -/
def Position.offsetIn? (p : Position) (lines : List Line) : Option Nat :=
  lines[p.line]?.map fun line => line.start + line.content.columnBytes p.column

/-- The span that an edit replaces, and what by. -/
def TextEdit.change? (e : TextEdit) (lines : List Line) : Option (Span × Text) := do
  return (⟨← e.range.start.offsetIn? lines, ← e.range.stop.offsetIn? lines⟩, e.newText.toList)

/-- An edit that replaces the first columns of a line by a text that stays on the line. -/
structure TextEdit.AtLineStart (e : TextEdit) : Prop where
  column : e.range.start.column = 0
  line : e.range.stop.line = e.range.start.line
  within : ∀ c ∈ e.newText.toList, c ≠ '\n' ∧ c ≠ '\r'

namespace Text

/--
A text that starts at an offset, with spans replaced that stand one behind the other; `none` when
they overlap or are not between its cuts.
-/
def replace? (offset : Nat) (t : Text) : List (Span × Text) → Option Text
  | [] => some t
  | (span, new) :: changes =>
    if offset ≤ span.start ∧ span.start ≤ span.stop then do
      let (kept, rest) ← t.splitAt? (span.start - offset)
      let (_, rest) ← rest.splitAt? (span.stop - span.start)
      (rest.replace? span.stop changes).map (kept ++ new ++ ·)
    else
      none

/-- A text with edits applied, whose positions are found among its lines. -/
def edited? (t : Text) (lines : List Line) (edits : List TextEdit) : Option Text := do
  let changes ← edits.mapM (·.change? lines)
  t.replace? 0 (changes.mergeSort fun a b => a.1.start ≤ b.1.start)

/-- The text behind its first columns. -/
def dropColumns : Text → Nat → Text
  | t, 0 => t
  | [], _ + 1 => []
  | c :: t, column + 1 => dropColumns t (column + 1 - utf16Width c)

/-- The lines of a text at an offset, with line feeds, carriage returns and both at once as ends. -/
def clientLinesFrom (start : Nat) : Text → List Line
  | [] => [⟨start, []⟩]
  | '\r' :: '\n' :: t => ⟨start, []⟩ :: clientLinesFrom (start + 2) t
  | c :: t =>
    if c = '\n' ∨ c = '\r' then ⟨start, []⟩ :: clientLinesFrom (start + 1) t
    else
      match clientLinesFrom (start + c.utf8Size) t with
      | [] => []
      | line :: lines => ⟨start, c :: line.content⟩ :: lines

/-- The lines of a text as a client counts them. -/
def clientLines (t : Text) : List Line :=
  clientLinesFrom 0 t

/-- A text whose carriage returns stand before line feeds. -/
def ReturnsPaired : Text → Prop
  | [] => True
  | c :: t => (c = '\r' → t.head? = some '\n') ∧ ReturnsPaired t

variable {t s piece rest : Text} {offset start number : Nat} {lines : List Line} {e : TextEdit}
  {edits : List TextEdit} {changes : List (Span × Text)}

/-! ### Columns -/

/-- Before what is left stand the bytes of the columns. -/
theorem exists_dropColumns (t : Text) (column : Nat) :
  ∃ before : Text, t = before ++ t.dropColumns column ∧ before.byteSize = t.columnBytes column
  := by
  induction t generalizing column with
  | nil => cases column <;> exact ⟨[], rfl, rfl⟩
  | cons c t ih =>
    cases column with
    | zero => exact ⟨[], rfl, rfl⟩
    | succ column =>
      obtain ⟨before, parts, size_eq⟩ := ih (column + 1 - utf16Width c)
      refine ⟨c :: before, congrArg (c :: ·) parts, ?_⟩
      rw [byteSize_cons, size_eq, columnBytes]

/-- Behind the columns of a part of a text, columns are those of the rest. -/
theorem dropColumns_append (before after : Text) (column : Nat) :
  (before ++ after).dropColumns (before.utf16Size + column) = after.dropColumns column
  := by
  induction before with
  | nil => simp
  | cons c before ih =>
    have positive := utf16Width_pos c
    obtain ⟨k, size_eq⟩ : ∃ k, utf16Width c + utf16Size before + column = k + 1 := by
      use utf16Width c + utf16Size before + column - 1
      omega
    have rest : k + 1 - utf16Width c = utf16Size before + column := by omega
    rw [List.cons_append, utf16Size_cons, size_eq, dropColumns, rest, ih]

/-- There are columns to drop where there are characters. -/
theorem dropColumns_eq_self_iff (t : Text) (column : Nat) :
  t.dropColumns column = t ↔ t = [] ∨ column = 0
  := by
  obtain ⟨removed, parts, size_eq⟩ := t.exists_dropColumns column
  constructor
  · intro same
    rw [same, List.self_eq_append_left] at parts
    rw [parts] at size_eq
    cases t with
    | nil => exact .inl rfl
    | cons c t =>
      cases column with
      | zero => exact .inr rfl
      | succ column =>
        have positive := c.utf8Size_pos
        rw [columnBytes, byteSize_nil] at size_eq
        omega
  · rintro (rfl | rfl)
    · have none_removed := List.append_eq_nil_iff.mp parts.symm
      rw [none_removed.2]
    · rw [dropColumns]

/-! ### Carriage returns -/

/-- Without carriage returns at its start, a text is paired when the rest is. -/
theorem returnsPaired_append_iff (without : '\r' ∉ s) :
  ReturnsPaired (s ++ t) ↔ ReturnsPaired t
  := by
  induction s with
  | nil => rfl
  | cons c s ih =>
    obtain ⟨other, without⟩ := List.ne_and_not_mem_of_not_mem_cons without
    rw [List.cons_append, ReturnsPaired, ih without]
    simp [Ne.symm other]

/-- A carriage return that is paired stands before a line feed. -/
theorem ReturnsPaired.feed_behind (paired : ReturnsPaired (s ++ '\r' :: t)) :
  t.head? = some '\n'
  := by
  induction s with
  | nil => exact paired.1 rfl
  | cons c s ih => exact ih paired.2

/-- The last line of a paired text has no carriage return. -/
theorem returnsPaired_iff_of_notMem (whole : '\n' ∉ piece) :
  piece.ReturnsPaired ↔ '\r' ∉ piece
  := by
  constructor
  · intro paired among
    obtain ⟨before, after, rfl⟩ := List.append_of_mem among
    apply whole
    have feed := List.mem_of_mem_head? paired.feed_behind
    simp [feed]
  · intro without
    rw [← List.append_nil piece, returnsPaired_append_iff without]
    trivial

/-- The other lines of a paired text have none but at their ends. -/
theorem returnsPaired_append_feed_iff (whole : '\n' ∉ piece) :
  ReturnsPaired (piece ++ '\n' :: rest)
    ↔ '\r' ∉ piece.dropCarriageReturn ∧ rest.ReturnsPaired
  := by
  generalize content_eq : piece.dropCarriageReturn = content
  have ending := dropCarriageReturn_eq_iff.mp content_eq
  have feed_iff : ReturnsPaired ('\n' :: rest) ↔ rest.ReturnsPaired := by simp [ReturnsPaired]
  have return_iff : ReturnsPaired ('\r' :: '\n' :: rest) ↔ rest.ReturnsPaired := by
    simp [ReturnsPaired]
  by_cases without : '\r' ∉ content
  · rcases ending with rfl | ⟨rfl, -⟩
    · rw [List.append_assoc, returnsPaired_append_iff without, List.singleton_append, return_iff]
      simp [without]
    · rw [returnsPaired_append_iff without, feed_iff]
      simp [without]
  · refine iff_of_false (fun paired => without fun among => ?_) (without ·.1)
    obtain ⟨before, after, rfl⟩ := List.append_of_mem among
    rcases ending with rfl | ⟨rfl, kept⟩
    · rw [List.append_assoc, List.append_assoc, List.cons_append] at paired
      cases after with
      | nil => simpa using paired.feed_behind
      | cons c after =>
        apply whole
        simp [Option.some.inj paired.feed_behind]
    · rw [List.append_assoc, List.cons_append] at paired
      cases after with
      | nil => simp at kept
      | cons c after =>
        apply whole
        simp [Option.some.inj paired.feed_behind]

/-! ### Lines of a client -/

/-- Characters that end no line are part of the content of the first one. -/
theorem clientLinesFrom_append {content : Text} (within : ∀ c ∈ s, c ≠ '\n' ∧ c ≠ '\r')
    (found : clientLinesFrom (start + s.byteSize) t = ⟨start + s.byteSize, content⟩ :: lines) :
  clientLinesFrom start (s ++ t) = ⟨start, s ++ content⟩ :: lines
  := by
  induction s generalizing start with
  | nil => exact found
  | cons c s ih =>
    obtain ⟨no_feed, no_return⟩ := within c List.mem_cons_self
    rw [byteSize_cons, ← Nat.add_assoc] at found
    have behind := ih (fun d among => within d (List.mem_cons_of_mem c among)) found
    rw [List.cons_append, clientLinesFrom, if_neg (by simp [no_feed, no_return]), behind]
    · rfl
    · exact fun _ returns => absurd returns no_return

/-- A client counts the lines of a paired text at any offset like the server. -/
theorem clientLinesFrom_eq (paired : t.ReturnsPaired) :
  clientLinesFrom start t = linesFrom start (t.splitOnChar '\n')
  := by
  induction t using piece_induction '\n' generalizing start with
  | last piece whole =>
    have without := (returnsPaired_iff_of_notMem whole).mp paired
    have content_eq : piece.dropCarriageReturn = piece := by
      apply dropCarriageReturn_eq_iff.mpr
      exact .inr ⟨rfl, fun last => without (List.mem_of_getLast? last)⟩
    have within : ∀ c ∈ piece, c ≠ '\n' ∧ c ≠ '\r' := fun c among =>
      ⟨fun same => whole (same ▸ among), fun same => without (same ▸ among)⟩
    have found : clientLinesFrom (start + piece.byteSize) [] = [⟨start + piece.byteSize, []⟩] := rfl
    have lines_eq := clientLinesFrom_append within found
    rw [List.append_nil] at lines_eq
    rw [lines_eq, splitOnChar_of_notMem whole, linesFrom, linesFrom, content_eq]
  | more piece rest whole ih =>
    obtain ⟨without, paired⟩ := (returnsPaired_append_feed_iff whole).mp paired
    rw [splitOnChar_append whole, linesFrom, ← ih paired]
    have part := isPrefix_dropCarriageReturn piece
    generalize content_eq : piece.dropCarriageReturn = content at without part
    have within : ∀ c ∈ content, c ≠ '\n' ∧ c ≠ '\r' := fun c among =>
      ⟨fun same => whole (part.subset (same ▸ among)), fun same => without (same ▸ among)⟩
    rcases dropCarriageReturn_eq_iff.mp content_eq with rfl | ⟨rfl, -⟩
    · have found : clientLinesFrom (start + content.byteSize) ('\r' :: '\n' :: rest)
          = ⟨start + content.byteSize, []⟩ :: clientLinesFrom (start + content.byteSize + 2) rest :=
        rfl
      rw [List.append_assoc, List.singleton_append, clientLinesFrom_append within found,
        List.append_nil, byteSize_append]
      rfl
    · have found : clientLinesFrom (start + piece.byteSize) ('\n' :: rest)
          = ⟨start + piece.byteSize, []⟩ :: clientLinesFrom (start + piece.byteSize + 1) rest :=
        rfl
      rw [clientLinesFrom_append within found, List.append_nil]

theorem clientLines_eq (paired : t.ReturnsPaired) :
  t.clientLines = t.lines
  := clientLinesFrom_eq paired

/-! ### Replacements -/

/-- What stands before all replacements stays. -/
theorem replace?_append (kept t : Text)
    (behind : ∀ change ∈ changes, offset + kept.byteSize ≤ change.1.start) :
  (kept ++ t).replace? offset changes
    = (t.replace? (offset + kept.byteSize) changes).map (kept ++ ·)
  := by
  cases changes with
  | nil => rfl
  | cons change changes =>
    obtain ⟨span, new⟩ := change
    have start_le : offset + kept.byteSize ≤ span.start := behind _ List.mem_cons_self
    obtain ⟨ahead, start_eq⟩ := Nat.exists_eq_add_of_le start_le
    have distance : span.start - offset = kept.byteSize + ahead := by omega
    have rest_distance : span.start - (offset + kept.byteSize) = ahead := by omega
    simp only [replace?]
    by_cases in_order : span.start ≤ span.stop
    · rw [if_pos ⟨by omega, in_order⟩, if_pos ⟨start_le, in_order⟩, distance, rest_distance,
        splitAt?_append_add]
      cases t.splitAt? ahead with
      | none => rfl
      | some parts =>
        obtain ⟨before, after⟩ := parts
        simp [Option.map_bind, Function.comp_def]
    · rw [if_neg (in_order ·.2), if_neg (in_order ·.2)]
      rfl

theorem replace?_first (removed t new : Text) (changes : List (Span × Text)) :
  (removed ++ t).replace? offset ((⟨offset, offset + removed.byteSize⟩, new) :: changes)
    = (t.replace? (offset + removed.byteSize) changes).map (new ++ ·)
  := by
  have none_before (t : Text) : t.splitAt? 0 = some ([], t) := splitAt?_append [] t
  rw [replace?, if_pos ⟨Nat.le_refl _, Nat.le_add_right _ _⟩, Nat.sub_self, none_before]
  simp [splitAt?_append]

/-! ### Edits of lines -/

/-- What an edit of its first columns makes of the content of a line. -/
def editLine (e : TextEdit) (content : Text) : Text :=
  e.newText.toList ++ content.dropColumns e.range.stop.column

/-- The content of a line after the edit of that line, if there is one. -/
def editedContent (edits : List TextEdit) (n : Nat) (content : Text) : Text :=
  match edits.find? (·.range.start.line = n) with
  | some e => content.editLine e
  | none => content

/-- A line has an edit when it is one of the edits. -/
theorem editedContent_of_mem (in_order : edits.Pairwise (·.range.start.line < ·.range.start.line))
    (among : e ∈ edits) (content : Text) :
  editedContent edits e.range.start.line content = content.editLine e
  := by
  have distinct : (edits.map (·.range.start.line)).Nodup :=
    List.pairwise_map.mpr (in_order.imp Nat.ne_of_lt)
  rw [editedContent]
  split
  · next found here =>
    have same : found = e := by
      apply List.inj_on_of_nodup_map distinct (List.mem_of_find?_eq_some here) among
      simpa using List.find?_some here
    rw [same]
  · next none_here =>
    have := List.find?_eq_none.mp none_here e among
    simp at this

/-- A character that does not end a line. -/
def Inner (c : Char) : Prop :=
  c ≠ '\n' ∧ c ≠ '\r'

section

variable {content : Text} (at_start : e.AtLineStart)

include at_start

theorem mem_editLine {c : Char} (among : c ∈ content.editLine e) :
  c ∈ content ∨ Inner c
  := by
  rcases List.mem_append.mp among with new | old
  · exact .inr (at_start.within c new)
  · obtain ⟨removed, parts, -⟩ := content.exists_dropColumns e.range.stop.column
    rw [parts]
    exact .inl (List.mem_append_right removed old)

/-- An edit puts no carriage return at the end of a line. -/
theorem getLast?_editLine (kept : content.getLast? ≠ some '\r') :
  (content.editLine e).getLast? ≠ some '\r'
  := by
  intro last
  rw [editLine, List.getLast?_append, Option.or_eq_some_iff] at last
  rcases last with old | ⟨-, new⟩
  · obtain ⟨removed, parts, -⟩ := content.exists_dropColumns e.range.stop.column
    apply kept
    rw [parts, List.getLast?_append, old]
    rfl
  · exact (at_start.within _ (List.mem_of_getLast? new)).2 rfl

/-- The carriage return at the end of a line stays there. -/
theorem exists_ending (piece : Text) :
  ∃ ending : Text, piece = piece.dropCarriageReturn ++ ending
    ∧ dropCarriageReturn (piece.dropCarriageReturn.editLine e ++ ending)
      = piece.dropCarriageReturn.editLine e
  := by
  generalize content_eq : piece.dropCarriageReturn = content
  rcases dropCarriageReturn_eq_iff.mp content_eq with piece_eq | ⟨piece_eq, kept⟩
  · exact ⟨['\r'], piece_eq, dropCarriageReturn_eq_iff.mpr (.inl rfl)⟩
  · refine ⟨[], by rw [piece_eq, List.append_nil], ?_⟩
    rw [List.append_nil, dropCarriageReturn_eq_iff]
    exact .inr ⟨rfl, getLast?_editLine at_start kept⟩

theorem change?_eq (listed : lines[e.range.start.line]? = some ⟨start, content⟩) :
  e.change? lines
    = some (⟨start, start + content.columnBytes e.range.stop.column⟩, e.newText.toList)
  := by
  have first_column : content.columnBytes 0 = 0 := by rw [columnBytes]
  simp [TextEdit.change?, Position.offsetIn?, at_start.line, listed, at_start.column, first_column]

end

/-- Edits at the starts of lines, among as many lines from one of a number on. -/
structure LineEdits (edits : List TextEdit) (number count : Nat) : Prop where
  in_order : edits.Pairwise (·.range.start.line < ·.range.start.line)
  at_start : ∀ e ∈ edits, e.AtLineStart
  number_le : ∀ e ∈ edits, number ≤ e.range.start.line
  lt_count : ∀ e ∈ edits, e.range.start.line < number + count

/-- At most one of the edits is on the first line, and the others are on the lines behind. -/
theorem LineEdits.exists_first {count : Nat} (line_edits : LineEdits edits number (count + 1)) :
  ∃ (first : Option TextEdit) (later : List TextEdit), edits = first.toList ++ later
    ∧ (∀ e ∈ first, e.AtLineStart ∧ e.range.start.line = number)
    ∧ LineEdits later (number + 1) count
  := by
  obtain ⟨in_order, at_start, number_le, lt_count⟩ := line_edits
  have later_edits {later : List TextEdit} (part : later.Sublist edits)
      (behind : ∀ e ∈ later, number < e.range.start.line) : LineEdits later (number + 1) count :=
    ⟨in_order.sublist part, fun e among => at_start e (part.subset among), behind,
      fun e among => by
        have := lt_count e (part.subset among)
        omega⟩
  cases edits with
  | nil => exact ⟨none, [], rfl, by simp, later_edits (.refl _) (by simp)⟩
  | cons e edits =>
    obtain ⟨behind, -⟩ := List.pairwise_cons.mp in_order
    rcases Nat.eq_or_lt_of_le (number_le e List.mem_cons_self) with rfl | later
    · refine ⟨some e, edits, rfl, ?_, later_edits (List.sublist_cons_self e edits) behind⟩
      rintro _ ⟨⟩
      exact ⟨at_start e List.mem_cons_self, rfl⟩
    · refine ⟨none, e :: edits, rfl, by simp, later_edits (.refl _) fun other among => ?_⟩
      rcases List.mem_cons.mp among with rfl | among
      · exact later
      · exact Nat.lt_trans later (behind other among)

/-- Edits of later lines do not edit the first one. -/
theorem editedContent_first {first : List TextEdit} {count : Nat}
    (later : LineEdits edits (number + 1) count) (content : Text) :
  editedContent (first ++ edits) number content = editedContent first number content
  := by
  have none_later : edits.find? (·.range.start.line = number) = none := by
    rw [List.find?_eq_none]
    intro e among
    have := later.number_le e among
    simp only [decide_eq_true_eq]
    omega
  rw [editedContent, List.find?_append, none_later, Option.or_none, editedContent]

/-- An edit of the first line does not edit later ones. -/
theorem editedContent_later {first : List TextEdit}
    (here : ∀ e ∈ first, e.range.start.line = number) (i : Nat) (content : Text) :
  editedContent (first ++ edits) (number + (i + 1)) content
    = editedContent edits (number + 1 + i) content
  := by
  have none_first : first.find? (·.range.start.line = number + (i + 1)) = none := by
    rw [List.find?_eq_none]
    intro e among
    have := here e among
    simp only [decide_eq_true_eq]
    omega
  have number_eq : number + (i + 1) = number + 1 + i := by omega
  rw [editedContent, List.find?_append, none_first, Option.none_or, number_eq, editedContent]

/-- What the edit of its first line makes of a text. -/
structure EditsFirst (lines : List Line) (start number : Nat) (piece : Text)
    (first : Option TextEdit) (changes : List (Span × Text)) (piece' : Text) : Prop where
  mapped : first.toList.mapM (·.change? lines) = some changes
  start_eq : ∀ change ∈ changes, change.1.start = start
  replaced : ∀ (tail : Text) later, (∀ change ∈ later, start + piece.byteSize ≤ change.1.start) →
    (piece ++ tail).replace? start (changes ++ later)
      = (tail.replace? (start + piece.byteSize) later).map (piece' ++ ·)
  content_eq : piece'.dropCarriageReturn
    = editedContent first.toList number piece.dropCarriageReturn
  inner : ∀ c ∈ piece', c ∈ piece ∨ Inner c
  inner_content : ∀ c ∈ piece'.dropCarriageReturn, c ∈ piece.dropCarriageReturn ∨ Inner c

/-- The first line can be edited, whatever is behind it. -/
theorem exists_editsFirst {first : Option TextEdit}
    (edit : ∀ e ∈ first, e.AtLineStart ∧ e.range.start.line = number)
    (listed : lines[number]? = some ⟨start, piece.dropCarriageReturn⟩) :
  ∃ changes piece', EditsFirst lines start number piece first changes piece'
  := by
  cases first with
  | none =>
    refine ⟨[], piece, rfl, by simp, fun tail later behind => ?_, rfl, fun c => .inl, fun c => .inl⟩
    exact replace?_append piece tail behind
  | some e =>
    obtain ⟨at_start, rfl⟩ := edit e rfl
    obtain ⟨ending, piece_eq, cut_eq⟩ := exists_ending at_start piece
    have change_eq := change?_eq at_start listed
    obtain ⟨content, content_eq⟩ : ∃ content, piece.dropCarriageReturn = content := ⟨_, rfl⟩
    rw [content_eq] at piece_eq cut_eq change_eq
    obtain ⟨removed, parts, size_eq⟩ := content.exists_dropColumns e.range.stop.column
    refine ⟨[(⟨start, start + content.columnBytes e.range.stop.column⟩, e.newText.toList)],
      content.editLine e ++ ending, ?_, ?_, fun tail later behind => ?_, ?_, fun c among => ?_,
      fun c among => ?_⟩
    · simp [change_eq]
    · simp
    · have text_eq : piece ++ tail
          = removed ++ (content.dropColumns e.range.stop.column ++ ending ++ tail) := by
        rw [piece_eq]
        conv_lhs => rw [parts]
        simp
      have stop_eq : start + removed.byteSize
          + byteSize (content.dropColumns e.range.stop.column ++ ending)
          = start + piece.byteSize := by
        have sizes := congrArg byteSize text_eq
        simp only [byteSize_append] at sizes ⊢
        omega
      rw [text_eq, ← size_eq, List.singleton_append, replace?_first, replace?_append, stop_eq,
        Option.map_map, editLine]
      · simp [Function.comp_def]
      · rwa [stop_eq]
    · rw [cut_eq, content_eq]
      simp [editedContent]
    · rw [piece_eq]
      rcases List.mem_append.mp among with among | among
      · exact (mem_editLine at_start among).imp_left (List.mem_append_left ending)
      · exact .inl (List.mem_append_right content among)
    · rw [cut_eq] at among
      rw [content_eq]
      exact mem_editLine at_start among

/-- The changes of a line are in order, since there is one place for them. -/
theorem EditsFirst.in_order {first : Option TextEdit} {piece' : Text}
    (edited : EditsFirst lines start number piece first changes piece') :
  changes.Pairwise fun a b => a.1.start ≤ b.1.start
  := by
  apply List.pairwise_of_forall_mem_list
  intro a first b second
  rw [edited.start_eq a first, edited.start_eq b second]

theorem lineContents_of_notMem (whole : '\n' ∉ piece) :
  piece.lineContents = [piece.dropCarriageReturn]
  := by
  rw [lineContents, splitOnChar_of_notMem whole]
  rfl

theorem lineContents_append (whole : '\n' ∉ piece) (rest : Text) :
  lineContents (piece ++ '\n' :: rest) = piece.dropCarriageReturn :: rest.lineContents
  := by
  rw [lineContents, splitOnChar_append whole]
  rfl

/-- What edits make of a text at an offset, whose first line has a number among other lines. -/
structure EditsTo (lines : List Line) (start number : Nat) (t : Text) (edits : List TextEdit)
    (changes : List (Span × Text)) (t' : Text) : Prop where
  mapped : edits.mapM (·.change? lines) = some changes
  start_le : ∀ change ∈ changes, start ≤ change.1.start
  in_order : changes.Pairwise fun a b => a.1.start ≤ b.1.start
  replaced : t.replace? start changes = some t'
  contents_eq : t'.lineContents
    = t.lineContents.mapIdx fun i => editedContent edits (number + i)
  paired : t.ReturnsPaired → t'.ReturnsPaired

/-- Edits at the starts of lines can be applied to a text. -/
theorem exists_editsTo (t : Text) (start number : Nat) {edits : List TextEdit}
    (listed : ∀ i, lines[number + i]? = (linesFrom start (t.splitOnChar '\n'))[i]?)
    (line_edits : LineEdits edits number t.lineContents.length) :
  ∃ changes t', EditsTo lines start number t edits changes t'
  := by
  have notMem {c : Char} {s s' : Text} (inner : ∀ c ∈ s', c ∈ s ∨ Inner c)
      (ends : c = '\n' ∨ c = '\r') (outside : c ∉ s) : c ∉ s' := by
    intro among
    rcases inner c among with among | ⟨no_feed, no_return⟩
    · exact outside among
    · exact ends.elim no_feed no_return
  induction t using piece_induction '\n' generalizing start number edits with
  | last piece whole =>
    rw [splitOnChar_of_notMem whole, linesFrom] at listed
    rw [lineContents_of_notMem whole] at line_edits
    obtain ⟨first, later, rfl, edit, later_edits⟩ := line_edits.exists_first
    obtain rfl : later = [] := by
      rw [List.eq_nil_iff_forall_not_mem]
      intro e among
      have := later_edits.number_le e among
      have := later_edits.lt_count e among
      rw [List.length_nil] at this
      omega
    obtain ⟨changes, piece', edited⟩ := exists_editsFirst edit (listed 0)
    have whole' := notMem edited.inner (.inl rfl) whole
    refine ⟨changes, piece', ?_, ?_, edited.in_order, ?_, ?_, fun paired => ?_⟩
    · rw [List.append_nil, edited.mapped]
    · exact fun change among => Nat.le_of_eq (edited.start_eq change among).symm
    · have replaced := edited.replaced [] [] (by simp)
      simpa [replace?] using replaced
    · rw [lineContents_of_notMem whole', lineContents_of_notMem whole, edited.content_eq,
        List.append_nil]
      rfl
    · rw [returnsPaired_iff_of_notMem whole] at paired
      exact (returnsPaired_iff_of_notMem whole').mpr (notMem edited.inner (.inr rfl) paired)
  | more piece rest whole ih =>
    rw [splitOnChar_append whole, linesFrom] at listed
    rw [lineContents_append whole] at line_edits
    obtain ⟨first, later, rfl, edit, later_edits⟩ := line_edits.exists_first
    obtain ⟨changes, piece', edited⟩ := exists_editsFirst edit (listed 0)
    have whole' := notMem edited.inner (.inl rfl) whole
    have listed_rest (i : Nat) : lines[number + 1 + i]?
        = (linesFrom (start + piece.byteSize + 1) (rest.splitOnChar '\n'))[i]? := by
      rw [Nat.add_assoc, Nat.add_comm 1, listed, List.getElem?_cons_succ]
    obtain ⟨changes', rest', edited'⟩ := ih _ _ listed_rest later_edits
    refine ⟨changes ++ changes', piece' ++ '\n' :: rest', ?_, ?_, ?_, ?_, ?_, fun paired => ?_⟩
    · rw [List.mapM_append, edited.mapped, edited'.mapped]
      rfl
    · intro change among
      rcases List.mem_append.mp among with among | among
      · exact Nat.le_of_eq (edited.start_eq change among).symm
      · have := edited'.start_le change among
        omega
    · refine List.pairwise_append.mpr ⟨edited.in_order, edited'.in_order, fun a first b later => ?_⟩
      have := edited.start_eq a first
      have := edited'.start_le b later
      omega
    · have feed : byteSize ['\n'] = 1 := rfl
      have behind : ∀ change ∈ changes',
          start + piece.byteSize + byteSize ['\n'] ≤ change.1.start := edited'.start_le
      rw [edited.replaced _ _ fun change among => Nat.le_of_succ_le (behind change among),
        ← List.singleton_append, replace?_append ['\n'] rest behind, feed, edited'.replaced]
      rfl
    · have here : ∀ e ∈ first.toList, e.range.start.line = number := fun e among =>
        (edit e (Option.mem_toList.mp among)).2
      have first_eq : editedContent (first.toList ++ later) (number + 0) piece.dropCarriageReturn
          = editedContent first.toList number piece.dropCarriageReturn :=
        editedContent_first later_edits _
      rw [lineContents_append whole', lineContents_append whole, List.mapIdx_cons,
        edited.content_eq, edited'.contents_eq, first_eq]
      congr 2
      funext i content
      exact (editedContent_later here i content).symm
    · obtain ⟨no_return, paired⟩ := (returnsPaired_append_feed_iff whole).mp paired
      exact (returnsPaired_append_feed_iff whole').mpr
        ⟨notMem edited.inner_content (.inr rfl) no_return, edited'.paired paired⟩

/--
Edits that replace the first columns of lines, in the order of the lines, can be applied to a text.
The lines of the result are the lines of the text, edited where an edit is on them, and carriage
returns before line feeds stay so.
-/
theorem exists_edited? {t : Text}
    (in_order : edits.Pairwise (·.range.start.line < ·.range.start.line))
    (each : ∀ e ∈ edits, e.AtLineStart ∧ e.range.start.line < t.lineContents.length) :
  ∃ t', t.edited? t.lines edits = some t'
    ∧ t'.lineContents = t.lineContents.mapIdx (editedContent edits)
    ∧ (t.ReturnsPaired → t'.ReturnsPaired)
  := by
  have line_edits : LineEdits edits 0 t.lineContents.length :=
    ⟨in_order, fun e among => (each e among).1, fun _ _ => Nat.zero_le _, fun e among => by
      rw [Nat.zero_add]
      exact (each e among).2⟩
  have listed (i : Nat) : t.lines[0 + i]? = (linesFrom 0 (t.splitOnChar '\n'))[i]? := by
    rw [Nat.zero_add]
    rfl
  obtain ⟨changes, t', edits_to⟩ := exists_editsTo t 0 0 listed line_edits
  refine ⟨t', ?_, ?_, edits_to.paired⟩
  · have sorted : changes.Pairwise fun a b => decide (a.1.start ≤ b.1.start) = true := by
      simpa using edits_to.in_order
    rw [edited?, edits_to.mapped, Option.bind_eq_bind, Option.bind_some,
      List.mergeSort_of_pairwise sorted, edits_to.replaced]
  · simpa using edits_to.contents_eq

end Text

end EditorModes
