import EditorModes.Proofs.Text.Cut
import EditorModes.Text.Position
import Mathlib.Data.List.Induction
import Mathlib.Order.Bounds.Defs

/-!
# Offsets and positions of a text

The lines of a text are what stands between its line feeds, without a carriage return at the end
(`Text.line?_eq_some_iff`).  Within the content of a line, cuts of the text and positions stand
for each other.  A column inside a character is taken for the next column there is, and a column
beyond the content for its end.  Further on in a text, positions are later.
-/

namespace EditorModes

/-! ### Reading on -/

namespace Position

/-- A place on an earlier line, or further left on the same line. -/
def Before (p q : Position) : Prop :=
  p.line < q.line ∨ p.line = q.line ∧ p.column < q.column

variable {t : Text}

theorem after_append (p : Position) (s t : Text) :
  p.after (s ++ t) = (p.after s).after t
  := by
  fun_induction after p s with
  | case1 p => rfl
  | case2 p s ih => rw [List.cons_append, after, if_pos rfl, ih]
  | case3 p c s inner ih => rw [List.cons_append, after, if_neg inner, ih]

theorem after_of_notMem (p : Position) (within : '\n' ∉ t) :
  p.after t = ⟨p.line, p.column + t.utf16Size⟩
  := by
  fun_induction after p t with
  | case1 p => rfl
  | case2 p t ih => simp at within
  | case3 p c t inner ih =>
    rw [ih (List.not_mem_of_not_mem_cons within), Text.utf16Size_cons, Nat.add_assoc]

/-- Each line feed starts a line. -/
theorem line_after (p : Position) (t : Text) :
  (p.after t).line = p.line + t.count '\n'
  := by
  fun_induction after p t with
  | case1 p => rfl
  | case2 p t ih =>
    rw [ih, List.count_cons_self, Nat.add_assoc, Nat.add_comm 1]
  | case3 p c t inner ih => rw [ih, List.count_cons_of_ne inner]

/-- Columns count UTF-16 units that have been read. -/
theorem column_after_le (p : Position) (t : Text) :
  (p.after t).column ≤ p.column + t.utf16Size
  := by
  fun_induction after p t with
  | case1 p => apply Nat.le_refl
  | case2 p t ih =>
    dsimp only at ih
    rw [Text.utf16Size_cons]
    omega
  | case3 p c t inner ih =>
    dsimp only at ih
    rw [Text.utf16Size_cons]
    omega

/-- Reading on leads to a later place. -/
theorem before_after (p : Position) (ahead : t ≠ []) :
  p.Before (p.after t)
  := by
  by_cases feed : '\n' ∈ t
  · left
    have := List.count_pos_iff.mpr feed
    rw [line_after]
    omega
  · right
    have := Text.utf16Size_pos ahead
    rw [after_of_notMem p feed]
    constructor <;> dsimp only
    omega

end Position

namespace Text

/-- The parts of a text before and after the offset have a cut between them. -/
theorem positionAt?_append (before after : Text) :
  (before ++ after).positionAt? before.byteSize = some (Position.after ⟨0, 0⟩ before)
  := by
  have size_eq : min before.byteSize (before ++ after).byteSize = before.byteSize := by
    rw [byteSize_append]
    omega
  rw [positionAt?, size_eq, splitAt?_append]
  rfl

/-! ### Lines -/

/--
The parts around a line of a text at `start`.  The line stands behind as many line feeds as its
number tells, right behind the last one, and reaches to the next; a carriage return at its end is
not part of its content.
-/
structure LineAt (start : Nat) (before piece after : Text) (n : Nat) (line : Line) : Prop where
  start_eq : line.start = start + before.byteSize
  number : before.count '\n' = n
  behind : ∀ c ∈ before.getLast?, c = '\n'
  within : '\n' ∉ piece
  ahead : ∀ c ∈ after.head?, c = '\n'
  ending : piece = line.content ++ ['\r']
    ∨ piece = line.content ∧ line.content.getLast? ≠ some '\r'

/-- A text at `start` can be taken apart around a line. -/
def HasLine (t : Text) (start n : Nat) (line : Line) : Prop :=
  ∃ before piece after, t = before ++ piece ++ after ∧ LineAt start before piece after n line

/-- One carriage return is dropped, where there is one. -/
theorem dropCarriageReturn_eq_iff {piece content : Text} :
  piece.dropCarriageReturn = content
    ↔ piece = content ++ ['\r'] ∨ piece = content ∧ content.getLast? ≠ some '\r'
  := by
  unfold dropCarriageReturn
  constructor
  · rintro rfl
    split_ifs with returns
    · left
      exact (List.dropLast_append_getLast? _ returns).symm
    · exact .inr ⟨rfl, returns⟩
  · rintro (rfl | ⟨rfl, kept⟩)
    · rw [if_pos List.getLast?_concat, List.dropLast_concat]
    · rw [if_neg kept]

theorem isPrefix_dropCarriageReturn (piece : Text) :
  piece.dropCarriageReturn <+: piece
  := by
  rw [dropCarriageReturn]
  split
  · apply List.dropLast_prefix
  · apply List.prefix_rfl

/-- A text goes up to its first line feed in one way. -/
theorem append_feed_inj {piece rest other more : Text} (within : '\n' ∉ piece)
    (withinOther : '\n' ∉ other)
    (same : piece ++ '\n' :: rest = other ++ '\n' :: more) :
  piece = other ∧ rest = more
  := by
  have pieces_eq := splitOnChar_append within rest
  rw [same, splitOnChar_append withinOther] at pieces_eq
  obtain ⟨rfl, -⟩ := List.cons.inj pieces_eq
  use rfl
  apply (List.cons.inj (List.append_cancel_left same)).2

namespace LineAt

variable {start n : Nat} {before piece after rest : Text} {line : Line}

theorem feed_mem (place : LineAt start before piece after n line) (nonempty : before ≠ []) :
  '\n' ∈ before
  := by
  obtain ⟨earlier, c, rfl⟩ := (List.eq_nil_or_concat' before).resolve_left nonempty
  obtain rfl := place.behind c List.getLast?_concat
  simp

theorem before_eq_nil (place : LineAt start before piece after 0 line) :
  before = []
  := by
  by_contra nonempty
  exact List.count_eq_zero.mp place.number (place.feed_mem nonempty)

theorem content_prefix (place : LineAt start before piece after n line) :
  line.content <+: piece
  := by
  rcases place.ending with rfl | ⟨rfl, -⟩
  · apply List.prefix_append
  · apply List.prefix_rfl

/-- Reading what is before a line leads to its first column. -/
theorem after_before (place : LineAt start before piece after n line) :
  Position.after ⟨0, 0⟩ before = ⟨n, 0⟩
  := by
  have line_eq := Position.line_after ⟨0, 0⟩ before
  rw [place.number, Nat.zero_add] at line_eq
  rcases List.eq_nil_or_concat' before with rfl | ⟨earlier, c, rfl⟩
  · obtain rfl := line_eq
    rfl
  · obtain rfl := place.behind c List.getLast?_concat
    rw [Position.after_append] at line_eq ⊢
    simp only [Position.after, if_true] at line_eq ⊢
    rw [line_eq]

/-- At the start of a text, a piece is the first line. -/
theorem first_iff (within : '\n' ∉ piece) (ahead : ∀ c ∈ after.head?, c = '\n') :
  LineAt start [] piece after 0 line ↔ ⟨start, piece.dropCarriageReturn⟩ = line
  := by
  constructor
  · intro place
    obtain ⟨lineStart, content⟩ := line
    obtain rfl : lineStart = start := place.start_eq
    rw [dropCarriageReturn_eq_iff.mpr place.ending]
  · rintro rfl
    exact ⟨rfl, rfl, by simp, within, ahead, dropCarriageReturn_eq_iff.mp rfl⟩

/-- Lines behind the first line of a text are lines of the rest. -/
theorem later_iff (whole : '\n' ∉ piece) {middle : Text} :
  LineAt start (piece ++ '\n' :: before) middle after (n + 1) line
    ↔ LineAt (start + piece.byteSize + 1) before middle after n line
  := by
  have size_eq : start + (piece ++ '\n' :: before).byteSize
      = start + piece.byteSize + 1 + before.byteSize := by
    have feed : '\n'.utf8Size = 1 := rfl
    rw [byteSize_append, byteSize_cons, feed]
    omega
  have count_eq : (piece ++ '\n' :: before).count '\n' = before.count '\n' + 1 := by
    rw [List.count_append, List.count_eq_zero.mpr whole, List.count_cons_self, Nat.zero_add]
  have behind_iff : (∀ c ∈ (piece ++ '\n' :: before).getLast?, c = '\n')
      ↔ ∀ c ∈ before.getLast?, c = '\n' := by
    rw [List.getLast?_append_cons, List.getLast?_cons]
    cases before.getLast? <;> simp
  constructor
  · rintro ⟨start_eq, number, behind, within, ahead, ending⟩
    rw [size_eq] at start_eq
    rw [count_eq, Nat.add_right_cancel_iff] at number
    exact ⟨start_eq, number, behind_iff.mp behind, within, ahead, ending⟩
  · rintro ⟨start_eq, number, behind, within, ahead, ending⟩
    rw [← size_eq] at start_eq
    rw [← Nat.add_right_cancel_iff, ← count_eq] at number
    exact ⟨start_eq, number, behind_iff.mpr behind, within, ahead, ending⟩

end LineAt

section

variable {start n : Nat} {piece rest : Text} {line : Line}

/-- A text without a line feed is its only line. -/
theorem hasLine_last_iff (whole : '\n' ∉ piece) :
  piece.HasLine start n line ↔ n = 0 ∧ ⟨start, piece.dropCarriageReturn⟩ = line
  := by
  constructor
  · rintro ⟨before, middle, after, rfl, place⟩
    obtain rfl : before = [] := by
      by_contra nonempty
      apply whole
      simp [place.feed_mem nonempty]
    obtain rfl : after = [] := by
      cases after with
      | nil => rfl
      | cons c later =>
        obtain rfl := place.ahead c rfl
        simp at whole
    obtain rfl := place.number
    rw [List.nil_append, List.append_nil]
    exact ⟨rfl, (LineAt.first_iff place.within place.ahead).mp place⟩
  · rintro ⟨rfl, first⟩
    refine ⟨[], piece, [], by simp, (LineAt.first_iff whole ?_).mpr first⟩
    simp

/-- The first line of a text goes up to its first line feed. -/
theorem hasLine_zero_iff (whole : '\n' ∉ piece) :
  HasLine (piece ++ '\n' :: rest) start 0 line ↔ ⟨start, piece.dropCarriageReturn⟩ = line
  := by
  constructor
  · rintro ⟨before, middle, after, parts_eq, place⟩
    obtain rfl := place.before_eq_nil
    rw [List.nil_append] at parts_eq
    cases after with
    | nil =>
      rw [List.append_nil] at parts_eq
      exact absurd place.within (by simp [← parts_eq])
    | cons c later =>
      obtain rfl := place.ahead c rfl
      obtain ⟨rfl, rfl⟩ := append_feed_inj whole place.within parts_eq
      apply (LineAt.first_iff whole place.ahead).mp place
  · intro first
    use [], piece, '\n' :: rest, rfl
    apply (LineAt.first_iff whole (by simp)).mpr first

/-- The lines behind the first line of a text are the lines of the rest. -/
theorem hasLine_succ_iff (whole : '\n' ∉ piece) :
  HasLine (piece ++ '\n' :: rest) start (n + 1) line
    ↔ rest.HasLine (start + piece.byteSize + 1) n line
  := by
  constructor
  · rintro ⟨before, middle, after, parts_eq, place⟩
    have feed : '\n' ∈ before := by
      rw [← List.count_pos_iff, place.number]
      omega
    obtain ⟨other, behind, rfl, within⟩ := List.eq_append_cons_of_mem feed
    rw [List.append_assoc, List.append_assoc, List.cons_append] at parts_eq
    obtain ⟨rfl, rfl⟩ := append_feed_inj whole within parts_eq
    use behind, middle, after
    rw [← LineAt.later_iff whole, List.append_assoc]
    exact ⟨rfl, place⟩
  · rintro ⟨before, middle, after, rfl, place⟩
    use piece ++ '\n' :: before, middle, after
    simp [LineAt.later_iff whole, place]

/-- The lines of a text are those around which it can be taken apart. -/
theorem linesFrom_getElem?_eq_some_iff (t : Text) :
  (linesFrom start (t.splitOnChar '\n'))[n]? = some line ↔ t.HasLine start n line
  := by
  induction t using piece_induction '\n' generalizing start n with
  | last piece whole =>
    rw [splitOnChar_of_notMem whole, linesFrom, linesFrom, hasLine_last_iff whole]
    cases n <;> simp
  | more piece rest whole ih =>
    rw [splitOnChar_append whole, linesFrom]
    cases n with
    | zero => rw [List.getElem?_cons_zero, Option.some.injEq, hasLine_zero_iff whole]
    | succ n => rw [List.getElem?_cons_succ, ih, hasLine_succ_iff whole]

end

theorem line?_eq_some_iff {t : Text} {n : Nat} {line : Line} :
  t.line? n = some line ↔ t.HasLine 0 n line
  := linesFrom_getElem?_eq_some_iff t

theorem length_splitOnChar (separator : Char) (t : Text) :
  (t.splitOnChar separator).length = t.count separator + 1
  := by
  induction t using piece_induction separator with
  | last piece whole =>
    rw [splitOnChar_of_notMem whole, List.count_eq_zero.mpr whole, List.length_singleton]
  | more piece rest whole ih =>
    rw [splitOnChar_append whole, List.length_cons, ih, List.count_append,
      List.count_eq_zero.mpr whole, List.count_cons_self, Nat.zero_add]

theorem map_content_linesFrom (start : Nat) (pieces : List Text) :
  (linesFrom start pieces).map (·.content) = pieces.map dropCarriageReturn
  := by
  induction pieces generalizing start with
  | nil => rfl
  | cons piece pieces ih => rw [linesFrom, List.map_cons, ih, List.map_cons]

theorem lineCount_eq (t : Text) :
  t.lineCount = t.count '\n' + 1
  := by
  rw [lineCount, ← List.length_map (·.content), lines, map_content_linesFrom, List.length_map,
    length_splitOnChar]

/-! ### Places in a line -/

/-- Behind a part of the content of a line there is a cut of the text. -/
theorem exists_append_of_prefix {t before : Text} {n : Nat} {line : Line}
    (found : t.line? n = some line) (part : before <+: line.content) :
  ∃ behind after, t = behind ++ before ++ after ∧ behind.byteSize = line.start
    ∧ Position.after ⟨0, 0⟩ behind = ⟨n, 0⟩ ∧ '\n' ∉ before
  := by
  obtain ⟨behind, piece, ahead, rfl, place⟩ := line?_eq_some_iff.mp found
  obtain ⟨rest, rfl⟩ := part.trans place.content_prefix
  use behind, rest ++ ahead
  refine ⟨by simp, by simp [place.start_eq], place.after_before, ?_⟩
  intro among
  apply place.within
  apply List.mem_append_left rest among

theorem isCut_of_prefix {t before : Text} {n : Nat} {line : Line}
    (found : t.line? n = some line) (part : before <+: line.content) :
  t.IsCut (line.start + before.byteSize)
  := by
  obtain ⟨behind, after, rfl, start_eq, -⟩ := exists_append_of_prefix found part
  use behind ++ before, after, rfl
  rw [byteSize_append, start_eq]

theorem positionAt?_of_prefix {t before : Text} {n : Nat} {line : Line}
    (found : t.line? n = some line) (part : before <+: line.content) :
  t.positionAt? (line.start + before.byteSize) = some ⟨n, before.utf16Size⟩
  := by
  obtain ⟨behind, after, rfl, start_eq, line_eq, within⟩ := exists_append_of_prefix found part
  rw [← start_eq, ← byteSize_append, positionAt?_append, Position.after_append, line_eq,
    Position.after_of_notMem _ within, Nat.zero_add]

/-- Columns at the cuts of a text. -/
def HasColumn (t : Text) (column : Nat) : Prop :=
  ∃ before : Text, before <+: t ∧ before.utf16Size = column

/-- A column is rounded up to the next one of a text, or to the end, when none is as large. -/
def RoundsTo (t : Text) (column reached : Nat) : Prop :=
  IsLeast {k | t.HasColumn k ∧ column ≤ k} reached
    ∨ t.utf16Size < column ∧ reached = t.utf16Size

/-- Columns behind the first character are columns of the rest. -/
theorem hasColumn_cons_iff {c : Char} {t : Text} {column : Nat} :
  HasColumn (c :: t) column
    ↔ column = 0 ∨ ∃ k, HasColumn t k ∧ column = utf16Width c + k
  := by
  constructor
  · rintro ⟨before, part, rfl⟩
    rcases List.prefix_cons_iff.mp part with rfl | ⟨before, rfl, inner⟩
    · exact .inl rfl
    · exact .inr ⟨_, ⟨before, inner, rfl⟩, rfl⟩
  · rintro (rfl | ⟨k, ⟨before, part, rfl⟩, rfl⟩)
    · exact ⟨[], List.nil_prefix, rfl⟩
    · exact ⟨c :: before, List.cons_prefix_cons.mpr ⟨rfl, part⟩, rfl⟩

theorem RoundsTo.zero (t : Text) :
  t.RoundsTo 0 0
  := by
  left
  refine ⟨⟨⟨[], List.nil_prefix, rfl⟩, Nat.le_refl _⟩, ?_⟩
  rintro k -
  apply Nat.zero_le

/-- Rounding goes on behind the first character. -/
theorem RoundsTo.cons {c : Char} {t : Text} {column reached : Nat} (positive : 0 < column)
    (rounds : RoundsTo t (column - utf16Width c) reached) :
  RoundsTo (c :: t) column (utf16Width c + reached)
  := by
  rcases rounds with ⟨⟨exact_column, large⟩, least⟩ | ⟨beyond, rfl⟩
  · left
    refine ⟨⟨hasColumn_cons_iff.mpr (.inr ⟨_, exact_column, rfl⟩), by omega⟩, ?_⟩
    rintro k ⟨column_of, large⟩
    rcases hasColumn_cons_iff.mp column_of with rfl | ⟨k, inner, rfl⟩
    · omega
    · have := least ⟨inner, Nat.sub_le_of_le_add (by omega)⟩
      omega
  · right
    rw [utf16Size_cons]
    omega

/-- The bytes before a column are those up to the column that it is rounded to. -/
theorem columnBytes_rounds (t : Text) (column : Nat) :
  ∃ before : Text, before <+: t ∧ t.columnBytes column = before.byteSize
    ∧ t.RoundsTo column before.utf16Size
  := by
  induction t generalizing column with
  | nil =>
    cases column with
    | zero => exact ⟨[], List.nil_prefix, rfl, .zero []⟩
    | succ column => exact ⟨[], List.nil_prefix, rfl, .inr ⟨Nat.succ_pos _, rfl⟩⟩
  | cons c t ih =>
    cases column with
    | zero => exact ⟨[], List.nil_prefix, rfl, .zero (c :: t)⟩
    | succ column =>
      obtain ⟨before, part, bytes_eq, rounds⟩ := ih (column + 1 - utf16Width c)
      refine ⟨c :: before, List.cons_prefix_cons.mpr ⟨rfl, part⟩, ?_, rounds.cons (Nat.succ_pos _)⟩
      rw [columnBytes, bytes_eq, byteSize_cons]

/-- Columns behind a part of a text are counted in the rest. -/
theorem columnBytes_append (before after : Text) (column : Nat) :
  (before ++ after).columnBytes (before.utf16Size + column)
    = before.byteSize + after.columnBytes column
  := by
  induction before with
  | nil => simp
  | cons c before ih =>
    have positive := utf16Width_pos c
    obtain ⟨k, size_eq⟩ : ∃ k, utf16Width c + utf16Size before + column = k + 1 := by
      use utf16Width c + utf16Size before + column - 1
      omega
    have rest : k + 1 - utf16Width c = utf16Size before + column := by omega
    rw [List.cons_append, utf16Size_cons, size_eq, columnBytes, rest, ih, byteSize_cons,
      Nat.add_assoc]

theorem columnBytes_cons {c : Char} {t : Text} {column : Nat} (positive : 0 < column)
    (inside : column ≤ utf16Width c) :
  columnBytes (c :: t) column = c.utf8Size
  := by
  obtain ⟨k, rfl⟩ := Nat.exists_eq_add_of_lt positive
  rw [Nat.zero_add, columnBytes, Nat.sub_eq_zero_of_le (by omega)]
  cases t <;> rfl

/-- Cuts within the content of a line are those after a part of the content. -/
theorem exists_prefix_of_isCut {t : Text} {n offset : Nat} {line : Line}
    (found : t.line? n = some line) (cut : t.IsCut offset) (first : line.start ≤ offset)
    (last : offset ≤ line.stop) :
  ∃ before : Text, before <+: line.content ∧ offset = line.start + before.byteSize
  := by
  obtain ⟨behind, piece, ahead, rfl, place⟩ := line?_eq_some_iff.mp found
  obtain ⟨upTo, rest, parts_eq, rfl⟩ := cut
  have start_eq := place.start_eq
  rw [Nat.zero_add] at start_eq
  have upTo_prefix : upTo <+: behind ++ piece ++ ahead := by
    rw [parts_eq]
    apply List.prefix_append
  obtain ⟨before, rfl⟩ : behind <+: upTo := by
    apply prefix_of_byteSize_le _ upTo_prefix (by omega)
    rw [List.append_assoc]
    apply List.prefix_append
  use before
  rw [byteSize_append, start_eq]
  refine ⟨?_, rfl⟩
  rw [Line.stop, start_eq, byteSize_append] at last
  obtain ⟨ending, rfl⟩ := place.content_prefix
  rw [List.append_assoc, List.append_assoc, List.prefix_append_right_inj] at upTo_prefix
  apply prefix_of_byteSize_le upTo_prefix (List.prefix_append _ _) (by omega)

theorem offsetAt?_eq_some_iff {t : Text} {p : Position} {offset : Nat} :
  t.offsetAt? p = some offset
    ↔ ∃ line, t.line? p.line = some line
      ∧ line.start + line.content.columnBytes p.column = offset
  := by
  rw [offsetAt?, Option.map_eq_some_iff]

theorem offsetAt?_eq_none_iff {t : Text} {p : Position} :
  t.offsetAt? p = none ↔ t.lineCount ≤ p.line
  := by
  rw [offsetAt?, Option.map_eq_none_iff, line?, List.getElem?_eq_none_iff, lineCount]

/-- The column of a cut within the content of a line leads back to the cut. -/
theorem offsetAt?_of_prefix {t before : Text} {n : Nat} {line : Line}
    (found : t.line? n = some line) (part : before <+: line.content) :
  t.offsetAt? ⟨n, before.utf16Size⟩ = some (line.start + before.byteSize)
  := by
  obtain ⟨rest, content_eq⟩ := part
  have back := columnBytes_append before rest 0
  rw [Nat.add_zero] at back
  apply offsetAt?_eq_some_iff.mpr
  use line, found
  rw [← content_eq, back]
  cases rest <;> rfl

/-- The offset of a position is that of a cut, in the column that its column is rounded up to. -/
theorem exists_prefix_of_offsetAt? {t : Text} {p : Position} {offset : Nat}
    (reached : t.offsetAt? p = some offset) :
  ∃ (line : Line) (before : Text), t.line? p.line = some line ∧ before <+: line.content
    ∧ offset = line.start + before.byteSize
    ∧ line.content.RoundsTo p.column before.utf16Size
  := by
  obtain ⟨line, found, rfl⟩ := offsetAt?_eq_some_iff.mp reached
  obtain ⟨before, part, bytes_eq, rounds⟩ := columnBytes_rounds line.content p.column
  rw [bytes_eq]
  exact ⟨line, before, found, part, rfl, rounds⟩

/-- A text goes on from the start of its last line. -/
theorem exists_line_start (t : Text) :
  ∃ before rest : Text, t = before ++ rest ∧ (∀ c ∈ before.getLast?, c = '\n') ∧ '\n' ∉ rest
  := by
  induction t using List.reverseRecOn with
  | nil => exact ⟨[], [], rfl, by simp, by simp⟩
  | append_singleton t c ih =>
    by_cases feed : c = '\n'
    · exact ⟨t ++ [c], [], by simp, by simp [feed], by simp⟩
    · obtain ⟨before, rest, rfl, behind, within⟩ := ih
      exact ⟨before, rest ++ [c], List.append_assoc _ _ _, behind, by simp [within, Ne.symm feed]⟩

/-- A text starts with its first line. -/
theorem exists_line_end (t : Text) :
  ∃ first after : Text, t = first ++ after ∧ '\n' ∉ first ∧ ∀ c ∈ after.head?, c = '\n'
  := by
  induction t with
  | nil => exact ⟨[], [], rfl, by simp, by simp⟩
  | cons c t ih =>
    by_cases feed : c = '\n'
    · exact ⟨[], c :: t, rfl, by simp, by simp [feed]⟩
    · obtain ⟨first, after, rfl, within, ahead⟩ := ih
      exact ⟨c :: first, after, rfl, by simp [within, Ne.symm feed], ahead⟩

/-- A part of a text without the characters that end lines is within the content of a line. -/
theorem exists_line_of_append {before part after : Text} (nonempty : part ≠ [])
    (within : ∀ c ∈ part, c ≠ '\n' ∧ c ≠ '\r') :
  ∃ n line, (before ++ part ++ after).line? n = some line ∧ line.start ≤ before.byteSize
    ∧ (before ++ part).byteSize ≤ line.stop
  := by
  obtain ⟨earlier, upTo, rfl, behind, no_feed⟩ := exists_line_start before
  obtain ⟨more, later, rfl, no_more, ahead⟩ := exists_line_end after
  let piece := upTo ++ part ++ more
  have content_prefix : upTo ++ part <+: piece.dropCarriageReturn := by
    rw [dropCarriageReturn]
    split
    · next returns =>
      rcases List.eq_nil_or_concat' more with rfl | ⟨more, c, rfl⟩
      · obtain ⟨start, last, rfl⟩ := (List.eq_nil_or_concat' part).resolve_left nonempty
        have last_eq : last = '\r' := by simpa [piece, ← List.append_assoc] using returns
        exact absurd last_eq (within last (by simp)).2
      · rw [show piece = upTo ++ part ++ more ++ [c] by simp [piece], List.dropLast_concat]
        apply List.prefix_append
    · apply List.prefix_append
  have place : LineAt 0 earlier piece later (earlier.count '\n')
      ⟨earlier.byteSize, piece.dropCarriageReturn⟩ := by
    refine ⟨(Nat.zero_add _).symm, rfl, behind, ?_, ahead, dropCarriageReturn_eq_iff.mp rfl⟩
    have no_part : '\n' ∉ part := fun among => (within _ among).1 rfl
    simp [piece, no_feed, no_part, no_more]
  refine ⟨_, _, line?_eq_some_iff.mpr ⟨earlier, piece, later, by simp [piece], place⟩, ?_, ?_⟩
  · rw [byteSize_append]
    apply Nat.le_add_right
  · have := byteSize_le_of_prefix content_prefix
    rw [Line.stop, List.append_assoc, byteSize_append]
    exact Nat.add_le_add_left this _

/-- The range of a part within the content of a line leads back to the part. -/
theorem exists_rangeOf?_of_append {before part after : Text} (nonempty : part ≠ [])
    (within : ∀ c ∈ part, c ≠ '\n' ∧ c ≠ '\r') :
  ∃ r, (before ++ part ++ after).rangeOf? ⟨before.byteSize, (before ++ part).byteSize⟩ = some r
    ∧ (before ++ part ++ after).spanOf? r
      = some ⟨before.byteSize, (before ++ part).byteSize⟩
  := by
  obtain ⟨n, line, found, first, last⟩ : ∃ n line, (before ++ part ++ after).line? n = some line
      ∧ line.start ≤ before.byteSize ∧ (before ++ part).byteSize ≤ line.stop :=
    exists_line_of_append nonempty within
  have in_order : before.byteSize ≤ (before ++ part).byteSize :=
    byteSize_le_of_prefix (List.prefix_append _ _)
  have start_cut : (before ++ part ++ after).IsCut before.byteSize :=
    ⟨before, part ++ after, by simp, rfl⟩
  have stop_cut : (before ++ part ++ after).IsCut (before ++ part).byteSize :=
    ⟨before ++ part, after, rfl, rfl⟩
  obtain ⟨upTo, start_prefix, start_eq⟩ :=
    exists_prefix_of_isCut found start_cut first (Nat.le_trans in_order last)
  obtain ⟨through, stop_prefix, stop_eq⟩ :=
    exists_prefix_of_isCut found stop_cut (Nat.le_trans first in_order) last
  refine ⟨⟨⟨n, upTo.utf16Size⟩, ⟨n, through.utf16Size⟩⟩, ?_, ?_⟩
  · rw [rangeOf?, start_eq, stop_eq, positionAt?_of_prefix found start_prefix,
      positionAt?_of_prefix found stop_prefix]
    rfl
  · rw [spanOf?, offsetAt?_of_prefix found start_prefix, offsetAt?_of_prefix found stop_prefix,
      ← start_eq, ← stop_eq]
    exact congrArg (fun stop => some (Span.mk before.byteSize stop)) (Nat.max_eq_left in_order)

/-- Each cut has a position, which is later the further on the cut is. -/
theorem positionAt?_before {t : Text} {first last : Nat} (firstCut : t.IsCut first)
    (lastCut : t.IsCut last) (in_order : first < last) :
  ∃ p q, t.positionAt? first = some p ∧ t.positionAt? last = some q ∧ p.Before q
  := by
  obtain ⟨before, between, after, rfl, nonempty, rfl, rfl⟩ :=
    exists_between_of_isCut firstCut lastCut in_order
  refine ⟨Position.after ⟨0, 0⟩ before, _, ?_, positionAt?_append _ _, ?_⟩
  · rw [List.append_assoc, positionAt?_append]
  · rw [Position.after_append]
    apply Position.before_after _ nonempty

/-- Offsets that have positions have them in their order. -/
theorem positionAt?_in_order {t : Text} {first last : Nat} {p q : Position}
    (in_order : first ≤ last) (found : t.positionAt? first = some p)
    (found' : t.positionAt? last = some q) :
  p = q ∨ p.Before q
  := by
  obtain ⟨⟨before, rest⟩, cut, rfl⟩ := Option.map_eq_some_iff.mp found
  obtain ⟨⟨upTo, after⟩, cut', rfl⟩ := Option.map_eq_some_iff.mp found'
  obtain ⟨parts, size_eq⟩ := splitAt?_eq_some_iff.mp cut
  obtain ⟨rfl, size_eq'⟩ := splitAt?_eq_some_iff.mp cut'
  obtain ⟨between, rfl⟩ : before <+: upTo :=
    prefix_of_byteSize_le ⟨rest, parts.symm⟩ (List.prefix_append _ _) (by omega)
  dsimp only
  rw [Position.after_append]
  by_cases nonempty : between = []
  · subst nonempty
    exact .inl rfl
  · exact .inr (Position.before_after _ nonempty)

/-- Lines and columns are no larger than the bytes of the text. -/
theorem positionAt?_le_byteSize {t : Text} {offset : Nat} {p : Position}
    (found : t.positionAt? offset = some p) :
  p.line ≤ t.byteSize ∧ p.column ≤ t.byteSize
  := by
  obtain ⟨⟨before, after⟩, cut, rfl⟩ := Option.map_eq_some_iff.mp found
  obtain ⟨rfl, -⟩ := splitAt?_eq_some_iff.mp cut
  have feeds := List.count_le_length (a := '\n') (l := before)
  have := length_le_byteSize before
  have := utf16Size_le_byteSize before
  have line_eq := Position.line_after ⟨0, 0⟩ before
  have column_le := Position.column_after_le ⟨0, 0⟩ before
  dsimp only at line_eq column_le ⊢
  rw [byteSize_append]
  omega

/--
The lines of a text are what stands between its line feeds, less a carriage return.  A cut within
the content of a line has a position on that line, which leads back to the cut.  A position has an
offset when there is such a line; this is a cut within the content of the line, in the column
that the given column is rounded up to, so that a column inside a character is taken for the one
behind it.  Cuts further on have later positions, and all numbers are bounded by the bytes of the
text.
-/
theorem positions_invert_offsets (t : Text) :
  (∀ n line, t.line? n = some line ↔ t.HasLine 0 n line)
    ∧ t.lineCount = t.count '\n' + 1
    ∧ (∀ n line offset, t.line? n = some line → t.IsCut offset →
        line.start ≤ offset → offset ≤ line.stop →
        ∃ p, t.positionAt? offset = some p ∧ p.line = n ∧ t.offsetAt? p = some offset)
    ∧ (∀ p, t.offsetAt? p = none ↔ t.lineCount ≤ p.line)
    ∧ (∀ p offset, t.offsetAt? p = some offset →
        ∃ line q, t.line? p.line = some line ∧ t.IsCut offset
          ∧ line.start ≤ offset ∧ offset ≤ line.stop
          ∧ t.positionAt? offset = some q ∧ q.line = p.line
          ∧ line.content.RoundsTo p.column q.column)
    ∧ (∀ n line before c after column, t.line? n = some line →
        line.content = before ++ c :: after → 0 < column → column ≤ utf16Width c →
        t.offsetAt? ⟨n, utf16Size before + column⟩
          = some (line.start + byteSize (before ++ [c])))
    ∧ (∀ first last, t.IsCut first → t.IsCut last → first < last →
        ∃ p q, t.positionAt? first = some p ∧ t.positionAt? last = some q ∧ p.Before q)
    ∧ ∀ offset p, t.positionAt? offset = some p → p.line ≤ t.byteSize ∧ p.column ≤ t.byteSize
  := by
  refine ⟨fun n line => line?_eq_some_iff, t.lineCount_eq, ?_, fun p => offsetAt?_eq_none_iff,
    ?_, ?_, fun first last => positionAt?_before, fun offset p => positionAt?_le_byteSize⟩
  · intro n line offset found cut first last
    obtain ⟨before, part, rfl⟩ := exists_prefix_of_isCut found cut first last
    exact ⟨_, positionAt?_of_prefix found part, rfl, offsetAt?_of_prefix found part⟩
  · intro p offset reached
    obtain ⟨line, before, found, part, rfl, rounds⟩ := exists_prefix_of_offsetAt? reached
    refine ⟨line, _, found, isCut_of_prefix found part, Nat.le_add_right _ _, ?_,
      positionAt?_of_prefix found part, rfl, rounds⟩
    obtain ⟨rest, content_eq⟩ := part
    rw [Line.stop, ← content_eq, byteSize_append]
    omega
  · intro n line before c after column found content_eq positive inside
    apply offsetAt?_eq_some_iff.mpr
    use line, found
    rw [content_eq, columnBytes_append, columnBytes_cons positive inside, byteSize_append,
      byteSize_cons, byteSize_nil, Nat.add_zero]

/-- A column between the two UTF-16 units of a character is taken for the one behind it. -/
theorem positions_invert_offsets_surrogate :
  let t : Text := ['a', '😀', '\r', '\n', 'b', '\r', 'c']
  t.line? 0 = some ⟨0, ['a', '😀']⟩ ∧ t.offsetAt? ⟨0, 2⟩ = some 5
    ∧ t.line? 1 = some ⟨7, ['b', '\r', 'c']⟩
    ∧ ∃ p, t.positionAt? 9 = some p ∧ p.line = 1 ∧ t.offsetAt? p = some 9
  := by
  intro t
  have first : t.line? 0 = some ⟨0, ['a', '😀']⟩ := by decide
  have second : t.line? 1 = some ⟨7, ['b', '\r', 'c']⟩ := by decide
  have cut : t.IsCut 9 := ⟨['a', '😀', '\r', '\n', 'b', '\r'], ['c'], rfl, rfl⟩
  obtain ⟨-, -, back, -, -, inside, -⟩ := positions_invert_offsets t
  refine ⟨first, ?_, second, back 1 _ 9 second cut (by decide) (by decide)⟩
  apply inside 0 _ ['a'] '😀' [] 1 first rfl (by decide) (by decide)

end Text

end EditorModes
