import EditorModes.Proofs.Text.Position

/-!
# Lines by their offsets

The lines of a text can be told from byte offsets alone: one starts at the start of the text and
one behind each line feed, and each reaches to the byte before the next start, less one carriage
return (`Text.lineSpan?`).  Cutting the text at these offsets gives the same lines as taking it
apart at its line feeds.
-/

namespace EditorModes

namespace Text

/-- The byte offset behind each line feed of a text at `offset`. -/
def feedEnds (offset : Nat) : Text → List Nat
  | [] => []
  | c :: t =>
    if c = '\n' then (offset + c.utf8Size) :: feedEnds (offset + c.utf8Size) t
    else feedEnds (offset + c.utf8Size) t

/-- The byte offsets where lines start. -/
def lineStarts (t : Text) : List Nat :=
  0 :: feedEnds 0 t

/-- The span of a line, without its terminator. -/
def lineSpan? (t : Text) (n : Nat) : Option Span := do
  let start ← t.lineStarts[n]?
  let stop := (t.lineStarts[n + 1]?.map (· - 1)).getD t.byteSize
  if start < stop ∧ t.slice? (stop - 1) stop = some ['\r'] then return ⟨start, stop - 1⟩
  else return ⟨start, stop⟩

/-- The text of a line, cut out at its span. -/
def lineText? (t : Text) (n : Nat) : Option Text := do
  let span ← t.lineSpan? n
  t.slice? span.start span.stop

/-! ### Starts of lines -/

/-- A slice stands between a part before it and a part after it. -/
theorem slice?_eq_some_iff {t between : Text} {first last : Nat} :
  t.slice? first last = some between
    ↔ ∃ before after, t = before ++ between ++ after ∧ before.byteSize = first
      ∧ (before ++ between).byteSize = last
  := by
  constructor
  · intro cut
    rw [slice?] at cut
    split at cut
    · simp at cut
    · simp only [Option.bind_eq_bind, Option.bind_eq_some_iff, Option.pure_def,
        Option.some.injEq, Prod.exists] at cut
      obtain ⟨upTo, after, cutLast, before, between, cutFirst, rfl⟩ := cut
      obtain ⟨rfl, rfl⟩ := splitAt?_eq_some_iff.mp cutLast
      obtain ⟨rfl, rfl⟩ := splitAt?_eq_some_iff.mp cutFirst
      exact ⟨before, after, rfl, rfl, rfl⟩
  · rintro ⟨before, after, rfl, rfl, rfl⟩
    apply slice?_append

theorem length_feedEnds (offset : Nat) (t : Text) :
  (feedEnds offset t).length = t.count '\n'
  := by
  induction t generalizing offset with
  | nil => rfl
  | cons c t ih =>
    by_cases feed : c = '\n'
    · rw [feedEnds, if_pos feed, List.length_cons, ih, feed, List.count_cons_self]
    · rw [feedEnds, if_neg feed, ih, List.count_cons_of_ne feed]

/-- A line feed behind others is counted by them. -/
theorem feedEnds_append (offset : Nat) (before after : Text) :
  (feedEnds offset (before ++ '\n' :: after))[before.count '\n']?
    = some (offset + before.byteSize + 1)
  := by
  induction before generalizing offset with
  | nil => rfl
  | cons c before ih =>
    by_cases feed : c = '\n'
    · rw [List.cons_append, feedEnds, if_pos feed, feed, List.count_cons_self,
        List.getElem?_cons_succ, ih, byteSize_cons, Nat.add_assoc offset]
    · rw [List.cons_append, feedEnds, if_neg feed, List.count_cons_of_ne feed, ih,
        byteSize_cons, Nat.add_assoc offset]

theorem length_lineStarts (t : Text) :
  t.lineStarts.length = t.lineCount
  := by
  rw [lineStarts, List.length_cons, length_feedEnds, lineCount_eq]

section

variable {before piece after : Text} {n : Nat} {line : Line}

/-- A line starts behind its number of line feeds. -/
theorem LineAt.lineStarts_getElem? (place : LineAt 0 before piece after n line) :
  (before ++ piece ++ after).lineStarts[n]? = some line.start
  := by
  rw [place.start_eq]
  rcases List.eq_nil_or_concat' before with rfl | ⟨earlier, c, rfl⟩
  · rw [← place.number]
    rfl
  · obtain rfl := place.behind c List.getLast?_concat
    have number : earlier.count '\n' + 1 = n := by
      rw [← place.number, List.count_append, List.count_singleton_self]
    have feed : '\n'.utf8Size = 1 := rfl
    rw [← number, lineStarts, List.getElem?_cons_succ, List.append_assoc, List.append_assoc,
      List.singleton_append, feedEnds_append, byteSize_append, byteSize_cons, feed, byteSize_nil,
      Nat.zero_add, Nat.add_zero, Nat.zero_add]

/-- A line with its carriage return reaches to the byte before the next start, or to the end. -/
theorem LineAt.next_lineStarts (place : LineAt 0 before piece after n line) :
  ((before ++ piece ++ after).lineStarts[n + 1]?.map (· - 1)).getD
      (before ++ piece ++ after).byteSize
    = (before ++ piece).byteSize
  := by
  have number : (before ++ piece).count '\n' = n := by
    rw [List.count_append, place.number, List.count_eq_zero.mpr place.within, Nat.add_zero]
  rw [lineStarts, List.getElem?_cons_succ]
  cases after with
  | nil =>
    have size_eq := (length_feedEnds 0 (before ++ piece)).trans number
    rw [List.append_nil, List.getElem?_eq_none (Nat.le_of_eq size_eq)]
    rfl
  | cons c after =>
    obtain rfl := place.ahead c rfl
    rw [← number, feedEnds_append]
    simp

/-- A line ends in a carriage return exactly when one stands before the next line feed. -/
theorem LineAt.slice?_iff (place : LineAt 0 before piece after n line) :
  line.start < (before ++ piece).byteSize
      ∧ (before ++ piece ++ after).slice? ((before ++ piece).byteSize - 1)
          (before ++ piece).byteSize = some ['\r']
    ↔ piece = line.content ++ ['\r']
  := by
  have width : '\r'.utf8Size = 1 := rfl
  have start_eq := place.start_eq
  rw [Nat.zero_add] at start_eq
  constructor
  · rintro ⟨nonempty, cut⟩
    obtain ⟨first, last, parts_eq, -, size_eq⟩ := slice?_eq_some_iff.mp cut
    have same : first ++ ['\r'] = before ++ piece := by
      have cut := splitAt?_append (first ++ ['\r']) last
      rw [size_eq, ← parts_eq, splitAt?_append] at cut
      apply (Prod.mk.inj (Option.some.inj cut)).1.symm
    refine place.ending.resolve_right ?_
    rintro ⟨rfl, kept⟩
    rcases List.eq_nil_or_concat' line.content with empty | ⟨shorter, c, content_eq⟩
    · rw [empty, List.append_nil, start_eq] at nonempty
      omega
    · rw [content_eq, ← List.append_assoc] at same
      obtain ⟨-, same⟩ := List.append_inj' same rfl
      apply kept
      rw [content_eq, List.getLast?_concat, List.cons.inj same |>.1]
  · intro returns
    have size_eq : (before ++ piece).byteSize = (before ++ line.content).byteSize + 1 := by
      rw [returns, ← List.append_assoc, byteSize_append _ ['\r'], byteSize_cons, width,
        byteSize_nil]
    have cut := slice?_append (before ++ line.content) ['\r'] after
    rw [List.append_assoc before, ← returns] at cut
    rw [size_eq, Nat.add_sub_cancel]
    rw [size_eq] at cut
    have after_start : line.start < (before ++ line.content).byteSize + 1 := by
      rw [start_eq, byteSize_append]
      omega
    exact ⟨after_start, cut⟩

end

/-! ### Lines at their spans -/

/-- The span of a line is where its content stands. -/
theorem lineSpan?_eq (t : Text) (n : Nat) :
  t.lineSpan? n = (t.line? n).map fun line => ⟨line.start, line.stop⟩
  := by
  cases found : t.line? n with
  | none =>
    have short : t.lineStarts.length ≤ n := by
      rw [length_lineStarts]
      exact List.getElem?_eq_none_iff.mp found
    rw [lineSpan?, List.getElem?_eq_none short]
    rfl
  | some line =>
    obtain ⟨before, piece, after, rfl, place⟩ := line?_eq_some_iff.mp found
    have start_eq := place.start_eq
    rw [Nat.zero_add] at start_eq
    simp only [lineSpan?, place.lineStarts_getElem?, place.next_lineStarts, place.slice?_iff,
      Option.bind_eq_bind, Option.bind_some, Option.map_some]
    rcases place.ending with returns | ⟨whole, kept⟩
    · have width : '\r'.utf8Size = 1 := rfl
      rw [if_pos returns, Option.pure_def, Line.stop, start_eq]
      simp [returns, width]
    · have stays : piece ≠ line.content ++ ['\r'] := by
        rw [whole]
        simp
      rw [if_neg stays, Option.pure_def, Line.stop, start_eq, whole, byteSize_append]

/-- Cut out at its span, a line has its content. -/
theorem lineText?_eq (t : Text) (n : Nat) :
  t.lineText? n = (t.line? n).map (·.content)
  := by
  rw [lineText?, lineSpan?_eq]
  cases found : t.line? n with
  | none => rfl
  | some line =>
    obtain ⟨before, after, rfl, start_eq, -⟩ := exists_append_of_prefix found List.prefix_rfl
    simp only [Option.map_some, Option.bind_eq_bind, Option.bind_some]
    rw [Line.stop, ← start_eq, ← byteSize_append, slice?_append]

/-- Taking a text apart at its line feeds gives the lines that are cut out at their spans. -/
theorem lineContents_getElem? (t : Text) (n : Nat) :
  t.lineContents[n]? = t.lineText? n
  := by
  rw [lineText?_eq, line?, ← List.getElem?_map, lines, map_content_linesFrom]
  rfl

theorem length_lineContents (t : Text) :
  t.lineContents.length = t.lineCount
  := by
  rw [lineContents, List.length_map, length_splitOnChar, lineCount_eq]

end Text

end EditorModes
