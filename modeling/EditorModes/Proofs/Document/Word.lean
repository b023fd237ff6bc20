import EditorModes.Document.Basic
import EditorModes.Proofs.Lexer.Plain
import EditorModes.Proofs.Text.Position

/-!
# Words under the cursor

The word at a position is the maximal run of word characters that contains the offset of the
position or touches it.  No other run does, the run stands within the line, and all positions along
it find the same word (`Document.wordAt?_maximal`).
-/

namespace EditorModes

namespace Document

variable {d : Document} {w : WordAt} {p : Position} {offset : Nat}
  {before left right after : Text}

/-- A word of a text, which is a maximal run of word characters, with the span that it fills. -/
def IsWordOf (w : WordAt) (t : Text) : Prop :=
  ∃ before after : Text, t = before ++ w.word ++ after
    ∧ w.span = ⟨before.byteSize, (before ++ w.word).byteSize⟩
    ∧ IsRun (isWordChar · = true) before w.word after

/-- An offset inside a span or at one of its ends. -/
def Touches (s : Span) (offset : Nat) : Prop :=
  s.start ≤ offset ∧ offset ≤ s.stop

/-- The word characters around a place of a text, and what stands before and behind them. -/
structure Around (before left right after : Text) : Prop where
  left : ∀ c ∈ left, isWordChar c = true
  right : ∀ c ∈ right, isWordChar c = true
  starts : ∀ c ∈ before.getLast?, isWordChar c = false
  ends : ∀ c ∈ after.head?, isWordChar c = false

/-- Every place of a text stands between the word characters around it. -/
theorem exists_around (s t : Text) :
  ∃ before left right after : Text, s = before ++ left ∧ t = right ++ after
    ∧ Around before left right after
  := by
  obtain ⟨before, parts, all, last⟩ := Text.exists_suffixWhile isWordChar s
  refine ⟨before, _, t.takeWhile isWordChar, t.dropWhile isWordChar, parts,
    List.takeWhile_append_dropWhile.symm, all, fun c => List.mem_takeWhile_imp, last, ?_⟩
  intro c first
  have stops := List.head?_dropWhile_not isWordChar t
  rw [first] at stops
  simpa using stops

/-- Word characters around a place are a run of them, if there are any. -/
theorem Around.isRun (around : Around before left right after) (nonempty : left ++ right ≠ []) :
  IsRun (isWordChar · = true) before (left ++ right) after
  where
  nonempty := nonempty
  all c among := (List.mem_append.mp among).elim (around.left c) (around.right c)
  starts c last := by simp [around.starts c last]
  ends c first := by simp [around.ends c first]

/-- The word at a place consists of the word characters around it. -/
theorem Around.wordAtOffset?_eq (around : Around before left right after)
    (text_eq : d.text = before ++ left ++ (right ++ after)) :
  d.wordAtOffset? (before ++ left).byteSize
    = if left ++ right = [] then none
      else some ⟨⟨before.byteSize, (before ++ (left ++ right)).byteSize⟩, left ++ right⟩
  := by
  have start_eq : (before ++ left).byteSize - left.byteSize = before.byteSize := by
    rw [Text.byteSize_append, Nat.add_sub_cancel]
  have stop_eq : (before ++ left).byteSize + right.byteSize
      = (before ++ (left ++ right)).byteSize := by
    rw [← List.append_assoc, Text.byteSize_append (before ++ left)]
  rw [wordAtOffset?, text_eq, Text.splitAt?_append]
  simp only [Option.bind_eq_bind, Option.bind_some,
    Text.suffixWhile_append_run around.left around.starts,
    Text.takeWhile_run_append around.right around.ends, start_eq, stop_eq,
    List.append_eq_nil_iff]

/-- The word at a cut of a text is the one that touches the cut. -/
theorem wordAtOffset?_eq_some_iff (cut : d.text.IsCut offset) :
  d.wordAtOffset? offset = some w ↔ IsWordOf w d.text ∧ Touches w.span offset
  := by
  obtain ⟨s, t, text_eq, rfl⟩ := cut
  constructor
  · intro found
    obtain ⟨before, left, right, after, rfl, rfl, around⟩ := exists_around s t
    rw [around.wordAtOffset?_eq text_eq] at found
    split at found
    · contradiction
    · next nonempty =>
      obtain rfl := Option.some.inj found
      refine ⟨⟨before, after, by rw [text_eq]; simp, rfl, around.isRun nonempty⟩, ?_, ?_⟩
      · exact Text.byteSize_le_of_prefix (List.prefix_append _ _)
      · rw [← List.append_assoc]
        exact Text.byteSize_le_of_prefix (List.prefix_append _ _)
  · rintro ⟨⟨before, after, parts, span_eq, run⟩, touches⟩
    rw [span_eq] at touches
    rw [text_eq] at parts
    obtain ⟨left, right, word_eq, rfl, rfl⟩ := Text.exists_cut_inside parts touches.1 touches.2
    obtain ⟨span, word⟩ := w
    obtain rfl : word = left ++ right := word_eq
    obtain rfl : span = ⟨before.byteSize, (before ++ (left ++ right)).byteSize⟩ := span_eq
    have around : Around before left right after := by
      refine ⟨fun c among => run.all c (List.mem_append_left _ among),
        fun c among => run.all c (List.mem_append_right _ among), ?_, ?_⟩
      · intro c last
        simpa using run.starts c last
      · intro c first
        simpa using run.ends c first
    rw [around.wordAtOffset?_eq text_eq, if_neg run.nonempty]

/-- There is no word at a cut of a text when no word character is beside it. -/
theorem wordAtOffset?_eq_none_iff {s t : Text} (text_eq : d.text = s ++ t) :
  d.wordAtOffset? s.byteSize = none
    ↔ (∀ c ∈ s.getLast?, isWordChar c = false) ∧ ∀ c ∈ t.head?, isWordChar c = false
  := by
  obtain ⟨before, left, right, after, rfl, rfl, around⟩ := exists_around s t
  rw [around.wordAtOffset?_eq text_eq]
  constructor
  · intro missing
    split at missing
    · next none_around =>
      obtain ⟨rfl, rfl⟩ := List.append_eq_nil_iff.mp none_around
      rw [List.append_nil]
      exact ⟨around.starts, around.ends⟩
    · contradiction
  · rintro ⟨starts, ends⟩
    have left_empty : left = [] := by
      by_contra nonempty
      obtain ⟨more, c, rfl⟩ := (List.eq_nil_or_concat' left).resolve_left nonempty
      have other := starts c (by simp)
      rw [around.left c (by simp)] at other
      contradiction
    have right_empty : right = [] := by
      by_contra nonempty
      obtain ⟨c, more, rfl⟩ := List.exists_cons_of_ne_nil nonempty
      have other := ends c rfl
      rw [around.right c List.mem_cons_self] at other
      contradiction
    rw [left_empty, right_empty, if_pos (List.append_nil _)]

/-! ### Words and lines -/

/-- A word has no characters that end lines, so that it stands within a line. -/
theorem IsWordOf.exists_line {t : Text} (isWord : IsWordOf w t) :
  ∃ n line, t.line? n = some line ∧ line.start ≤ w.span.start ∧ w.span.stop ≤ line.stop
  := by
  obtain ⟨before, after, rfl, span_eq, run⟩ := isWord
  rw [span_eq]
  apply Text.exists_line_of_append run.nonempty
  intro c among
  have word := run.all c among
  constructor
  · rintro rfl
    revert word
    decide
  · rintro rfl
    revert word
    decide

/-- A cut within the content of a line is at a position on that line only. -/
theorem line_unique {t : Text} {n m : Nat} {line other : Line} (found : t.line? n = some line)
    (found' : t.line? m = some other) (cut : t.IsCut offset)
    (within : line.start ≤ offset ∧ offset ≤ line.stop)
    (within' : other.start ≤ offset ∧ offset ≤ other.stop) :
  n = m
  := by
  obtain ⟨part, first, rfl⟩ := Text.exists_prefix_of_isCut found cut within.1 within.2
  obtain ⟨part', first', offset_eq⟩ := Text.exists_prefix_of_isCut found' cut within'.1 within'.2
  have same := Text.positionAt?_of_prefix found first
  rw [offset_eq, Text.positionAt?_of_prefix found' first'] at same
  exact (Position.mk.inj (Option.some.inj same)).1.symm

theorem exists_cut_of_offsetAt? {t : Text} (reached : t.offsetAt? p = some offset) :
  t.IsCut offset ∧ ∃ line, t.line? p.line = some line ∧ line.start ≤ offset ∧ offset ≤ line.stop
  := by
  obtain ⟨line, part, found, isFirst, rfl, -⟩ := Text.exists_prefix_of_offsetAt? reached
  refine ⟨Text.isCut_of_prefix found isFirst, line, found, Nat.le_add_right _ _, ?_⟩
  exact Nat.add_le_add_left (Text.byteSize_le_of_prefix isFirst) _

/-- The word at a position is the one at its offset. -/
theorem wordAt?_eq_some_iff :
  d.wordAt? p = some w
    ↔ ∃ offset, d.text.offsetAt? p = some offset ∧ IsWordOf w d.text ∧ Touches w.span offset
  := by
  rw [wordAt?, Option.bind_eq_bind, Option.bind_eq_some_iff]
  apply exists_congr
  intro offset
  apply and_congr_right
  intro reached
  rw [wordAtOffset?_eq_some_iff (exists_cut_of_offsetAt? reached).1]

/--
There is no word at a position exactly when its line is missing or the characters before and behind
its offset belong to no word.  Otherwise the word there is the one maximal run of word characters
that contains the offset or touches it.  It stands within the line of the position, and all cuts
along it, its ends included, have positions that find the same word.
-/
theorem wordAt?_maximal (d : Document) :
  (∀ p, d.wordAt? p = none
      ↔ d.text.lineCount ≤ p.line
        ∨ ∃ before after : Text, d.text = before ++ after
          ∧ d.text.offsetAt? p = some before.byteSize
          ∧ (∀ c ∈ before.getLast?, isWordChar c = false)
          ∧ ∀ c ∈ after.head?, isWordChar c = false)
    ∧ (∀ p w, d.wordAt? p = some w
      ↔ ∃ offset, d.text.offsetAt? p = some offset ∧ IsWordOf w d.text ∧ Touches w.span offset)
    ∧ ∀ p w, d.wordAt? p = some w →
      (∃ line, d.text.line? p.line = some line ∧ line.start ≤ w.span.start
          ∧ w.span.stop ≤ line.stop)
        ∧ ∀ offset, d.text.IsCut offset → Touches w.span offset →
          ∃ q, d.text.positionAt? offset = some q ∧ q.line = p.line ∧ d.wordAt? q = some w
  := by
  refine ⟨fun p => ?_, fun p w => wordAt?_eq_some_iff, fun p w found => ?_⟩
  · cases reached : d.text.offsetAt? p with
    | none =>
      rw [wordAt?, reached]
      simp [Text.offsetAt?_eq_none_iff.mp reached]
    | some offset =>
      have has_line : ¬ d.text.lineCount ≤ p.line := by
        rw [← Text.offsetAt?_eq_none_iff, reached]
        simp
      obtain ⟨⟨s, t, text_eq, rfl⟩, -⟩ := exists_cut_of_offsetAt? reached
      have missing_iff : d.wordAt? p = none ↔ d.wordAtOffset? s.byteSize = none := by
        rw [wordAt?, reached]
        rfl
      rw [missing_iff, wordAtOffset?_eq_none_iff text_eq, or_iff_right has_line]
      constructor
      · rintro ⟨starts, ends⟩
        exact ⟨s, t, text_eq, rfl, starts, ends⟩
      · rintro ⟨before, after, parts, size_eq, starts, ends⟩
        rw [text_eq] at parts
        obtain ⟨rfl, rfl⟩ := Text.append_inj_of_byteSize_eq parts (Option.some.inj size_eq)
        exact ⟨starts, ends⟩
  · obtain ⟨offset, reached, isWord, touches⟩ := wordAt?_eq_some_iff.mp found
    obtain ⟨cut, line, found_line, within⟩ := exists_cut_of_offsetAt? reached
    obtain ⟨n, other, found_other, first, last⟩ := isWord.exists_line
    obtain rfl := line_unique found_line found_other cut within
      ⟨first.trans touches.1, touches.2.trans last⟩
    refine ⟨⟨other, found_other, first, last⟩, fun place place_cut touched => ?_⟩
    obtain ⟨part, isFirst, rfl⟩ := Text.exists_prefix_of_isCut found_other place_cut
      (first.trans touched.1) (touched.2.trans last)
    refine ⟨_, Text.positionAt?_of_prefix found_other isFirst, rfl, wordAt?_eq_some_iff.mpr ?_⟩
    exact ⟨_, Text.offsetAt?_of_prefix found_other isFirst, isWord, touched⟩

/-- A word at the end of a line is found from beyond that end and from its start. -/
theorem wordAt?_maximal_beyond :
  let d : Document := ⟨"file:///a.less", "less", 1, ['😀', ' ', '@', 'a', '\r', '\n', '-']⟩
  d.wordAt? ⟨0, 9⟩ = some ⟨⟨5, 7⟩, ['@', 'a']⟩
    ∧ ∃ q, d.text.positionAt? 5 = some q ∧ q.line = 0 ∧ d.wordAt? q = some ⟨⟨5, 7⟩, ['@', 'a']⟩
  := by
  intro d
  have found : d.wordAt? ⟨0, 9⟩ = some ⟨⟨5, 7⟩, ['@', 'a']⟩ := by decide
  have cut : d.text.IsCut 5 := ⟨['😀', ' '], ['@', 'a', '\r', '\n', '-'], rfl, rfl⟩
  obtain ⟨-, -, along⟩ := d.wordAt?_maximal
  exact ⟨found, (along ⟨0, 9⟩ _ found).2 5 cut ⟨by decide, by decide⟩⟩

end Document

end EditorModes
