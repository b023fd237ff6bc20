import EditorModes.Proofs.Mode.Less.Formatting

/-!
# Indented stylesheets

Indenting a stylesheet replaces the white space that its lines start with.  White space neither
opens nor closes a region, so each line begins in the same region as before and what is behind its
white space is masked as before (`Less.IsGap.leads`).  A line that has been indented has the
indentation of its depth (`Less.exists_indented`), and a stylesheet whose lines have theirs gets no
edits (`Less.indentEdits_idempotent`).
-/

namespace EditorModes

namespace Text

/-- The pieces of a text make it up again. -/
theorem join_splitOnChar (separator : Char) (t : Text) :
  join [separator] (t.splitOnChar separator) = t
  := by
  induction t using piece_induction separator with
  | last piece whole =>
    rw [splitOnChar_of_notMem whole]
    rfl
  | more piece rest whole ih =>
    rw [splitOnChar_append whole]
    obtain ⟨first, pieces, pieces_eq⟩ : ∃ first pieces, rest.splitOnChar separator
        = first :: pieces := by
      apply List.exists_cons_of_length_pos
      rw [length_splitOnChar]
      exact Nat.succ_pos _
    rw [pieces_eq] at ih ⊢
    rw [join, ih, List.append_assoc, List.singleton_append]
    simp

theorem trim_append {spaces : Text} (all_spaces : ∀ c ∈ spaces, Property.isSpace c = true)
    (t : Text) :
  trim (spaces ++ t) = t.trim
  := by
  rw [trim, trimStart_append all_spaces, trim]

end Text

namespace Less

open Text

variable {unit text piece masked t : Text} {region next : Region} {number n : Nat} {depth : Int}
  {e : IndentEdit} {edits later : List IndentEdit}

/-! ### Applying edits -/

/-- A line with the bytes of its white space replaced; none when they end inside a character. -/
def IndentEdit.applied? (e : IndentEdit) (line : Text) : Option Text :=
  (line.splitAt? e.current).map fun (_, rest) => e.indent ++ rest

/-- The line of a number after the edit of that line, if there is one. -/
def reindentLine? (edits : List IndentEdit) (line : Text) (n : Nat) : Option Text :=
  match edits.find? (·.line = n) with
  | some e => e.applied? line
  | none => some line

/-- The lines of a text, the first of which has a number, after the edits of those lines. -/
def reindentLines? (edits : List IndentEdit) (number : Nat) (lines : List Text) :
    Option (List Text) :=
  (lines.zipIdx number).mapM fun line => reindentLine? edits line.1 line.2

/-- A text after the edits of its lines. -/
def reindent? (t : Text) (edits : List IndentEdit) : Option Text :=
  (reindentLines? edits 0 (t.splitOnChar '\n')).map (Text.join ['\n'])

/-- An edit of an earlier line does not change the others. -/
theorem reindentLines?_append {first : List IndentEdit} (earlier : ∀ e ∈ first, e.line < number)
    (lines : List Text) :
  reindentLines? (first ++ later) number lines = reindentLines? later number lines
  := by
  apply mapM_congr
  intro ⟨line, n⟩ among
  have le_n : number ≤ n := List.le_snd_of_mem_zipIdx among
  have none_first : first.find? (·.line = n) = none := by
    rw [List.find?_eq_none]
    intro e listed
    have := earlier e listed
    simp only [decide_eq_true_eq]
    omega
  simp only [reindentLine?, List.find?_append, none_first, Option.none_or]

/-- The first line is changed by its own edit, and the others by theirs. -/
theorem reindentLines?_cons {first : Option IndentEdit} (here : ∀ e ∈ first, e.line = number)
    (behind : ∀ e ∈ later, number < e.line) (line : Text) (lines : List Text) :
  reindentLines? (first.toList ++ later) number (line :: lines)
    = do
      let line ← first.elim (some line) (·.applied? line)
      let lines ← reindentLines? later (number + 1) lines
      return line :: lines
  := by
  have none_later : later.find? (·.line = number) = none := by
    rw [List.find?_eq_none]
    intro e listed
    have := behind e listed
    simp only [decide_eq_true_eq]
    omega
  have found : (first.toList ++ later).find? (·.line = number) = first := by
    rw [List.find?_append, none_later, Option.or_none]
    cases first with
    | none => rfl
    | some e => simp [here e rfl]
  have first_eq : reindentLine? (first.toList ++ later) line number
      = first.elim (some line) (·.applied? line) := by
    rw [reindentLine?, found]
    cases first <;> rfl
  have earlier : ∀ e ∈ first.toList, e.line < number + 1 := by
    intro e among
    rw [here e (Option.mem_toList.mp among)]
    exact Nat.lt_succ_self number
  have rest : reindentLines? (first.toList ++ later) (number + 1) lines
      = reindentLines? later (number + 1) lines := reindentLines?_append earlier lines
  rw [reindentLines?] at rest
  rw [reindentLines?, List.zipIdx_cons, List.mapM_cons, rest]
  dsimp only
  rw [first_eq]

/-! ### White space and regions -/

/-- White space that ends no line is masked by itself, and the region goes on behind it. -/
theorem Region.Proper.exists_shown (proper : region.Proper) {c : Char}
    (space : Property.isSpace c = true) (inner : c ≠ '\n') :
  ∃ shown, ∀ t, maskFrom region (c :: t) = shown ++ maskFrom region t
  := by
  have other {mark : Char} (marks : Property.isSpace mark = false) : c ≠ mark := by
    rintro rfl
    rw [marks] at space
    contradiction
  cases region with
  | code =>
    have blank : ∀ d ∈ [c], Property.isSpace d = true := by simpa using space
    exact ⟨[c], fun t => maskFrom_code_append blank t⟩
  | block =>
    have no_star : c ≠ '*' := other (by decide)
    refine ⟨blank c, fun t => ?_⟩
    rw [maskFrom]
    exact fun _ star => absurd star no_star
  | line =>
    refine ⟨blank c, fun t => ?_⟩
    rw [maskFrom, if_neg inner]
  | quoted q =>
    have no_quote : c ≠ q := by
      rcases proper q rfl with rfl | rfl
      · exact other (by decide)
      · exact other (by decide)
    have no_backslash : c ≠ '\\' := other (by decide)
    exact ⟨blank c, fun t => maskFrom_quoted_hidden no_quote inner fun same =>
      absurd same no_backslash⟩
  | script =>
    have no_tick : c ≠ '`' := other (by decide)
    refine ⟨blank c, fun t => ?_⟩
    rw [maskFrom, if_neg no_tick]

/-- White space that ends no line. -/
structure IsGap (t : Text) : Prop where
  all_spaces : ∀ c ∈ t, Property.isSpace c = true
  inner : '\n' ∉ t

/-- White space that ends no line neither opens nor closes a region. -/
theorem IsGap.leads {gap : Text} (isGap : IsGap gap) (proper : region.Proper) :
  region.Leads gap region
  := by
  obtain ⟨all_spaces, inner⟩ := isGap
  intro rest
  induction gap with
  | nil => rw [maskFrom, List.nil_append, List.nil_append]
  | cons c gap ih =>
    obtain ⟨other, inner⟩ := List.ne_and_not_mem_of_not_mem_cons inner
    obtain ⟨shown, shown_eq⟩ :=
      proper.exists_shown (all_spaces c List.mem_cons_self) (Ne.symm other)
    have behind := ih (fun d among => all_spaces d (List.mem_cons_of_mem c among)) inner
    rw [List.cons_append, shown_eq, behind, shown_eq, List.append_assoc]

section

variable {gap rest : Text} (isGap : IsGap gap) (proper : region.Proper)

include isGap proper

/-- White space that a text starts with does not show in what its mask has besides. -/
theorem IsGap.trim_maskFrom (rest : Text) :
  (maskFrom region (gap ++ rest)).trim = (maskFrom region rest).trim
  := by
  rw [isGap.leads proper, trim_append]
  intro c among
  rcases (maskFrom_blanked region gap).eq_space_or_mem among with rfl | among
  · decide
  · exact isGap.all_spaces c among

/-- White space that a line starts with does not show in the region behind the line. -/
theorem IsGap.goes_iff :
  (∀ tail, maskFrom region (gap ++ rest ++ '\n' :: tail)
      = maskFrom region (gap ++ rest) ++ '\n' :: maskFrom next tail)
    ↔ ∀ tail, maskFrom region (rest ++ '\n' :: tail)
      = maskFrom region rest ++ '\n' :: maskFrom next tail
  := by
  apply forall_congr'
  intro tail
  rw [List.append_assoc, isGap.leads proper, isGap.leads proper, List.append_assoc,
    List.append_cancel_left_eq]

end

/-! ### Lines -/

theorem lineIndentation_congr {other : Text} (same : masked.trim = other.trim) :
  lineIndentation unit depth masked = lineIndentation unit depth other
  := by
  rw [lineIndentation, lineIndentation, same]

theorem braceBalance_congr {other : Text} (same : masked.trim = other.trim) :
  braceBalance masked = braceBalance other
  := by
  rw [← braceBalance_trim, same, braceBalance_trim]

theorem mem_lineIndentation {c : Char} (among : c ∈ lineIndentation unit depth masked) :
  c ∈ unit
  := by
  obtain ⟨copy, copied, among⟩ := List.mem_flatten.mp among
  rwa [List.eq_of_mem_replicate copied] at among

/--
A line and the same after its edit, which begin in a region and stand behind a number of open
blocks: the regions behind them and their braces are the same, and the edited line gets no edit.
-/
structure Indented (unit : Text) (region : Region) (number : Nat) (depth : Int)
    (piece piece' : Text) : Prop where
  applied : (editLine? unit number depth piece.dropCarriageReturn (maskFrom region piece)).elim
    (some piece) (·.applied? piece) = some piece'
  whole : '\n' ∉ piece → '\n' ∉ piece'
  goes : ∀ next : Region, (∀ rest, maskFrom region (piece ++ '\n' :: rest)
      = maskFrom region piece ++ '\n' :: maskFrom next rest) →
    ∀ rest, maskFrom region (piece' ++ '\n' :: rest)
      = maskFrom region piece' ++ '\n' :: maskFrom next rest
  balance_eq : braceBalance (maskFrom region piece') = braceBalance (maskFrom region piece)
  settled : editLine? unit number depth piece'.dropCarriageReturn (maskFrom region piece') = none

/-- A line has white space, something else behind it, and maybe a carriage return at its end. -/
theorem exists_core (piece : Text) :
  ∃ space core ending : Text, piece = space ++ (core ++ ending)
    ∧ piece.dropCarriageReturn = space ++ core
    ∧ piece.dropCarriageReturn.takeWhile Property.isSpace = space
    ∧ (∀ c ∈ core.head?, Property.isSpace c = false)
    ∧ (ending = ['\r'] ∨ ending = [] ∧ core.getLast? ≠ some '\r')
  := by
  generalize content_eq : piece.dropCarriageReturn = content
  have parts := takeWhile_append_trimStart content
  have head := isSpace_head?_trimStart content
  rcases dropCarriageReturn_eq_iff.mp content_eq with rfl | ⟨rfl, kept⟩
  · refine ⟨_, content.trimStart, ['\r'], ?_, parts.symm, rfl, head, .inl rfl⟩
    rw [← List.append_assoc, parts]
  · refine ⟨_, piece.trimStart, [], ?_, parts.symm, rfl, head, .inr ⟨rfl, fun last => kept ?_⟩⟩
    · rw [List.append_nil, parts]
    · rw [← parts, List.getLast?_append, last]
      rfl

/-- Without its carriage return, an indented line is its indentation and what it has besides. -/
theorem dropCarriageReturn_indented {indent core ending : Text} (no_return : '\r' ∉ indent)
    (ends : ending = ['\r'] ∨ ending = [] ∧ core.getLast? ≠ some '\r') :
  dropCarriageReturn (indent ++ (core ++ ending)) = indent ++ core
  := by
  rw [← List.append_assoc, dropCarriageReturn_eq_iff]
  rcases ends with rfl | ⟨rfl, kept⟩
  · exact .inl rfl
  · refine .inr ⟨List.append_nil _, fun last => ?_⟩
    rw [List.getLast?_append, Option.or_eq_some_iff] at last
    rcases last with last | ⟨-, last⟩
    · exact kept last
    · exact no_return (List.mem_of_getLast? last)

/-- A line with the indentation of its depth, or an empty one, gets no edit. -/
theorem editLine?_indented {indent core ending : Text} (isGap : IsGap indent)
    (no_return : '\r' ∉ indent) (core_starts : ∀ c ∈ core.head?, Property.isSpace c = false)
    (ends : ending = ['\r'] ∨ ending = [] ∧ core.getLast? ≠ some '\r')
    (fitting : core = [] ∧ indent = [] ∧ (maskFrom region (indent ++ (core ++ ending))).trim = []
      ∨ (maskFrom region (indent ++ (core ++ ending))).trim ≠ []
        ∧ indent = lineIndentation unit depth (maskFrom region (indent ++ (core ++ ending)))) :
  editLine? unit number depth (dropCarriageReturn (indent ++ (core ++ ending)))
    (maskFrom region (indent ++ (core ++ ending))) = none
  := by
  have content_eq := dropCarriageReturn_indented no_return ends
  rw [editLine?_eq_none_iff, content_eq, takeWhile_run_append isGap.all_spaces core_starts]
  rcases fitting with ⟨rfl, rfl, hidden⟩ | ⟨code, indent_eq⟩
  · exact ⟨fun _ => rfl, fun code => absurd hidden code⟩
  · refine ⟨fun blank_line => absurd (trim_maskFrom_of_blank ?_) code, fun _ => indent_eq⟩
    rwa [content_eq]

/-- A line that is edited has its indentation afterwards. -/
theorem indented_of_edit (proper : region.Proper) (blank : ∀ c ∈ unit, c = ' ' ∨ c = '\t')
    (whole : '\n' ∉ piece)
    (edited : editLine? unit number depth piece.dropCarriageReturn (maskFrom region piece)
      = some e) :
  ∃ piece', Indented unit region number depth piece piece'
  := by
  obtain ⟨indent, indented, -, rfl⟩ := editLine?_eq_some_iff.mp edited
  obtain ⟨space, core, ending, rfl, content_eq, space_eq, core_starts, ends⟩ := exists_core piece
  have isGap : IsGap space := by
    refine ⟨fun c among => ?_, fun among => whole (List.mem_append_left _ among)⟩
    rw [← space_eq] at among
    exact List.mem_takeWhile_imp among
  have indent_blank (c : Char) (among : c ∈ indent) :
      Property.isSpace c = true ∧ c ≠ '\n' ∧ c ≠ '\r' := by
    have of_unit : c ∈ unit := by
      rcases indented with ⟨-, -, rfl⟩ | ⟨-, rfl⟩
      · simp at among
      · exact mem_lineIndentation among
    rcases blank c of_unit with rfl | rfl
    · decide
    · decide
  have isGap' : IsGap indent :=
    ⟨fun c among => (indent_blank c among).1, fun among => (indent_blank _ among).2.1 rfl⟩
  have same : (maskFrom region (indent ++ (core ++ ending))).trim
      = (maskFrom region (space ++ (core ++ ending))).trim := by
    rw [isGap'.trim_maskFrom proper, isGap.trim_maskFrom proper]
  refine ⟨indent ++ (core ++ ending), ?_, fun _ among => ?_, fun next goes => ?_,
    braceBalance_congr same, ?_⟩
  · rw [edited, Option.elim_some, IndentEdit.applied?, space_eq, splitAt?_append]
    rfl
  · exact (List.mem_append.mp among).elim isGap'.inner fun among =>
      whole (List.mem_append_right _ among)
  · exact (isGap'.goes_iff proper).mpr ((isGap.goes_iff proper).mp goes)
  · apply editLine?_indented isGap' (fun among => (indent_blank _ among).2.2 rfl) core_starts ends
    rw [same, lineIndentation_congr same]
    refine indented.imp (fun ⟨hidden, blank_line, indent_eq⟩ => ⟨?_, indent_eq, hidden⟩) id
    rw [content_eq, trim_append isGap.all_spaces, trim_eq_nil_iff] at blank_line
    cases core with
    | nil => rfl
    | cons c core =>
      have marks := core_starts c rfl
      rw [blank_line c List.mem_cons_self] at marks
      contradiction

theorem exists_indented (proper : region.Proper) (blank : ∀ c ∈ unit, c = ' ' ∨ c = '\t')
    (whole : '\n' ∉ piece) (number : Nat) (depth : Int) :
  ∃ piece', Indented unit region number depth piece piece'
  := by
  cases edited : editLine? unit number depth piece.dropCarriageReturn (maskFrom region piece) with
  | some e => exact indented_of_edit proper blank whole edited
  | none => exact ⟨piece, by rw [edited]; rfl, id, fun _ => id, rfl, edited⟩

/-! ### Stylesheets -/

/-- The edits that the lines of a text get, which begin in a region behind some open blocks. -/
def lineEdits (unit : Text) (region : Region) (number : Nat) (depth : Int) (t : Text) :
    List IndentEdit :=
  indentFrom unit number depth ((t.splitOnChar '\n').zip ((maskFrom region t).splitOnChar '\n'))

theorem le_line_of_mem_lineEdits (among : e ∈ lineEdits unit region number depth t) :
  number ≤ e.line
  := (indentFrom_in_order unit number depth _).2 e among

theorem lineEdits_of_notMem (whole : '\n' ∉ piece) :
  lineEdits unit region number depth piece
    = (editLine? unit number depth piece.dropCarriageReturn (maskFrom region piece)).toList
  := by
  rw [lineEdits, splitOnChar_of_notMem whole, splitOnChar_of_notMem (notMem_maskFrom whole),
    List.zip_cons_cons, indentFrom_cons, List.zip_nil_left, indentFrom, List.append_nil]

theorem lineEdits_append {rest : Text} (whole : '\n' ∉ piece)
    (goes : maskFrom region (piece ++ '\n' :: rest)
      = maskFrom region piece ++ '\n' :: maskFrom next rest) :
  lineEdits unit region number depth (piece ++ '\n' :: rest)
    = (editLine? unit number depth piece.dropCarriageReturn (maskFrom region piece)).toList
      ++ lineEdits unit next (number + 1) (depth + braceBalance (maskFrom region piece)) rest
  := by
  rw [lineEdits, goes, splitOnChar_append whole, splitOnChar_append (notMem_maskFrom whole),
    List.zip_cons_cons, indentFrom_cons, lineEdits]

/-- The lines of a text can be indented, and get no edits afterwards. -/
theorem exists_reindentLines? (proper : region.Proper) (blank : ∀ c ∈ unit, c = ' ' ∨ c = '\t')
    (number : Nat) (depth : Int) (t : Text) :
  ∃ t', reindentLines? (lineEdits unit region number depth t) number (t.splitOnChar '\n')
      = some (t'.splitOnChar '\n')
    ∧ lineEdits unit region number depth t' = []
  := by
  have on_line {number : Nat} {depth : Int} {content masked : Text} :
      ∀ e ∈ editLine? unit number depth content masked, e.line = number := by
    intro e edited
    obtain ⟨indent, -, -, rfl⟩ := editLine?_eq_some_iff.mp edited
    rfl
  induction t using piece_induction '\n' generalizing region number depth with
  | last piece whole =>
    obtain ⟨piece', indented⟩ := exists_indented proper blank whole number depth
    refine ⟨piece', ?_, ?_⟩
    · rw [lineEdits_of_notMem whole, splitOnChar_of_notMem whole,
        splitOnChar_of_notMem (indented.whole whole), ← List.append_nil (Option.toList _),
        reindentLines?_cons on_line (by simp), indented.applied]
      rfl
    · rw [lineEdits_of_notMem (indented.whole whole), indented.settled]
      rfl
  | more piece rest whole ih =>
    obtain ⟨last, last_proper, goes⟩ := exists_goesOn proper piece
    obtain ⟨piece', indented⟩ := exists_indented proper blank whole number depth
    obtain ⟨rest', reindented, settled⟩ :=
      ih last_proper (number + 1) (depth + braceBalance (maskFrom region piece))
    refine ⟨piece' ++ '\n' :: rest', ?_, ?_⟩
    · rw [lineEdits_append whole (goes rest), splitOnChar_append whole,
        splitOnChar_append (indented.whole whole),
        reindentLines?_cons on_line fun e => le_line_of_mem_lineEdits, indented.applied, reindented]
      rfl
    · rw [lineEdits_append (indented.whole whole) (indented.goes last goes rest'),
        indented.settled, indented.balance_eq, settled]
      rfl

/--
The edits of a stylesheet are in the order of their lines, at most one for a line.  They can be
applied, and the stylesheet that they make gets no edits for the same unit of indentation.
-/
theorem indentEdits_idempotent (text unit : Text) (blank : ∀ c ∈ unit, c = ' ' ∨ c = '\t') :
  (indentEdits text unit).Pairwise (·.line < ·.line)
    ∧ (∀ e ∈ indentEdits text unit, e.line < text.lineCount)
    ∧ ∃ indented, reindent? text (indentEdits text unit) = some indented
      ∧ indentEdits indented unit = []
  := by
  have proper : Region.Proper .code := nofun
  refine ⟨(indentFrom_in_order unit 0 0 _).1, fun e among => ?_, ?_⟩
  · obtain ⟨⟨content, listed, -⟩, -⟩ := line_of_mem_indentEdits among
    have := (List.getElem?_eq_some_iff.mp listed).1
    rwa [length_lineContents] at this
  · obtain ⟨indented, reindented, settled⟩ := exists_reindentLines? proper blank 0 0 text
    refine ⟨indented, ?_, settled⟩
    have edits_eq : indentEdits text unit = lineEdits unit .code 0 0 text := rfl
    rw [reindent?, edits_eq, reindented, Option.map_some, join_splitOnChar]

/-- Code behind the end of a comment is indented by white space of the comment. -/
theorem indentEdits_idempotent_comment :
  let text : Text := ['a', '\x7b', '\n', '/', '*', '\n', ' ', ' ', '*', '/', 'b', '\n', '\x7d']
  (∀ c ∈ ['\t'], c = ' ' ∨ c = '\t') ∧ indentEdits text ['\t'] = [⟨2, 2, ['\t']⟩]
    ∧ ∃ indented, reindent? text [⟨2, 2, ['\t']⟩] = some indented
      ∧ indentEdits indented ['\t'] = []
  := by
  intro text
  have blank : ∀ c ∈ ['\t'], c = ' ' ∨ c = '\t' := by simp
  have edits_eq : indentEdits text ['\t'] = [⟨2, 2, ['\t']⟩] := by decide
  have indented := (indentEdits_idempotent text ['\t'] blank).2.2
  rw [edits_eq] at indented
  exact ⟨blank, edits_eq, indented⟩

end Less

end EditorModes
