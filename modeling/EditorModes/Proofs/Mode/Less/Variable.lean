import EditorModes.Mode.Less.Variable
import EditorModes.Proofs.Mode.Less.Mask
import Mathlib.Data.List.Induction
import Mathlib.Data.List.TakeWhile

/-!
# Where variables stand

A place starts a statement when the last mark before it, white space aside, ends one
(`Less.Opens`).  A variable consists of an `@` and a name in which nothing ends a statement, so no
statement starts inside it (`VariableUse.StandsAt.stop_le`); a declared variable starts a statement
itself.
-/

namespace EditorModes.Less

variable {t masked before after name more : Text} {c : Char} {offset : Nat}

/-! ### Starts of statements -/

/-- The last character that is not white space. -/
def lastMark (t : Text) : Option Char :=
  (t.reverse.dropWhile Property.isSpace).head?

/-- A character at the end is the last mark, unless it is white space. -/
theorem lastMark_append_singleton (t : Text) (c : Char) :
  lastMark (t ++ [c]) = if Property.isSpace c then lastMark t else some c
  := by
  rw [lastMark, List.reverse_append, List.reverse_singleton, List.singleton_append,
    List.dropWhile_cons]
  split
  · rfl
  · rfl

theorem lastMark_append_of_spaces (t : Text) {blanks : Text}
    (spaces : ∀ c ∈ blanks, Property.isSpace c = true) :
  lastMark (t ++ blanks) = lastMark t
  := by
  rw [lastMark, List.reverse_append, List.dropWhile_append_of_pos]
  · rfl
  · intro c among
    exact spaces c (List.mem_reverse.mp among)

/-- Behind a text that is not all white space, the last mark is one of the text. -/
theorem lastMark_append_of_mark (t : Text) {marked : Text} (among : c ∈ marked)
    (mark : Property.isSpace c = false) :
  ∃ d ∈ marked, lastMark (t ++ marked) = some d
  := by
  induction marked using List.reverseRecOn with
  | nil => simp at among
  | append_singleton marked d ih =>
    rw [← List.append_assoc, lastMark_append_singleton]
    split
    · next space =>
      have earlier : c ∈ marked := by
        rcases List.mem_append.mp among with earlier | last
        · exact earlier
        · rw [List.mem_singleton.mp last, space] at mark
          contradiction
      obtain ⟨e, among_e, last_eq⟩ := ih earlier
      exact ⟨e, List.mem_append_left _ among_e, last_eq⟩
    · exact ⟨d, by simp, rfl⟩

/-- An offset with nothing but white space between it and the end of a statement. -/
def Opens (t : Text) (offset : Nat) : Prop :=
  ∃ before after : Text, t = before ++ after ∧ before.byteSize = offset
    ∧ (lastMark before).all isStatementEnd = true

theorem Opens.append (opens : Opens t offset) (more : Text) :
  Opens (t ++ more) offset
  := by
  obtain ⟨before, after, rfl, size_eq, ends⟩ := opens
  exact ⟨before, after ++ more, List.append_assoc _ _ _, size_eq, ends⟩

/-! ### Names -/

theorem isSpace_of_isStatementEnd (ends : isStatementEnd c = true) :
  Property.isSpace c = false
  := by
  simp only [isStatementEnd, Bool.or_eq_true, decide_eq_true_eq] at ends
  rcases ends with (rfl | rfl) | rfl <;> decide

theorem utf8Size_of_isStatementEnd (ends : isStatementEnd c = true) :
  c.utf8Size = 1
  := by
  simp only [isStatementEnd, Bool.or_eq_true, decide_eq_true_eq] at ends
  rcases ends with (rfl | rfl) | rfl <;> rfl

/-- A character that neither ends a statement nor is left when others are blanked out. -/
def IsPlain (c : Char) : Prop :=
  isStatementEnd c = false ∧ c ≠ ' '

/-- A name consists of characters that may start one and of those that may go on. -/
theorem class_of_mem_nameAt (among : c ∈ nameAt t) :
  (Property.isAsciiLetter c || c = '_') = true ∨ (Property.isWord c || c = '-') = true
  := by
  cases t with
  | nil => simp [nameAt] at among
  | cons first rest =>
    simp only [nameAt] at among
    split at among
    · next starts =>
      rcases List.mem_cons.mp among with rfl | later
      · exact .inl starts
      · have goes_on := List.mem_takeWhile_imp later
        exact .inr goes_on
    · simp at among

theorem ne_of_mem_nameAt {others : List Char} (among : c ∈ nameAt t)
    (first : others.any (fun c => Property.isAsciiLetter c || c = '_') = false)
    (further : others.any (fun c => Property.isWord c || c = '-') = false) :
  ∀ d ∈ others, c ≠ d
  := by
  rintro d listed rfl
  rcases class_of_mem_nameAt among with starts | goes_on
  · exact List.any_eq_false.mp first c listed starts
  · exact List.any_eq_false.mp further c listed goes_on

/-- A name is a prefix of plain characters. -/
theorem nameAt_spec (t : Text) :
  nameAt t <+: t ∧ ∀ c ∈ nameAt t, IsPlain c
  := by
  constructor
  · cases t with
    | nil => exact List.nil_prefix
    | cons first rest =>
      simp only [nameAt]
      split
      · exact List.cons_prefix_cons.mpr ⟨rfl, List.takeWhile_prefix _⟩
      · exact List.nil_prefix
  · intro c among
    have other : ∀ d ∈ ['\x7b', '\x7d', ';', ' '], c ≠ d :=
      ne_of_mem_nameAt among (by decide) (by decide)
    simp [IsPlain, isStatementEnd, other]

/-! ### Variables -/

/-- A span whose ends are beside characters that are not spaces, or which goes up to the end. -/
structure FirmSpan (t : Text) (s : Span) : Prop where
  start_le : s.start ≤ s.stop
  start : Firm t s.start
  stop : Firm t s.stop ∨ s.stop = t.byteSize

theorem FirmSpan.stop_le {s : Span} (firm : FirmSpan t s) :
  s.stop ≤ t.byteSize
  := by
  rcases firm.stop with firm | atEnd
  · exact firm.le_byteSize
  · exact Nat.le_of_eq atEnd

/-- A part of a text with characters other than spaces at its ends. -/
structure Edged (word : Text) : Prop where
  first : ∃ c ∈ word.head?, c ≠ ' '
  last : ∃ c ∈ word.getLast?, c ≠ ' '

/-- Such a part stands between characters that are not blanked out. -/
theorem Edged.firmSpan {word : Text} (edged : Edged word) (before after : Text) :
  FirmSpan (before ++ word ++ after) ⟨before.byteSize, (before ++ word).byteSize⟩
  := by
  constructor
  · rw [Text.byteSize_append]
    apply Nat.le_add_right
  · obtain ⟨c, first, shown⟩ := edged.first
    obtain ⟨rest, rfl⟩ := List.head?_eq_some_iff.mp first
    exact ⟨before, c, rest ++ after, by simp, shown, .inl rfl⟩
  · obtain ⟨c, last, shown⟩ := edged.last
    obtain ⟨rest, rfl⟩ := List.getLast?_eq_some_iff.mp last
    exact .inl ⟨before ++ rest, c, after, by simp, shown, .inr (by rw [List.append_assoc])⟩

/-- A variable between two parts of a text, which starts a statement if it is declared there. -/
structure VariableUse.StandsAt (use : VariableUse) (before name after : Text) : Prop where
  name_eq : use.name = '@' :: name
  span_eq : use.span = ⟨before.byteSize, Text.byteSize (before ++ '@' :: name)⟩
  plain : ∀ c ∈ name, IsPlain c
  opens : use.value.isSome = true → (lastMark before).all isStatementEnd = true
  value : ∀ value ∈ use.value, FirmSpan (before ++ '@' :: name ++ after) value

/-- What comes before the end of a statement goes up to its end or to the end of the text. -/
theorem firm_takeWhile (before rest : Text) :
  let stop := before.byteSize + Text.byteSize (rest.takeWhile fun c => !isStatementEnd c)
  Firm (before ++ rest) stop ∨ stop = Text.byteSize (before ++ rest)
  := by
  intro stop
  let content : Text := rest.takeWhile fun c => !isStatementEnd c
  have parts : content ++ rest.dropWhile (fun c => !isStatementEnd c) = rest :=
    List.takeWhile_append_dropWhile
  have ends := List.head?_dropWhile_not (fun c => !isStatementEnd c) rest
  have stop_eq : stop = Text.byteSize (before ++ content) := (Text.byteSize_append _ _).symm
  cases tail : rest.dropWhile fun c => !isStatementEnd c with
  | nil =>
    rw [tail, List.append_nil] at parts
    rw [stop_eq, parts]
    exact .inr rfl
  | cons d after =>
    rw [tail] at parts ends
    have shown : d ≠ ' ' := by
      rintro rfl
      revert ends
      simp [isStatementEnd]
    exact .inl ⟨before ++ content, d, after, by rw [List.append_assoc, parts], shown,
      .inl stop_eq.symm⟩

/-- A declared value lies between the colon and the end of the statement. -/
theorem firmSpan_of_declaredValue? {value : Span}
    (declared : declaredValue? before.byteSize t = some value) :
  FirmSpan (before ++ t) value
  := by
  rw [declaredValue?] at declared
  split at declared
  · next rest trimmed =>
    obtain rfl := Option.some.inj declared
    obtain ⟨gap, rfl⟩ : ∃ gap : Text, t = gap ++ ':' :: rest :=
      ⟨t.takeWhile Property.isSpace, by
        rw [← trimmed, Text.trimStart, Text.trimStartBy, List.takeWhile_append_dropWhile]⟩
    have parts : before ++ (gap ++ ':' :: rest) = before ++ gap ++ [':'] ++ rest := by simp
    have start_eq : before.byteSize + (Text.byteSize (gap ++ ':' :: rest) - Text.byteSize rest)
        = Text.byteSize (before ++ gap ++ [':']) := by
      simp only [Text.byteSize_append, Text.byteSize_cons, Text.byteSize_nil]
      omega
    rw [start_eq, parts]
    exact ⟨Nat.le_add_right _ _, ⟨before ++ gap, ':', rest, by simp, by decide, .inr rfl⟩,
      firm_takeWhile _ rest⟩
  · simp at declared

/-- What is read behind an `@` is a name, and a value where a statement starts. -/
theorem eq_of_variableAt? {mark : Option Char} {use : VariableUse}
    (read : variableAt? offset mark t = some use) :
  use.name = '@' :: nameAt t ∧ use.span = ⟨offset, offset + 1 + (nameAt t).byteSize⟩
    ∧ use.value = if mark.all isStatementEnd then
        declaredValue? (offset + 1 + (nameAt t).byteSize) (t.drop (nameAt t).length)
      else none
  := by
  rw [variableAt?] at read
  split at read
  · simp at read
  · obtain rfl := Option.some.inj read
    exact ⟨rfl, rfl, rfl⟩

/-- A variable stands where it is read. -/
theorem standsAt_of_variableAt? {use : VariableUse}
    (read : variableAt? before.byteSize (lastMark before) t = some use) :
  ∃ name after, t = name ++ after ∧ use.StandsAt before name after
  := by
  obtain ⟨isFirst, plain⟩ := nameAt_spec t
  have parts := List.prefix_iff_eq_append.mp isFirst
  obtain ⟨name_eq, span_eq, value_eq⟩ := eq_of_variableAt? read
  have stop_eq : before.byteSize + 1 + (nameAt t).byteSize
      = Text.byteSize (before ++ '@' :: nameAt t) := by
    rw [Text.byteSize_append, Text.byteSize_cons, Nat.add_assoc]
    rfl
  rw [stop_eq] at span_eq value_eq
  refine ⟨nameAt t, t.drop (nameAt t).length, parts.symm, name_eq, span_eq, plain, ?_, ?_⟩
  · intro declared
    by_contra other
    simp [value_eq, other] at declared
  · intro value declared
    rw [value_eq] at declared
    split at declared
    · exact firmSpan_of_declaredValue? declared
    · simp at declared

/-- Each variable of a text is read behind an `@`. -/
theorem exists_variableAt?_of_mem_variablesFrom {use : VariableUse} (before t : Text)
    (among : use ∈ variablesFrom before.byteSize (lastMark before) t) :
  ∃ more rest, t = more ++ '@' :: rest
    ∧ variableAt? (before ++ more).byteSize (lastMark (before ++ more)) rest = some use
  := by
  induction t generalizing before with
  | nil => simp [variablesFrom] at among
  | cons c t ih =>
    have later : use ∈ variablesFrom (before ++ [c]).byteSize (lastMark (before ++ [c])) t →
        ∃ more rest, c :: t = more ++ '@' :: rest
          ∧ variableAt? (before ++ more).byteSize (lastMark (before ++ more)) rest = some use := by
      intro among
      obtain ⟨more, rest, rfl, read⟩ := ih _ among
      rw [List.append_assoc, List.singleton_append] at read
      exact ⟨c :: more, rest, rfl, read⟩
    rw [variablesFrom] at among
    rw [lastMark_append_singleton, Text.byteSize_append, Text.byteSize_cons, Text.byteSize_nil]
      at later
    split at among
    · next found =>
      rcases List.mem_cons.mp among with rfl | among
      · split at found
        · next at_sign =>
          subst at_sign
          exact ⟨[], t, rfl, by rwa [List.append_nil]⟩
        · simp at found
      · exact later among
    · exact later among

/-- The variables of a text come in order. -/
theorem variablesFrom_in_order (offset : Nat) (mark : Option Char) (t : Text) :
  (∀ use ∈ variablesFrom offset mark t, offset ≤ use.span.start)
    ∧ (variablesFrom offset mark t).Pairwise fun a b => a.span.start < b.span.start
  := by
  induction t generalizing offset mark with
  | nil => simp [variablesFrom]
  | cons c t ih =>
    have positive := c.utf8Size_pos
    obtain ⟨behind, in_order⟩ :=
      ih (offset + c.utf8Size) (if Property.isSpace c then mark else some c)
    have further (use : VariableUse) (among) : offset < use.span.start :=
      Nat.lt_of_lt_of_le (Nat.lt_add_of_pos_right positive) (behind use among)
    rw [variablesFrom]
    split
    · next first found =>
      have start_eq : first.span.start = offset := by
        split at found
        · rw [(eq_of_variableAt? found).2.1]
        · simp at found
      constructor
      · intro use among
        rcases List.mem_cons.mp among with rfl | later
        · exact Nat.le_of_eq start_eq.symm
        · exact Nat.le_of_lt (further use later)
      · apply List.pairwise_cons.mpr
        exact ⟨fun use later => start_eq ▸ further use later, in_order⟩
    · exact ⟨fun use later => Nat.le_of_lt (further use later), in_order⟩

/-- No statement starts inside a variable. -/
theorem VariableUse.StandsAt.stop_le {use : VariableUse} (stands : use.StandsAt before name after)
    (opens : Opens (before ++ '@' :: name ++ after) offset) (inside : use.span.start < offset) :
  use.span.stop ≤ offset
  := by
  obtain ⟨upTo, rest, parts, rfl, ends⟩ := opens
  rw [stands.span_eq] at inside ⊢
  by_contra short
  have first : upTo <+: before ++ '@' :: name ++ after := ⟨rest, parts.symm⟩
  have upTo_prefix : upTo <+: before ++ '@' :: name :=
    Text.prefix_of_byteSize_le first (List.prefix_append _ _) (Nat.le_of_not_le short)
  obtain ⟨read, rfl⟩ : before <+: upTo :=
    Text.prefix_of_byteSize_le (List.prefix_append _ _) upTo_prefix (Nat.le_of_lt inside)
  cases read with
  | nil => simp at inside
  | cons c read =>
    obtain ⟨rfl, isFirst⟩ :=
      List.cons_prefix_cons.mp ((List.prefix_append_right_inj before).mp upTo_prefix)
    obtain ⟨d, among, last_eq⟩ :=
      lastMark_append_of_mark before (List.mem_cons_self (a := '@') (l := read)) (by decide)
    rw [last_eq, Option.all_some] at ends
    rcases List.mem_cons.mp among with rfl | among
    · revert ends
      decide
    · rw [(stands.plain d (isFirst.subset among)).1] at ends
      contradiction

/-- A variable stands over some text, and its ends are beside its own characters. -/
theorem VariableUse.StandsAt.firmSpan {use : VariableUse}
    (stands : use.StandsAt before name after) :
  use.span.start < use.span.stop ∧ FirmSpan (before ++ '@' :: name ++ after) use.span
  := by
  have nonempty : before.byteSize < Text.byteSize (before ++ '@' :: name) := by
    rw [Text.byteSize_append]
    exact Nat.lt_add_of_pos_right (Text.byteSize_pos (List.cons_ne_nil _ _))
  have shown : ∀ c ∈ '@' :: name, c ≠ ' ' := by
    intro c among
    rcases List.mem_cons.mp among with rfl | among
    · decide
    · exact (stands.plain c among).2
  have edged : Edged ('@' :: name) := by
    refine ⟨⟨'@', rfl, by decide⟩, _, List.getLast?_eq_some_getLast (List.cons_ne_nil '@' name), ?_⟩
    exact shown _ (List.getLast_mem _)
  rw [stands.span_eq]
  exact ⟨nonempty, edged.firmSpan before after⟩

end EditorModes.Less
