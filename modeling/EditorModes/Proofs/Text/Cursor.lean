import EditorModes.Proofs.Text.Cut
import EditorModes.Text.Cursor
import Mathlib.Data.List.Induction

/-!
# The contract of a cursor

All measures of the text ahead end between two of its characters.  A motion that adds such a measure
to the place of a cursor which stands between two characters therefore passes over a text
(`Cursor.Passes`), and leaves the cursor between two characters again.  From this follows what
operations promise to those who ask for them (`Cursor.Contract`), wherever earlier operations have
left the cursor (`Cursor.run_contract`).
-/

namespace EditorModes

namespace Text

/-! ### Searches -/

theorem dropPrefix?_eq_some_iff {needle t after : Text} :
  dropPrefix? needle t = some after ↔ t = needle ++ after
  := by
  fun_induction dropPrefix? needle t with
  | case1 t => simp
  | case2 a needle => simp
  | case3 needle b t ih => simpa using ih
  | case4 a needle b t differ => simp [Ne.symm differ]

theorem startsWith_iff {t needle : Text} :
  t.startsWith needle = true ↔ needle <+: t
  := by
  rw [startsWith, Option.isSome_iff_exists]
  constructor
  · rintro ⟨after, dropped⟩
    exact ⟨after, (dropPrefix?_eq_some_iff.mp dropped).symm⟩
  · rintro ⟨after, parts⟩
    exact ⟨after, dropPrefix?_eq_some_iff.mpr parts.symm⟩

/-- The first occurrence of a text stands between the part before it and the part behind it. -/
theorem eq_append_of_splitFirst? {needle t before after : Text}
    (found : splitFirst? needle t = some (before, after)) :
  t = before ++ needle ++ after
  := by
  fun_induction splitFirst? needle t generalizing before with
  | case1 =>
    obtain ⟨rest, dropped, parts_eq⟩ := Option.map_eq_some_iff.mp found
    obtain ⟨rfl, rfl⟩ := Prod.mk.inj parts_eq
    exact dropPrefix?_eq_some_iff.mp dropped
  | case2 c t rest dropped =>
    obtain ⟨rfl, rfl⟩ := Prod.mk.inj (Option.some.inj found)
    exact dropPrefix?_eq_some_iff.mp dropped
  | case3 c t absent ih =>
    obtain ⟨⟨earlier, rest⟩, later, parts_eq⟩ := Option.map_eq_some_iff.mp found
    obtain ⟨rfl, rfl⟩ := Prod.mk.inj parts_eq
    rw [ih later]
    rfl

theorem isCut_of_findBytes? {t needle : Text} {start : Nat}
    (found : t.findBytes? needle = some start) :
  t.IsCut start ∧ t.IsCut (start + needle.byteSize)
  := by
  obtain ⟨⟨before, after⟩, split, rfl⟩ := Option.map_eq_some_iff.mp found
  have parts := eq_append_of_splitFirst? split
  refine ⟨⟨before, needle ++ after, ?_, rfl⟩, ⟨before ++ needle, after, parts, ?_⟩⟩
  · rw [parts, List.append_assoc]
  · rw [byteSize_append]

/-- The character after `n` others is behind their bytes, and so is the end of a text of `n`. -/
theorem indices_getElem? (offset n : Nat) (t : Text) :
  ((t.indices offset)[n]?.map (·.1)).getD (offset + t.byteSize) = offset + byteSize (t.take n)
  := by
  induction t generalizing offset n with
  | nil => simp [indices]
  | cons c t ih =>
    cases n with
    | zero => simp [indices]
    | succ n =>
      have later := ih (offset + c.utf8Size) n
      rw [Nat.add_assoc] at later
      rw [indices, List.getElem?_cons_succ, byteSize_cons, later, List.take_succ_cons,
        byteSize_cons, Nat.add_assoc]

/-- The first character outside a class is behind the bytes of those in it. -/
theorem indices_find? (p : Char → Bool) (offset : Nat) (t : Text) :
  (((t.indices offset).find? fun (_, c) => !p c).map (·.1)).getD (offset + t.byteSize)
    = offset + byteSize (t.takeWhile p)
  := by
  induction t generalizing offset with
  | nil => simp [indices]
  | cons c t ih =>
    cases within : p c with
    | false => simp [indices, within]
    | true =>
      have later := ih (offset + c.utf8Size)
      rw [Nat.add_assoc] at later
      rw [indices, List.find?_cons_of_neg (by simp [within]), byteSize_cons, later,
        List.takeWhile_cons_of_pos within, byteSize_cons, Nat.add_assoc]

end Text

open Text

/-! ### Measures -/

namespace Ahead

variable {rest : Text}

theorem characters_eq (n : Nat) (rest : Text) :
  characters n rest = byteSize (rest.take n)
  := by
  have := indices_getElem? 0 n rest
  rwa [Nat.zero_add, Nat.zero_add] at this

/-- A character that comes next is a cut away. -/
theorem isCut_character (wanted : Char) (rest : Text) :
  rest.IsCut (character wanted rest)
  := by
  rw [character]
  split
  · next comes =>
    obtain ⟨rest, rfl⟩ := List.head?_eq_some_iff.mp comes
    exact ⟨[wanted], rest, rfl, rfl⟩
  · apply isCut_zero

theorem isCut_string (needle rest : Text) :
  rest.IsCut (string needle rest)
  := by
  rw [string]
  split
  · next comes => exact .of_isPrefix (startsWith_iff.mp comes.2)
  · apply isCut_zero

/-- A string that comes next in any case is a cut away. -/
theorem isCut_stringIgnoringCase (needle rest : Text) :
  rest.IsCut (stringIgnoringCase needle rest)
  := by
  rw [stringIgnoringCase]
  split
  · next candidate after split_eq =>
    obtain ⟨parts, size_eq⟩ := splitAt?_eq_some_iff.mp split_eq
    split
    · exact ⟨candidate, after, parts, size_eq⟩
    · apply isCut_zero
  · apply isCut_zero

theorem isCut_of_findSpan? {regex : Regex} {found : Span}
    (matched : regex.findSpan? rest = some found) :
  rest.IsCut found.start ∧ rest.IsCut found.stop ∧ found.start ≤ found.stop
  := by
  obtain ⟨m, -, rfl⟩ := Option.map_eq_some_iff.mp matched
  exact ⟨.of_isPrefix (List.take_prefix _ _), .of_isPrefix (List.take_prefix _ _),
    byteSize_le_of_prefix (List.take_prefix_take_left (Nat.le_add_right _ _))⟩

theorem isCut_pattern (regex : Regex) (rest : Text) :
  rest.IsCut (pattern regex rest)
  := by
  rw [pattern]
  split
  · next stop matched => exact (isCut_of_findSpan? matched).2.1
  · apply isCut_zero

/-- What a condition asks for is a cut away when it comes next. -/
theorem isCut_condition (wanted : Condition) (rest : Text) :
  rest.IsCut (condition wanted rest)
  := by
  cases wanted with
  | literal needle => apply isCut_string
  | pattern regex => apply isCut_pattern

/-- What meets a condition starts at a cut and ends at a cut. -/
theorem isCut_of_locate? {wanted : Condition} {start length : Nat}
    (located : locate? rest wanted = some (start, length)) :
  rest.IsCut start ∧ rest.IsCut (start + length)
  := by
  match wanted with
  | .literal [] => simp [locate?] at located
  | .literal (c :: needle) =>
    change (rest.findBytes? (c :: needle)).map (·, byteSize (c :: needle)) = _ at located
    obtain ⟨place, found, parts_eq⟩ := Option.map_eq_some_iff.mp located
    obtain ⟨rfl, rfl⟩ := Prod.mk.inj parts_eq
    exact isCut_of_findBytes? found
  | .pattern regex =>
    rw [locate?] at located
    obtain ⟨found, matched, parts_eq⟩ := Option.map_eq_some_iff.mp located
    obtain ⟨rfl, rfl⟩ := Prod.mk.inj parts_eq
    obtain ⟨first, last, in_order⟩ := isCut_of_findSpan? matched
    rw [Nat.add_sub_of_le in_order]
    exact ⟨first, last⟩

/-- What comes before the first place that meets a condition ends at a cut. -/
theorem isCut_upTo (wanted : Condition) (including : Bool) (rest : Text) :
  rest.IsCut (upTo wanted including rest)
  := by
  rw [upTo]
  split
  · next start length located =>
    obtain ⟨first, last⟩ := isCut_of_locate? located
    split
    · exact last
    · exact first
  · apply isCut_byteSize

/-- The search for a string is the search for the condition that asks for it. -/
theorem upToString_eq_upTo (needle : Text) (including : Bool) :
  upToString needle including = upTo (.literal needle) including
  := by
  funext rest
  cases needle with
  | nil => cases found : rest.findBytes? [] <;> simp [upToString, upTo, locate?, found]
  | cons c needle =>
    cases found : rest.findBytes? (c :: needle) <;> simp [upToString, upTo, locate?, found]

theorem isCut_upToString (needle : Text) (including : Bool) (rest : Text) :
  rest.IsCut (upToString needle including rest)
  := by
  rw [upToString_eq_upTo]
  apply isCut_upTo

/-- The next coarse token is measured by its text. -/
theorem token_eq (rules : TokenRules) (rest : Text) :
  token rules rest = byteSize (rules.splitToken rest).1
  := by
  cases rest with
  | nil => rfl
  | cons c t =>
    simp only [token, indices, TokenRules.splitToken, Nat.zero_add, before, byteSize_cons]
    split
    · rfl
    · split
      · apply indices_find? rules.whitespace.contains
      · have := indices_find?
          (fun d => !(rules.separators.contains d || rules.whitespace.contains d)) c.utf8Size t
        simpa only [Bool.not_not, spanWhile, byteSize_cons] using this

theorem whitespace_eq (rules : TokenRules) (rest : Text) :
  whitespace rules rest = byteSize (rules.splitWhitespace rest).1
  := by
  have := indices_find? rules.whitespace.contains 0 rest
  rwa [Nat.zero_add, Nat.zero_add] at this

/-- A coarse token is a prefix. -/
theorem splitToken_isPrefix (rules : TokenRules) (rest : Text) :
  (rules.splitToken rest).1 <+: rest
  := by
  cases rest with
  | nil => exact List.nil_prefix
  | cons c t =>
    rw [TokenRules.splitToken]
    split
    · exact List.cons_prefix_cons.mpr ⟨rfl, List.nil_prefix⟩
    · split <;> exact List.cons_prefix_cons.mpr ⟨rfl, List.takeWhile_prefix _⟩

theorem isCut_token (rules : TokenRules) (rest : Text) :
  rest.IsCut (token rules rest)
  := by
  rw [token_eq]
  apply IsCut.of_isPrefix (splitToken_isPrefix rules rest)

theorem isCut_whitespace (rules : TokenRules) (rest : Text) :
  rest.IsCut (whitespace rules rest)
  := by
  rw [whitespace_eq]
  apply IsCut.of_isPrefix (List.takeWhile_prefix _)

end Ahead

/-! ### Motions -/

namespace Cursor

variable {b next last back : Cursor} {before ahead taken more after : Text} {n : Nat}

/-- A cursor in a line, with the text before it and the text ahead. -/
structure Stands (b : Cursor) (before ahead : Text) : Prop where
  line_eq : b.line = before ++ ahead
  position_eq : before.byteSize = b.position

/-- A cursor between two characters, or at an end of its line. -/
def OnCut (b : Cursor) : Prop :=
  b.line.IsCut b.position

/-- A cursor between two characters has a text before it and a text ahead. -/
theorem OnCut.exists_stands (onCut : b.OnCut) :
  ∃ before ahead, b.Stands before ahead
  := by
  obtain ⟨before, ahead, line_eq, position_eq⟩ := onCut
  exact ⟨before, ahead, line_eq, position_eq⟩

theorem Stands.onCut (stands : b.Stands before ahead) :
  b.OnCut
  := ⟨before, ahead, stands.line_eq, stands.position_eq⟩

theorem Stands.splitAt?_eq (stands : b.Stands before ahead) :
  b.line.splitAt? b.position = some (before, ahead)
  := splitAt?_eq_some_iff.mpr ⟨stands.line_eq, stands.position_eq⟩

theorem Stands.rest?_eq (stands : b.Stands before ahead) :
  b.rest? = some ahead
  := by
  rw [rest?, stands.splitAt?_eq]
  rfl

/-- What was ahead is before the cursor after a motion over it. -/
theorem Stands.forward (stands : b.Stands before (taken ++ after)) :
  (b.forward taken.byteSize).Stands (before ++ taken) after
  where
  line_eq := by rw [Cursor.forward, stands.line_eq, List.append_assoc]
  position_eq := by rw [Cursor.forward, byteSize_append, stands.position_eq]

/-- A motion over a text that is ahead, to the end of that text and with nothing else changed. -/
structure Passes (b : Cursor) (taken : Text) (next : Cursor) : Prop where
  next_eq : next = b.forward taken.byteSize
  exists_stands : ∃ before after, b.Stands before (taken ++ after)

namespace Passes

theorem nil (onCut : b.OnCut) :
  b.Passes [] b
  where
  next_eq := rfl
  exists_stands := onCut.exists_stands

theorem onCut_start (passes : b.Passes taken next) :
  b.OnCut
  := by
  obtain ⟨-, before, after, stands⟩ := passes
  exact stands.onCut

theorem onCut (passes : b.Passes taken next) :
  next.OnCut
  := by
  obtain ⟨rfl, before, after, stands⟩ := passes
  exact stands.forward.onCut

theorem line_eq (passes : b.Passes taken next) :
  next.line = b.line
  := by
  rw [passes.next_eq, forward]

theorem position_le (passes : b.Passes taken next) :
  b.position ≤ next.position
  := by
  rw [passes.next_eq, forward]
  apply Nat.le_add_right

theorem slice?_eq (passes : b.Passes taken next) :
  b.line.slice? b.position next.position = some taken
  := by
  obtain ⟨rfl, before, after, stands⟩ := passes
  rw [forward, stands.line_eq, ← stands.position_eq, ← byteSize_append, ← List.append_assoc]
  apply slice?_append

/-- Two motions one after the other pass over both texts. -/
theorem trans (first : b.Passes taken next) (second : next.Passes more last) :
  b.Passes (taken ++ more) last
  := by
  obtain ⟨rfl, before, after, stands⟩ := first
  obtain ⟨rfl, before', after', stands'⟩ := second
  have same := stands'.splitAt?_eq.symm.trans stands.forward.splitAt?_eq
  obtain ⟨-, rfl⟩ := Prod.mk.inj (Option.some.inj same)
  refine ⟨?_, before, after', ?_⟩
  · rw [forward, forward, forward, byteSize_append, Nat.add_assoc]
  · rwa [List.append_assoc]

theorem passed?_eq (passes : b.Passes taken next) :
  passed? (some (taken.byteSize, next)) = some (taken, next)
  := by
  have start_eq : next.position - taken.byteSize = b.position := by
    rw [passes.next_eq, forward, Nat.add_sub_cancel]
  simp [passed?, start_eq, passes.line_eq, passes.slice?_eq]

end Passes

/-- What is found of a text ahead by its measure, in all the ways there are. -/
structure Takes (b : Cursor) (measure : Text → Nat) (taken : Text) (next : Cursor) : Prop where
  passes : b.Passes taken next
  pass?_eq : b.pass? measure = some (taken.byteSize, next)
  passed?_eq : passed? (b.pass? measure) = some (taken, next)
  take?_eq : b.take? measure = some (taken, next)
  look?_eq : b.look? measure = some taken

/-- A text that is measured is passed over. -/
theorem Stands.takes {measure : Text → Nat} (stands : b.Stands before (taken ++ after))
    (measured : measure (taken ++ after) = taken.byteSize) :
  b.Takes measure taken (b.forward taken.byteSize)
  := by
  have passes : b.Passes taken (b.forward taken.byteSize) := ⟨rfl, before, after, stands⟩
  have pass?_eq : b.pass? measure = some (taken.byteSize, b.forward taken.byteSize) := by
    rw [pass?, stands.rest?_eq, Option.map_some, measured]
  refine ⟨passes, pass?_eq, ?_, ?_, ?_⟩
  · rw [pass?_eq, passes.passed?_eq]
  · simp [take?, stands.rest?_eq, measured, passes.slice?_eq]
  · rw [look?, stands.rest?_eq]
    simpa [measured] using slice?_append [] taken after

theorem OnCut.exists_takes (onCut : b.OnCut) {measure : Text → Nat}
    (cuts : ∀ rest : Text, rest.IsCut (measure rest)) :
  ∃ taken next, b.Takes measure taken next
  := by
  obtain ⟨before, ahead, stands⟩ := onCut.exists_stands
  obtain ⟨taken, after, rfl, measured⟩ := cuts ahead
  exact ⟨taken, _, stands.takes measured.symm⟩

/-- The next character is passed over, when there is one. -/
theorem OnCut.next?_eq (onCut : b.OnCut) :
  ∃ c next, b.Passes c.toList next ∧ b.next? = some (c, next)
  := by
  obtain ⟨before, ahead, stands⟩ := onCut.exists_stands
  cases ahead with
  | nil => exact ⟨none, b, .nil onCut, by simp [next?, peek?, stands.rest?_eq]⟩
  | cons c after =>
    exact ⟨some c, b.forward c.utf8Size, ⟨rfl, before, after, stands⟩,
      by simp [next?, peek?, stands.rest?_eq]⟩

theorem OnCut.advanceToEnd?_eq (onCut : b.OnCut) :
  ∃ taken next, b.Passes taken next ∧ b.advanceToEnd? = some (taken, next)
  := by
  obtain ⟨before, ahead, stands⟩ := onCut.exists_stands
  refine ⟨ahead, { b with position := b.line.byteSize }, ⟨?_, before, [], ?_⟩, ?_⟩
  · rw [forward, stands.line_eq, byteSize_append, stands.position_eq]
  · rwa [List.append_nil]
  · rw [advanceToEnd?, stands.rest?_eq]
    rfl

/-- All that meets a condition is passed over, one after another. -/
theorem OnCut.behindAll?_eq (onCut : b.OnCut) (wanted : Condition) :
  ∃ taken next, b.Passes taken next ∧ b.behindAll? wanted = some next
  := by
  fun_induction behindAll? b wanted with
  | case1 b atEnd => exact ⟨[], b, .nil onCut, rfl⟩
  | case2 b inside cut =>
    obtain ⟨before, ahead, stands⟩ := onCut.exists_stands
    simp [stands.rest?_eq] at cut
  | case3 b inside rest cut positive ih =>
    obtain ⟨taken, next, takes⟩ := onCut.exists_takes (Ahead.isCut_condition wanted)
    obtain ⟨size_eq, next_eq⟩ : Ahead.condition wanted rest = taken.byteSize
        ∧ b.forward (Ahead.condition wanted rest) = next := by
      have := takes.pass?_eq
      rw [pass?, cut] at this
      exact Prod.mk.inj (Option.some.inj this)
    rw [next_eq] at ih ⊢
    obtain ⟨more, last, passes, rest_eq⟩ := ih takes.passes.onCut
    exact ⟨taken ++ more, last, takes.passes.trans passes, rest_eq⟩
  | case4 b inside rest cut absent => exact ⟨[], b, .nil onCut, rfl⟩

theorem OnCut.advanceWhile?_eq (onCut : b.OnCut) (wanted : Condition) :
  ∃ taken next, b.Passes taken next ∧ b.advanceWhile? wanted = some (taken, next)
  := by
  obtain ⟨taken, next, passes, behind_eq⟩ := onCut.behindAll?_eq wanted
  refine ⟨taken, next, passes, ?_⟩
  simp [advanceWhile?, behind_eq, passes.slice?_eq]

theorem Stands.advance?_eq (stands : b.Stands before ahead) (n : Nat) :
  ∃ next, b.Passes (ahead.take n) next ∧ b.advance? n = some (ahead.take n, next)
  := by
  have split : b.Stands before (ahead.take n ++ ahead.drop n) := by
    rwa [List.take_append_drop]
  have measured : Ahead.characters n (ahead.take n ++ ahead.drop n) = byteSize (ahead.take n) := by
    rw [List.take_append_drop, Ahead.characters_eq]
  have takes := split.takes measured
  exact ⟨_, takes.passes, takes.take?_eq⟩

/-! ### Steps back -/

/-- More steps back than there are characters lead past the start of the line. -/
theorem backFrom?_eq_none {offset : Nat} {earlier : List (Nat × Char)}
    (few : earlier.length < n) :
  backFrom? offset earlier n = none
  := by
  induction earlier generalizing offset n with
  | nil => cases n <;> simp [backFrom?] at few ⊢
  | cons place earlier ih =>
    cases n with
    | zero => simp at few
    | succ n =>
      rw [backFrom?]
      exact ih (Nat.lt_of_succ_lt_succ few)

/-- As many steps back as a text has characters lead from its end to its start. -/
theorem backFrom?_append (before taken : Text) :
  backFrom? (byteSize (before ++ taken)) (indices 0 (before ++ taken)).reverse taken.length
    = some before.byteSize
  := by
  induction taken using List.reverseRecOn with
  | nil => rw [List.append_nil, List.length_nil, backFrom?]
  | append_singleton taken c ih =>
    have indices_eq : indices 0 (before ++ (taken ++ [c]))
        = indices 0 (before ++ taken) ++ [(byteSize (before ++ taken), c)] := by
      rw [← List.append_assoc, indices_append, Nat.zero_add]
      rfl
    rw [indices_eq, List.reverse_append, List.length_append, List.length_singleton]
    exact ih

/-- A motion over a text is undone by as many steps back. -/
theorem Passes.goBack?_eq (passes : back.Passes taken b) :
  b.goBack? taken.length = some (.ok back)
  := by
  obtain ⟨rfl, before, after, stands⟩ := passes
  have splits := stands.forward.splitAt?_eq
  have target : backFrom? (back.forward taken.byteSize).position
      (indices 0 (before ++ taken)).reverse taken.length = some back.position := by
    rw [← stands.forward.position_eq, ← stands.position_eq]
    apply backFrom?_append
  rw [goBack?, splits, Option.map_some]
  simp only [target]
  rfl

theorem Stands.goBack?_eq_error (stands : b.Stands before ahead) (few : before.length < n) :
  b.goBack? n = some (.error (.goBackPastStart n b.position))
  := by
  have past : backFrom? b.position (indices 0 before).reverse n = none := by
    apply backFrom?_eq_none
    rwa [List.length_reverse, length_indices]
  rw [goBack?, stands.splitAt?_eq, Option.map_some]
  simp only [past]

/-- Enough characters before a cursor are passed over from some place on. -/
theorem Stands.exists_passes (stands : b.Stands before ahead) (enough : n ≤ before.length) :
  ∃ (taken : Text) (back : Cursor), taken.length = n ∧ back.Passes taken b
  := by
  let kept := before.take (before.length - n)
  let taken := before.drop (before.length - n)
  have parts : kept ++ taken = before := List.take_append_drop _ _
  have taken_length : taken.length = n := by
    rw [List.length_drop]
    omega
  refine ⟨taken, { b with position := byteSize kept }, taken_length, ?_, kept, ahead, ?_⟩
  · rw [Cursor.forward, ← byteSize_append, parts, stands.position_eq]
  · exact ⟨by rw [stands.line_eq, ← parts, List.append_assoc], rfl⟩

theorem Passes.advance?_eq (passes : b.Passes taken next) :
  b.advance? taken.length = some (taken, next)
  := by
  obtain ⟨next_eq, before, after, stands⟩ := passes
  obtain ⟨reached, again, advance?_eq⟩ := stands.advance?_eq taken.length
  rw [List.take_left] at again advance?_eq
  rw [advance?_eq, again.next_eq, next_eq]

/-! ### Operations -/

/-- Whether an operation goes forward. -/
def Operation.advances : Operation → Bool
  | .line | .position | .atEnd | .rest | .peek | .goBack _ | .setRules .. | .peekToken
  | .peekWhitespace => false
  | _ => true

/-- Whether an operation only looks. -/
def Operation.peeks : Operation → Bool
  | .line | .position | .atEnd | .rest | .peek | .peekToken | .peekWhitespace => true
  | _ => false

/-- The form of an operation that tells the number of bytes of the text it passed over. -/
def Operation.lengthForm? : Operation → Option Operation
  | .ifChar wanted => some (.ifCharLength wanted)
  | .ifString needle => some (.ifStringLength needle)
  | .ifStringIgnoringCase needle => some (.ifStringIgnoringCaseLength needle)
  | .ifMatch regex => some (.ifMatchLength regex)
  | .untilString needle including => some (.untilStringLength needle including)
  | .skipWhitespace => some .skipWhitespaceLength
  | _ => none

/-- What a reply tells of a text that was passed over. -/
def Reply.Tells (taken : Text) : Reply → Prop
  | .text told => told = taken
  | .length told => told = taken.byteSize
  | .char told => told.toList = taken
  | .answer _ | .done | .failed _ => False

/-- A text is passed over, and the reply tells of it. -/
def Advances (b : Cursor) (outcome : Option (Reply × Cursor)) : Prop :=
  ∃ taken reply next, b.Passes taken next ∧ reply.Tells taken ∧ outcome = some (reply, next)

variable {operation form : Operation} {measure : Text → Nat}

theorem Passes.advances_text {motion : Option (Text × Cursor)} (passes : b.Passes taken next)
    (motion_eq : motion = some (taken, next)) :
  b.Advances (motion.map (Prod.map .text id))
  := ⟨taken, .text taken, next, passes, rfl, by rw [motion_eq]; rfl⟩

theorem OnCut.advances_take? (onCut : b.OnCut) (cuts : ∀ rest : Text, rest.IsCut (measure rest)) :
  b.Advances ((b.take? measure).map (Prod.map .text id))
  := by
  obtain ⟨taken, next, takes⟩ := onCut.exists_takes cuts
  exact takes.passes.advances_text takes.take?_eq

/-- A motion by a measure, whose text is cut out behind it, tells of that text. -/
theorem OnCut.advances_passed? (onCut : b.OnCut)
    (cuts : ∀ rest : Text, rest.IsCut (measure rest)) :
  b.Advances ((passed? (b.pass? measure)).map (Prod.map .text id))
  := by
  obtain ⟨taken, next, takes⟩ := onCut.exists_takes cuts
  exact takes.passes.advances_text takes.passed?_eq

theorem OnCut.advances_pass? (onCut : b.OnCut) (cuts : ∀ rest : Text, rest.IsCut (measure rest)) :
  b.Advances ((b.pass? measure).map (Prod.map .length id))
  := by
  obtain ⟨taken, next, takes⟩ := onCut.exists_takes cuts
  exact ⟨taken, .length taken.byteSize, next, takes.passes, rfl, by rw [takes.pass?_eq]; rfl⟩

/-- An operation that goes forward passes over a text, and its reply tells of it. -/
theorem OnCut.advances_perform? (onCut : b.OnCut) (advances : operation.advances = true) :
  b.Advances (b.perform? operation)
  := by
  cases operation with
  | next =>
    obtain ⟨c, next, passes, next?_eq⟩ := onCut.next?_eq
    refine ⟨c.toList, .char c, next, passes, rfl, ?_⟩
    change b.next?.map _ = _
    rw [next?_eq]
    rfl
  | advance n =>
    obtain ⟨before, ahead, stands⟩ := onCut.exists_stands
    obtain ⟨next, passes, advance?_eq⟩ := stands.advance?_eq n
    exact passes.advances_text advance?_eq
  | advanceToEnd =>
    obtain ⟨taken, next, passes, advanceToEnd?_eq⟩ := onCut.advanceToEnd?_eq
    exact passes.advances_text advanceToEnd?_eq
  | ifChar wanted => exact onCut.advances_passed? (Ahead.isCut_character wanted)
  | ifCharLength wanted => exact onCut.advances_pass? (Ahead.isCut_character wanted)
  | ifString needle => exact onCut.advances_passed? (Ahead.isCut_string needle)
  | ifStringLength needle => exact onCut.advances_pass? (Ahead.isCut_string needle)
  | ifStringIgnoringCase needle =>
    exact onCut.advances_passed? (Ahead.isCut_stringIgnoringCase needle)
  | ifStringIgnoringCaseLength needle =>
    exact onCut.advances_pass? (Ahead.isCut_stringIgnoringCase needle)
  | ifMatch regex => exact onCut.advances_passed? (Ahead.isCut_pattern regex)
  | ifMatchLength regex => exact onCut.advances_pass? (Ahead.isCut_pattern regex)
  | whileMet wanted =>
    obtain ⟨taken, next, passes, advanceWhile?_eq⟩ := onCut.advanceWhile?_eq wanted
    exact passes.advances_text advanceWhile?_eq
  | untilMet wanted including => exact onCut.advances_take? (Ahead.isCut_upTo wanted including)
  | untilString needle including =>
    exact onCut.advances_passed? (Ahead.isCut_upToString needle including)
  | untilStringLength needle including =>
    exact onCut.advances_pass? (Ahead.isCut_upToString needle including)
  | nextToken => exact onCut.advances_take? (Ahead.isCut_token b.rules)
  | skipWhitespace => exact onCut.advances_take? (Ahead.isCut_whitespace b.rules)
  | skipWhitespaceLength => exact onCut.advances_pass? (Ahead.isCut_whitespace b.rules)
  | _ => simp [Operation.advances] at advances

theorem OnCut.lengthForm_pass? (onCut : b.OnCut)
    (cuts : ∀ rest : Text, rest.IsCut (measure rest)) :
  ∃ taken next, (passed? (b.pass? measure)).map (Prod.map .text id) = some (Reply.text taken, next)
    ∧ (b.pass? measure).map (Prod.map .length id) = some (Reply.length taken.byteSize, next)
  := by
  obtain ⟨taken, next, takes⟩ := onCut.exists_takes cuts
  exact ⟨taken, next, by rw [takes.passed?_eq]; rfl, by rw [takes.pass?_eq]; rfl⟩

/-- The two forms of an operation move alike, and the one tells the bytes of the other's text. -/
theorem OnCut.lengthForm_perform? (onCut : b.OnCut) (twin : operation.lengthForm? = some form) :
  ∃ taken next, b.perform? operation = some (.text taken, next)
    ∧ b.perform? form = some (.length taken.byteSize, next)
  := by
  cases operation with
  | ifChar wanted =>
    obtain rfl := Option.some.inj twin
    exact onCut.lengthForm_pass? (Ahead.isCut_character wanted)
  | ifString needle =>
    obtain rfl := Option.some.inj twin
    exact onCut.lengthForm_pass? (Ahead.isCut_string needle)
  | ifStringIgnoringCase needle =>
    obtain rfl := Option.some.inj twin
    exact onCut.lengthForm_pass? (Ahead.isCut_stringIgnoringCase needle)
  | ifMatch regex =>
    obtain rfl := Option.some.inj twin
    exact onCut.lengthForm_pass? (Ahead.isCut_pattern regex)
  | untilString needle including =>
    obtain rfl := Option.some.inj twin
    exact onCut.lengthForm_pass? (Ahead.isCut_upToString needle including)
  | skipWhitespace =>
    obtain rfl := Option.some.inj twin
    obtain ⟨taken, next, takes⟩ := onCut.exists_takes (Ahead.isCut_whitespace b.rules)
    refine ⟨taken, next, ?_, ?_⟩
    · change b.skipWhitespace?.map _ = _
      rw [skipWhitespace?, takes.take?_eq]
      rfl
    · change b.skipWhitespaceLength?.map _ = _
      rw [skipWhitespaceLength?, takes.pass?_eq]
      rfl
  | _ => simp [Operation.lengthForm?] at twin

/-- The search for a string is the search for the condition that asks for it. -/
theorem OnCut.untilString_perform? (onCut : b.OnCut) (needle : Text) (including : Bool) :
  b.perform? (.untilString needle including) = b.perform? (.untilMet (.literal needle) including)
  := by
  obtain ⟨taken, next, takes⟩ := onCut.exists_takes (Ahead.isCut_upToString needle including)
  have passed?_eq := takes.passed?_eq
  have take?_eq := takes.take?_eq
  rw [Ahead.upToString_eq_upTo] at take?_eq
  change (b.advanceUntilString? needle including).map _
    = (b.advanceUntil? (.literal needle) including).map _
  rw [advanceUntilString?, advanceUntilStringLength?, passed?_eq, advanceUntil?, take?_eq]

/-- An operation that only looks leaves the cursor as it is. -/
theorem OnCut.peeks_perform? (onCut : b.OnCut) (peeks : operation.peeks = true) :
  ∃ reply, b.perform? operation = some (reply, b)
  := by
  obtain ⟨before, ahead, stands⟩ := onCut.exists_stands
  cases operation with
  | line => exact ⟨_, rfl⟩
  | position => exact ⟨_, rfl⟩
  | atEnd => exact ⟨_, rfl⟩
  | rest =>
    use .text ahead
    change b.rest?.map _ = _
    rw [stands.rest?_eq]
    rfl
  | peek =>
    use .char ahead.head?
    change b.peek?.map _ = _
    rw [peek?, stands.rest?_eq]
    rfl
  | peekToken =>
    obtain ⟨taken, next, takes⟩ := onCut.exists_takes (Ahead.isCut_token b.rules)
    use .text taken
    change b.peekToken?.map _ = _
    rw [peekToken?, takes.look?_eq]
    rfl
  | peekWhitespace =>
    obtain ⟨taken, next, takes⟩ := onCut.exists_takes (Ahead.isCut_whitespace b.rules)
    use .text taken
    change b.peekWhitespace?.map _ = _
    rw [peekWhitespace?, takes.look?_eq]
    rfl
  | _ => simp [Operation.peeks] at peeks

/-- Steps back pass over as many characters, which as many steps ahead pass over again. -/
theorem Passes.goBack_perform? (passes : back.Passes taken b) :
  b.perform? (.goBack taken.length) = some (.done, back)
    ∧ back.perform? (.advance taken.length) = some (.text taken, b)
  := by
  constructor
  · change (b.goBack? taken.length).map _ = _
    rw [passes.goBack?_eq]
    rfl
  · change (back.advance? taken.length).map _ = _
    rw [passes.advance?_eq]
    rfl

/-- Steps back past the start of the line fail, and leave the cursor as it is. -/
theorem Stands.goBack_perform? (stands : b.Stands before ahead) (few : before.length < n) :
  b.perform? (.goBack n) = some (.failed (.goBackPastStart n b.position), b)
  := by
  change (b.goBack? n).map _ = _
  rw [stands.goBack?_eq_error few]
  rfl

/-- As many steps back as an operation has passed over characters undo it. -/
theorem OnCut.undo_perform? (onCut : b.OnCut) (advances : operation.advances = true)
    (performed : b.perform? operation = some (.text taken, next)) :
  next.perform? (.goBack taken.length) = some (.done, b)
  := by
  obtain ⟨taken', reply, next', passes, tells, performed'⟩ := onCut.advances_perform? advances
  obtain ⟨rfl, rfl⟩ := Prod.mk.inj (Option.some.inj (performed.symm.trans performed'))
  obtain rfl : taken = taken' := tells
  exact passes.goBack_perform?.1

/-- What holds between a cursor and those who ask for operations on it. -/
structure Contract (b : Cursor) : Prop where
  /-- The cursor is between two characters, from the start of its line to the end. -/
  boundary : b.line.IsCut b.position ∧ b.position ≤ b.line.byteSize
  /-- A motion ahead does not go back, and tells of the text between the two places. -/
  advancing : ∀ operation : Operation, operation.advances = true →
    ∃ reply next taken, b.perform? operation = some (reply, next) ∧ next.line = b.line
      ∧ b.position ≤ next.position ∧ b.line.slice? b.position next.position = some taken
      ∧ reply.Tells taken
  /-- The form of a motion that tells a number moves alike, and tells the bytes of the text. -/
  lengths : ∀ operation form : Operation, operation.lengthForm? = some form →
    ∃ taken next, b.perform? operation = some (.text taken, next)
      ∧ b.perform? form = some (.length taken.byteSize, next)
  /-- The search for a string is the search for the condition that asks for it. -/
  literals : ∀ needle including, b.perform? (.untilString needle including)
    = b.perform? (.untilMet (.literal needle) including)
  /--
  Steps back pass over as many characters, which as many steps ahead pass over again; or there
  are fewer characters before the cursor, and it stays where it is.
  -/
  steppingBack : ∀ n, (∃ back taken, b.perform? (.goBack n) = some (.done, back)
      ∧ back.line = b.line ∧ back.position ≤ b.position
      ∧ b.line.slice? back.position b.position = some taken ∧ taken.length = n
      ∧ back.perform? (.advance n) = some (.text taken, b))
    ∨ (∃ before, b.line.slice? 0 b.position = some before ∧ before.length < n
      ∧ b.perform? (.goBack n) = some (.failed (.goBackPastStart n b.position), b))
  /-- As many steps back as a motion has passed over characters undo it. -/
  undoing : ∀ operation taken next, operation.advances = true →
    b.perform? operation = some (.text taken, next) →
    next.perform? (.goBack taken.length) = some (.done, b)
  /-- Looking changes nothing. -/
  peeking : ∀ operation : Operation, operation.peeks = true →
    ∃ reply, b.perform? operation = some (reply, b)

/-- The contract holds wherever a cursor is between two characters. -/
theorem OnCut.contract (onCut : b.OnCut) :
  b.Contract
  where
  boundary := ⟨onCut, IsCut.le_byteSize onCut⟩
  advancing operation advances := by
    obtain ⟨taken, reply, next, passes, tells, performed⟩ := onCut.advances_perform? advances
    exact ⟨reply, next, taken, performed, passes.line_eq, passes.position_le, passes.slice?_eq,
      tells⟩
  lengths operation form twin := onCut.lengthForm_perform? twin
  literals := onCut.untilString_perform?
  steppingBack n := by
    obtain ⟨before, ahead, stands⟩ := onCut.exists_stands
    rcases Nat.lt_or_ge before.length n with few | enough
    · refine .inr ⟨before, ?_, few, stands.goBack_perform? few⟩
      rw [stands.line_eq, ← stands.position_eq]
      exact slice?_append [] before ahead
    · obtain ⟨taken, back, rfl, passes⟩ := stands.exists_passes enough
      obtain ⟨stepped, again⟩ := passes.goBack_perform?
      exact .inl ⟨back, taken, stepped, passes.line_eq.symm, passes.position_le,
        passes.line_eq ▸ passes.slice?_eq, rfl, again⟩
  undoing operation taken next advances performed := onCut.undo_perform? advances performed
  peeking operation peeks := onCut.peeks_perform? peeks

/-- An operation succeeds, stays in the line, and leaves the cursor between two characters. -/
theorem OnCut.perform? (onCut : b.OnCut) (operation : Operation) :
  ∃ reply next, b.perform? operation = some (reply, next) ∧ next.line = b.line ∧ next.OnCut
  := by
  by_cases advances : operation.advances = true
  · obtain ⟨taken, reply, next, passes, -, performed⟩ := onCut.advances_perform? advances
    exact ⟨reply, next, performed, passes.line_eq, passes.onCut⟩
  by_cases peeks : operation.peeks = true
  · obtain ⟨reply, performed⟩ := onCut.peeks_perform? peeks
    exact ⟨reply, b, performed, rfl, onCut⟩
  cases operation with
  | goBack n =>
    obtain ⟨before, ahead, stands⟩ := onCut.exists_stands
    rcases Nat.lt_or_ge before.length n with few | enough
    · exact ⟨_, b, stands.goBack_perform? few, rfl, onCut⟩
    · obtain ⟨taken, back, rfl, passes⟩ := stands.exists_passes enough
      exact ⟨.done, back, passes.goBack_perform?.1, passes.line_eq.symm, passes.onCut_start⟩
  | setRules separators whitespace => exact ⟨.done, _, rfl, rfl, onCut⟩
  | _ => simp [Operation.advances, Operation.peeks] at advances peeks

/-- Operations one after another succeed and leave the cursor between two characters. -/
theorem OnCut.run? (onCut : b.OnCut) (operations : List Operation) :
  ∃ replies last, b.run? operations = some (replies, last) ∧ last.line = b.line ∧ last.OnCut
  := by
  induction operations generalizing b with
  | nil => exact ⟨[], b, rfl, rfl, onCut⟩
  | cons operation operations ih =>
    obtain ⟨reply, next, performed, line_eq, still⟩ := onCut.perform? operation
    obtain ⟨replies, last, ran, last_line_eq, onCut_last⟩ := ih still
    refine ⟨reply :: replies, last, ?_, last_line_eq.trans line_eq, onCut_last⟩
    simp [Cursor.run?, performed, ran]

/--
Whatever operations are made on a cursor that starts at the start of a line, none of them fails to
cut the line, and the contract holds after them: the cursor is between two characters, motions
ahead tell of the text that they pass over, the two forms of a motion agree, steps back undo steps
ahead or leave the cursor as it is, and looking changes nothing.
-/
theorem run_contract (line : Text) (operations : List Operation) :
  ∃ replies b, ({ line } : Cursor).run? operations = some (replies, b) ∧ b.line = line
    ∧ b.Contract
  := by
  have starts : ({ line } : Cursor).OnCut := isCut_zero line
  obtain ⟨replies, b, ran, line_eq, onCut⟩ := starts.run? operations
  exact ⟨replies, b, ran, line_eq, onCut.contract⟩

/-- Steps over characters of several bytes, one of them too far back. -/
example :
  (({ line := ['é', '🎈', 'a'] } : Cursor).run?
      [.advance 9, .goBack 2, .goBack 2, .untilStringLength ['a'] false]).map
    (fun (replies, b) => (replies, b.position))
    = some ([.text ['é', '🎈', 'a'], .done, .failed (.goBackPastStart 2 2), .length 4], 6)
  := rfl

end Cursor

end EditorModes
