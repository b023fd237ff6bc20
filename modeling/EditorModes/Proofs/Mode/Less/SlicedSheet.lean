import EditorModes.Proofs.Mode.Less.Stylesheet
import EditorModes.Proofs.Text.Bytes

/-!
# Stylesheets by byte offsets

What is known of a stylesheet may be found by byte offsets into its mask: the mask is cut before and
behind each variable and behind the colon of each declaration, and the statement before each opening
brace is cut out between the place where it starts and the brace.  Offsets are counted byte by byte,
so a cut could fall inside a character.  None does, and the same is found
(`Less.slicedSheet?_eq`).
-/

namespace EditorModes.Less

variable {masked before after : Text} {c : Char} {s : BlockScan}

/-! ### Variables -/

/-- The span of the value that is declared behind a variable between two byte offsets. -/
def slicedValue? (masked : Text) (span : Span) : Option (Option Span) := do
  let (_, behind) ← masked.splitAt? span.stop
  let (before, _) ← masked.splitAt? span.start
  if before.trimEnd.getLast?.all isStatementEnd ∧ behind.trimStart.head? = some ':' then
    let start := masked.byteSize - behind.trimStart.byteSize + 1
    let (_, value) ← masked.splitAt? start
    return some ⟨start, start + Text.byteSize (value.takeWhile fun c => !isStatementEnd c)⟩
  else return none

/-- The last character that is not white space is the last one without white space at the end. -/
theorem getLast?_trimEnd (t : Text) :
  t.trimEnd.getLast? = lastMark t
  := by
  rw [Text.trimEnd, Text.trimEndBy, List.getLast?_reverse]
  rfl

theorem exists_trimStart (t : Text) :
  ∃ gap : Text, t = gap ++ t.trimStart
  := ⟨t.takeWhile Property.isSpace, List.takeWhile_append_dropWhile.symm⟩

/-- A value is cut out behind the colon of its declaration. -/
theorem slicedValue?_append (before name behind : Text) :
  slicedValue? (before ++ name ++ behind) ⟨before.byteSize, (before ++ name).byteSize⟩
    = some (if (lastMark before).all isStatementEnd then
        declaredValue? (before ++ name).byteSize behind
      else none)
  := by
  have first : (before ++ name ++ behind).splitAt? before.byteSize
      = some (before, name ++ behind) := by
    rw [List.append_assoc, Text.splitAt?_append]
  rw [slicedValue?, declaredValue?, first, Text.splitAt?_append]
  simp only [Option.bind_eq_bind, Option.bind_some, getLast?_trimEnd]
  by_cases opens : (lastMark before).all isStatementEnd = true
  · rw [if_pos opens]
    obtain ⟨gap, behind_eq⟩ := exists_trimStart behind
    cases trimmed : behind.trimStart with
    | nil => simp
    | cons c rest =>
      by_cases colon : c = ':'
      · subst colon
        rw [trimmed] at behind_eq
        have start_eq : (before ++ name ++ behind).byteSize - Text.byteSize (':' :: rest) + 1
            = (before ++ name ++ gap ++ [':']).byteSize := by
          have : ':'.utf8Size = 1 := rfl
          simp [behind_eq, this]
          omega
        have size_eq : (before ++ name).byteSize + (behind.byteSize - Text.byteSize rest)
            = (before ++ name ++ gap ++ [':']).byteSize := by
          simp [behind_eq]
          omega
        have parts : before ++ name ++ behind = before ++ name ++ gap ++ [':'] ++ rest := by
          simp [behind_eq]
        rw [if_pos ⟨opens, rfl⟩, start_eq, parts, Text.splitAt?_append, ← size_eq]
        rfl
      · simp [colon]
  · simp [opens]

/-- The value of each variable is found by cuts of the masked stylesheet. -/
theorem slicedValue?_eq {use : VariableUse} (used : use ∈ variableUses masked) :
  slicedValue? masked use.span = some use.value
  := by
  obtain ⟨before, rest, rfl, read⟩ := exists_variableAt?_of_mem used
  obtain ⟨-, span_eq, value_eq⟩ := eq_of_variableAt? read
  have parts : nameAt rest ++ rest.drop (nameAt rest).length = rest :=
    List.prefix_iff_eq_append.mp (nameAt_spec rest).1
  have stop_eq : before.byteSize + 1 + (nameAt rest).byteSize
      = (before ++ '@' :: nameAt rest).byteSize := by
    rw [Text.byteSize_append, Text.byteSize_cons, Nat.add_assoc]
    rfl
  have masked_eq : before ++ '@' :: rest
      = before ++ '@' :: nameAt rest ++ rest.drop (nameAt rest).length := by
    simp [parts]
  rw [span_eq, value_eq, stop_eq, masked_eq, slicedValue?_append]

/-! ### Blocks -/

/-- The block that opens behind a statement that was cut out from a byte offset up to its brace. -/
def OpenBlock.ofSlice (raw : Text) (start brace : Nat) : OpenBlock :=
  let first := start + (raw.byteSize - raw.trimStart.byteSize)
  { OpenBlock.ofStatement raw brace with selection := ⟨first, first + raw.trim.byteSize⟩ }

/-- Where the next statement starts, and what was found, when one more byte was read. -/
def BlockScan.readByte? (masked : Text) (start i : Nat) (s : BlockScan) (b : UInt8) :
    Option (Nat × BlockScan) :=
  if b = byteOf '\x7b' then
    (masked.slice? start i).map fun raw =>
      (i + 1, { s with opened := .ofSlice raw start i :: s.opened })
  else if b = byteOf '\x7d' then
    match s.opened with
    | [] => some (i + 1, { s with unexpected := s.unexpected ++ [i] })
    | block :: outer => some (i + 1, s.closeBlock block outer (i + 1))
  else if b = byteOf ';' then some (i + 1, s)
  else some (start, s)

/-- What was found when some bytes were read. -/
def BlockScan.readBytes? (masked : Text) (start i : Nat) (s : BlockScan) :
    List UInt8 → Option BlockScan
  | [] => some s
  | b :: bytes => do
    let (start, s) ← s.readByte? masked start i b
    readBytes? masked start (i + 1) s bytes

/-- What was found, without the statement that goes on. -/
def BlockScan.cleared (s : BlockScan) : BlockScan :=
  { s with statement := [] }

/-- A block is the same whether its name is measured from its start or from its brace. -/
theorem OpenBlock.ofSlice_eq (prior statement : Text) :
  ofSlice statement prior.byteSize (prior ++ statement).byteSize
    = ofStatement statement (prior ++ statement).byteSize
  := by
  obtain ⟨gap, parts⟩ := exists_trimStart statement
  have trimmed_le : statement.trimStart.byteSize ≤ statement.byteSize := by
    conv_rhs => rw [parts]
    rw [Text.byteSize_append]
    apply Nat.le_add_left
  have first_eq : prior.byteSize + (statement.byteSize - statement.trimStart.byteSize)
      = (prior ++ statement).byteSize - statement.trimStart.byteSize := by
    rw [Text.byteSize_append]
    omega
  rw [ofSlice, first_eq]
  rfl

namespace BlockScan

variable {prior : Text} {bytes part : List UInt8}

/-- Bytes that end no statement are passed. -/
theorem readBytes?_pass (start i : Nat)
    (others : ∀ b ∈ part, b ≠ byteOf '\x7b' ∧ b ≠ byteOf '\x7d' ∧ b ≠ byteOf ';') :
  s.readBytes? masked start i (part ++ bytes)
    = s.readBytes? masked start (i + part.length) bytes
  := by
  induction part generalizing i with
  | nil => rfl
  | cons b part ih =>
    obtain ⟨no_opening, no_closing, no_semicolon⟩ := others b List.mem_cons_self
    have step : s.readByte? masked start i b = some (start, s) := by
      rw [readByte?, if_neg no_opening, if_neg no_closing, if_neg no_semicolon]
    rw [List.cons_append, readBytes?, step]
    have rest := ih (i + 1) fun b among => others b (List.mem_cons_of_mem _ among)
    rw [List.length_cons, Nat.add_comm part.length, ← Nat.add_assoc, ← rest]
    rfl

/-- A rule that is complete is added with or without a statement that goes on. -/
theorem cleared_closeBlock (s : BlockScan) (block : OpenBlock) (outer : List OpenBlock)
    (stop : Nat) :
  (s.cleared.closeBlock block outer stop).cleared = s.cleared.closeBlock block outer stop
  := by
  have none_left : (s.cleared.closeBlock block outer stop).statement = [] := statement_addRule _ _
  rw [cleared, ← none_left]

/-- The byte of a character that ends a statement is read as the character is. -/
theorem readByte?_ending (ends : isStatementEnd c = true)
    (masked_eq : masked = prior ++ s.statement ++ c :: after) :
  s.cleared.readByte? masked prior.byteSize (prior ++ s.statement).byteSize (byteOf c)
    = some ((prior ++ s.statement).byteSize + 1,
        (s.read (prior ++ s.statement).byteSize c).cleared)
    ∧ (s.read (prior ++ s.statement).byteSize c).statement = []
  := by
  have cut : masked.slice? prior.byteSize (prior ++ s.statement).byteSize = some s.statement := by
    rw [masked_eq, Text.slice?_append]
  simp only [isStatementEnd, Bool.or_eq_true, decide_eq_true_eq] at ends
  rcases ends with (rfl | rfl) | rfl
  · rw [readByte?, if_pos rfl, cut, Option.map_some, OpenBlock.ofSlice_eq, read, if_pos rfl]
    exact ⟨rfl, rfl⟩
  · rw [readByte?, if_neg (by decide), if_pos rfl, read, if_neg (by decide), if_pos rfl]
    cases opened_eq : s.opened with
    | nil => simp [cleared, opened_eq]
    | cons block outer =>
      have cleared_eq := cleared_closeBlock s block outer ((prior ++ s.statement).byteSize + 1)
      have none_left : (s.cleared.closeBlock block outer
          ((prior ++ s.statement).byteSize + 1)).statement = [] := statement_addRule _ _
      refine ⟨?_, none_left⟩
      have same : s.cleared.opened = block :: outer := opened_eq
      rw [same]
      exact congrArg (fun found => some (_, found)) cleared_eq.symm
  · rw [readByte?, if_neg (by decide), if_neg (by decide), if_pos rfl, read, if_neg (by decide),
      if_neg (by decide), if_pos rfl]
    exact ⟨rfl, rfl⟩

/-- The bytes of a character are read as the character is. -/
theorem readBytes?_char (masked_eq : masked = prior ++ s.statement ++ c :: after)
    (bytes : List UInt8) :
  ∃ prior' : Text, prior ++ s.statement ++ [c]
      = prior' ++ (s.read (prior ++ s.statement).byteSize c).statement
    ∧ s.cleared.readBytes? masked prior.byteSize (prior ++ s.statement).byteSize
        (String.utf8EncodeChar c ++ bytes)
      = (s.read (prior ++ s.statement).byteSize c).cleared.readBytes? masked prior'.byteSize
        (prior ++ s.statement ++ [c]).byteSize bytes
  := by
  by_cases ends : isStatementEnd c = true
  · have short := utf8Size_of_isStatementEnd ends
    obtain ⟨step, none_left⟩ := readByte?_ending ends masked_eq
    have stop_eq : (prior ++ s.statement ++ [c]).byteSize
        = (prior ++ s.statement).byteSize + 1 := by
      rw [Text.byteSize_append, Text.byteSize_cons, short]
      rfl
    refine ⟨prior ++ s.statement ++ [c], by rw [none_left, List.append_nil], ?_⟩
    rw [Text.utf8EncodeChar_of_ascii short, List.singleton_append, readBytes?, step, stop_eq]
    rfl
  · have others : ∀ mark ∈ ['\x7b', '\x7d', ';'], c ≠ mark := by
      simpa [isStatementEnd, and_assoc] using ends
    have read_eq : s.read (prior ++ s.statement).byteSize c
        = { s with statement := s.statement ++ [c] } := by
      rw [read, if_neg (others _ (by simp)), if_neg (others _ (by simp)),
        if_neg (others _ (by simp))]
    have no_byte : ∀ b ∈ String.utf8EncodeChar c,
        b ≠ byteOf '\x7b' ∧ b ≠ byteOf '\x7d' ∧ b ≠ byteOf ';' :=
      fun b among => ⟨Text.ne_byteOf_of_mem rfl (others '\x7b' (by simp)) among,
        Text.ne_byteOf_of_mem rfl (others '\x7d' (by simp)) among,
        Text.ne_byteOf_of_mem rfl (others ';' (by simp)) among⟩
    refine ⟨prior, by rw [read_eq, List.append_assoc], ?_⟩
    rw [readBytes?_pass _ _ no_byte, read_eq, String.length_utf8EncodeChar,
      Text.byteSize_append (prior ++ s.statement) [c]]
    rfl

/-- The bytes of a text are read as the text is. -/
theorem readBytes?_readAll (t : Text) (masked_eq : masked = prior ++ s.statement ++ t) :
  s.cleared.readBytes? masked prior.byteSize (prior ++ s.statement).byteSize (Text.bytes t)
    = some (s.readAll (prior ++ s.statement).byteSize t).cleared
  := by
  induction t generalizing prior s with
  | nil => rfl
  | cons c t ih =>
    obtain ⟨prior', parts, step⟩ := readBytes?_char masked_eq (Text.bytes t)
    have further : masked
        = prior' ++ (s.read (prior ++ s.statement).byteSize c).statement ++ t := by
      rw [← parts, masked_eq]
      simp
    have behind := ih further
    rw [← parts] at behind
    rw [Text.bytes_cons, step, behind, readAll, Text.byteSize_append (prior ++ s.statement) [c]]
    rfl

theorem readBytes?_ofMasked (masked : Text) :
  readBytes? masked 0 0 {} masked.bytes = some (ofMasked masked).cleared
  := by
  have whole : masked = [] ++ ({} : BlockScan).statement ++ masked := rfl
  exact readBytes?_readAll masked whole

end BlockScan

/-! ### The stylesheet -/

/-- What is known of a stylesheet, found by byte offsets. -/
def slicedSheet? (text : Text) : Option Stylesheet := do
  let masked := mask text
  let occurrences ← (variableUses masked).mapM fun use => do
    let value ← slicedValue? masked use.span
    Stylesheet.occurrence? text { use with value := value }
  let scan ← BlockScan.readBytes? masked 0 0 {} masked.bytes
  let rules := scan.rules ++ BlockScan.closeAll masked.byteSize [] scan.opened
  let found := scan.unexpected.map (⟨·, .unexpected⟩) ++ scan.opened.map (⟨·.brace, .missing⟩)
  return ⟨occurrences, rules, found.mergeSort fun a b : LoneBrace => a.offset ≤ b.offset⟩

/-- What is known of a stylesheet is what is found by byte offsets, which are all cuts. -/
theorem slicedSheet?_eq (text : Text) :
  slicedSheet? text = Stylesheet.ofText? text
  := by
  have occurrences_eq : (variableUses (mask text)).mapM (fun use => do
      let value ← slicedValue? (mask text) use.span
      Stylesheet.occurrence? text { use with value := value })
        = (variableUses (mask text)).mapM (Stylesheet.occurrence? text) := by
    apply mapM_congr
    intro use used
    rw [slicedValue?_eq used]
    rfl
  rw [slicedSheet?, occurrences_eq, BlockScan.readBytes?_ofMasked]
  rfl

end EditorModes.Less
