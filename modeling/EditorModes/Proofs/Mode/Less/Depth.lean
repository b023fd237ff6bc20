import EditorModes.Proofs.Mode.Less.Indentation
import EditorModes.Proofs.Mode.Less.Slicing

/-!
# The depth of blocks

Indentation and completions count braces, where closing braces without a partner count as well,
while reading the blocks of a stylesheet leaves these aside.  What they count is therefore the
number of open blocks less that of the closing braces without a partner
(`Less.braceBalance_ofMasked`).  It is the number of open blocks at every place exactly when no
block opens behind a closing brace without a partner (`Less.byDepth_iff`).
-/

namespace EditorModes.Less

open Text

variable {text t part rest masked before piece typed unit : Text} {offset n : Nat}
  {region next : Region} {scan : BlockScan} {depth : BlockScan → Nat} {s : Suggestion}

/-! ### Reading to a place -/

namespace BlockScan

theorem readAll_append (scan : BlockScan) (offset : Nat) (s t : Text) :
  scan.readAll offset (s ++ t) = (scan.readAll offset s).readAll (offset + s.byteSize) t
  := by
  induction s generalizing scan offset with
  | nil => rfl
  | cons c s ih => rw [List.cons_append, readAll, ih, readAll, byteSize_cons, Nat.add_assoc]

theorem ofMasked_append_singleton (t : Text) (c : Char) :
  ofMasked (t ++ [c]) = (ofMasked t).read t.byteSize c
  := by
  rw [ofMasked, readAll_append, Nat.zero_add]
  rfl

/-- A character ends the statement or goes on with it. -/
theorem statement_read (scan : BlockScan) (offset : Nat) (c : Char) :
  (scan.read offset c).statement = if isStatementEnd c then [] else scan.statement ++ [c]
  := by
  have step := scan.step offset c
  generalize scan.read offset c = found at step ⊢
  cases step with
  | opening => rfl
  | lone => rfl
  | closing =>
    rw [closeBlock, statement_addRule]
    rfl
  | ending => rfl
  | inner plain =>
    rw [plain]
    rfl

/-- The statement that goes on is the part of the text behind the last end of a statement. -/
theorem statement_ofMasked (masked : Text) :
  (ofMasked masked).statement = openStatement masked
  := by
  induction masked using List.reverseRecOn with
  | nil => rfl
  | append_singleton t c ih =>
    rw [ofMasked_append_singleton, statement_read, ih, openStatement_append_singleton]

/--
What was found of a masked text when its blocks are read up to a byte offset, from where reading
goes on to the end.
-/
def IsAt (scan : BlockScan) (masked : Text) (offset : Nat) : Prop :=
  ∃ part rest : Text, masked = part ++ rest ∧ part.byteSize = offset ∧ scan = ofMasked part
    ∧ scan.readAll offset rest = ofMasked masked

theorem isAt_append (part rest : Text) :
  (ofMasked part).IsAt (part ++ rest) part.byteSize
  := by
  refine ⟨part, rest, rfl, rfl, rfl, ?_⟩
  rw [ofMasked, ofMasked, readAll_append, Nat.zero_add]

theorem IsAt.unique {other : BlockScan} (isAt : scan.IsAt masked offset)
    (otherAt : other.IsAt masked offset) :
  scan = other
  := by
  obtain ⟨part, rest, rfl, rfl, rfl, -⟩ := isAt
  obtain ⟨part', rest', parts, size_eq, rfl, -⟩ := otherAt
  rw [(append_inj_of_byteSize_eq parts size_eq.symm).1]

theorem ofMasked_append_opening (t : Text) :
  (ofMasked (t ++ ['\x7b'])).opened.length = (ofMasked t).opened.length + 1
    ∧ (ofMasked (t ++ ['\x7b'])).unexpected = (ofMasked t).unexpected
  := by
  rw [ofMasked_append_singleton, read, if_pos rfl]
  exact ⟨rfl, rfl⟩

/-- The number of open blocks, less that of the closing braces without a partner. -/
def counted (scan : BlockScan) : Nat :=
  scan.opened.length - scan.unexpected.length

/-- All open blocks count where none is open or no closing brace was without a partner. -/
theorem counted_eq (fine : scan.unexpected = [] ∨ scan.opened = []) :
  scan.counted = scan.opened.length
  := by
  rw [counted]
  rcases fine with none_lone | none_open
  · rw [none_lone]
    rfl
  · rw [none_open]
    apply Nat.zero_sub

end BlockScan

open BlockScan (ofMasked)

/-- The balance of a text is that of its braces without a partner. -/
theorem Parted.braceBalance_eq {lone opened : List Nat} (parted : Parted t lone opened) :
  braceBalance t = opened.length - lone.length
  := by
  induction parted with
  | balanced balanced => exact balanced.braceBalance_eq
  | closing _ balanced ih =>
    rw [braceBalance_append, braceBalance_cons_closing, balanced.braceBalance_eq, ih,
      List.length_append, List.length_singleton, List.length_nil]
    omega
  | opening _ balanced ih =>
    rw [braceBalance_append, braceBalance_cons_opening, balanced.braceBalance_eq, ih,
      List.length_cons]
    omega

/-- Braces are counted as the open blocks less the closing braces without a partner. -/
theorem braceBalance_ofMasked (masked : Text) :
  braceBalance masked = (ofMasked masked).opened.length - (ofMasked masked).unexpected.length
  := by
  have balance_eq := (parted_ofMasked masked).braceBalance_eq
  rwa [BlockScan.openBraces, List.length_map] at balance_eq

/-- Where a block is open behind a character that opens none, one was open before. -/
theorem BlockScan.opened_of_read {c : Char} (other : c ≠ '\x7b')
    (opened : (scan.read offset c).opened ≠ []) :
  scan.opened ≠ [] ∧ (scan.read offset c).unexpected = scan.unexpected
  := by
  have step := scan.step offset c
  generalize scan.read offset c = found at step opened ⊢
  cases step with
  | opening => contradiction
  | lone none_open => exact absurd none_open opened
  | closing opened_eq =>
    rw [closeBlock, (openBraces_addRule _ _).2]
    exact ⟨by simp [opened_eq], rfl⟩
  | ending => exact ⟨opened, rfl⟩
  | inner => exact ⟨opened, rfl⟩

/-- The outermost block that is open was opened behind all closing braces without a partner. -/
theorem exists_outermost (opened : (ofMasked t).opened ≠ []) :
  ∃ part rest : Text, t = part ++ '\x7b' :: rest ∧ (ofMasked part).opened = []
    ∧ (ofMasked part).unexpected = (ofMasked t).unexpected
  := by
  induction t using List.reverseRecOn with
  | nil => exact absurd rfl opened
  | append_singleton t c ih =>
    have within (earlier : (ofMasked t).opened ≠ []) : ∃ part rest : Text,
        t ++ [c] = part ++ '\x7b' :: rest ∧ (ofMasked part).opened = []
          ∧ (ofMasked part).unexpected = (ofMasked t).unexpected := by
      obtain ⟨part, rest, rfl, found⟩ := ih earlier
      exact ⟨part, rest ++ [c], by simp, found⟩
    rw [BlockScan.ofMasked_append_singleton] at opened ⊢
    by_cases brace : c = '\x7b'
    · subst brace
      by_cases none_open : (ofMasked t).opened = []
      · exact ⟨t, [], rfl, none_open, rfl⟩
      · exact within none_open
    · obtain ⟨earlier, same⟩ := BlockScan.opened_of_read brace opened
      rw [same]
      exact within earlier

/-! ### Lines -/

/-- Each line of a stylesheet begins in some region. -/
theorem exists_lineIn {after : Text} {line : Line} (parts : text = before ++ piece ++ after)
    (place : LineAt 0 before piece after n line) :
  ∃ region, LineIn .code 0 text n before piece region
  := by
  suffices leads : ∃ region, Region.Leads .code before region from
    leads.imp fun _ leads => ⟨⟨after, line, parts, place⟩, leads⟩
  rcases List.eq_nil_or_concat before with rfl | ⟨first, c, rfl⟩
  · exact ⟨.code, fun rest => rfl⟩
  · obtain rfl : c = '\n' := place.behind c (by simp)
    have proper : Region.Proper .code := nofun
    obtain ⟨next, -, goes⟩ := exists_goesOn proper first
    have empty : maskFrom next [] = [] := by rw [maskFrom]
    have feed := goes []
    rw [empty] at feed
    refine ⟨next, fun rest => ?_⟩
    rw [List.concat_eq_append, feed, List.append_assoc, List.singleton_append, goes]
    simp

namespace LineIn

variable {start : Nat} {piece' : Text} {next' : Region}

/-- A line reaches up to the next line feed. -/
theorem piece_eq (line : LineIn region start t n before piece next)
    (line' : LineIn region start t n before piece' next') :
  piece = piece'
  := by
  have upTo {piece after : Text} {found : Line} (place : LineAt start before piece after n found) :
      (piece ++ after).takeWhile (· ≠ '\n') = piece := by
    apply takeWhile_run_append
    · intro c among
      exact decide_eq_true (ne_of_mem_of_not_mem among place.within)
    · intro c first
      simp [place.ahead c first]
  obtain ⟨after, found, rfl, place⟩ := line.place
  obtain ⟨after', found', parts, place'⟩ := line'.place
  rw [List.append_assoc, List.append_assoc, List.append_cancel_left_eq] at parts
  rw [← upTo place, parts, upTo place']

theorem maskFrom_eq (line : LineIn region start t n before piece next)
    (line' : LineIn region start t n before piece' next') (rest : Text) :
  maskFrom next rest = maskFrom next' rest
  := List.append_cancel_left ((line.leads rest).symm.trans (line'.leads rest))

/-- The edits of a line are the edit that its white space needs, if any. -/
theorem mem_indentEdits_iff {e : IndentEdit} (line : LineIn .code 0 text n before piece region) :
  e ∈ indentEdits text unit ∧ e.line = n
    ↔ editLine? unit n (braceBalance (mask before)) piece.dropCarriageReturn
      (maskFrom region piece) = some e
  := by
  rw [Less.mem_indentEdits_iff]
  constructor
  · rintro ⟨⟨m, other, piece', region', line', edited⟩, number_eq⟩
    obtain ⟨indent, -, -, rfl⟩ := editLine?_eq_some_iff.mp edited
    obtain rfl : m = n := number_eq
    obtain rfl := line.before_eq line'
    obtain rfl := line.piece_eq line'
    rwa [line.maskFrom_eq line']
  · intro edited
    refine ⟨⟨n, before, piece, region, line, edited⟩, ?_⟩
    obtain ⟨indent, -, -, rfl⟩ := editLine?_eq_some_iff.mp edited
    rfl

/-- Reading the blocks of a stylesheet comes to the start of each line. -/
theorem isAt (line : LineIn .code 0 text n before piece region) :
  (ofMasked (mask before)).IsAt (mask text) before.byteSize
  := by
  obtain ⟨after, found, parts, -⟩ := line.place
  have masked_eq : mask text = mask before ++ maskFrom region (piece ++ after) := by
    rw [parts, List.append_assoc]
    exact line.leads _
  rw [masked_eq, ← byteSize_mask]
  apply BlockScan.isAt_append

end LineIn

/-- A line is indented by the blocks that count where it starts. -/
theorem lineIndentation_ofMasked (unit part masked : Text) :
  lineIndentation unit (braceBalance part) masked
    = indentation unit ((ofMasked part).counted - if masked.trim.head? = some '\x7d' then 1 else 0)
  := by
  rw [lineIndentation, braceBalance_ofMasked, BlockScan.counted]
  congr 1
  split <;> omega

/-! ### Words -/

/-- Those words are suggested that start with what is typed. -/
theorem mem_suggestWords_iff {kind : SuggestionKind} {words : List String} :
  s ∈ suggestWords typed kind words
    ↔ ∃ word ∈ words, typed <+: word.toList ∧ s = ⟨word.toList, kind, none⟩
  := by
  simp only [suggestWords, List.mem_map, List.mem_filter, startsWith_iff]
  constructor
  · rintro ⟨word, ⟨listed, starts⟩, rfl⟩
    exact ⟨word, listed, starts, rfl⟩
  · rintro ⟨word, listed, starts, rfl⟩
    exact ⟨word, ⟨listed, starts⟩, rfl⟩

/--
A word with a prefix that may be typed in the statement that goes on: a value behind a colon, and a
property before one.
-/
def BlockScan.Fitting (scan : BlockScan) (typed : Text) (s : Suggestion) : Prop :=
  if scan.statement.contains ':' then
    ∃ word ∈ values, typed <+: word.toList ∧ s = ⟨word.toList, .value, none⟩
  else
    ∃ word ∈ properties, typed <+: word.toList ∧ s = ⟨word.toList, .property, none⟩

/-- The words that fit are the values, or the properties, that start with what is typed. -/
theorem BlockScan.fitting_iff :
  scan.Fitting typed s
    ↔ s ∈ if scan.statement.contains ':' then suggestWords typed .value values
      else suggestWords typed .property properties
  := by
  rw [Fitting]
  split
  · exact mem_suggestWords_iff.symm
  · exact mem_suggestWords_iff.symm

/-- Behind a prefix that starts with no `@`, the words that fit are suggested where blocks count. -/
theorem exists_suggestionsAt? (text : Text) (offset : Nat) :
  let before := (text.splitFloor offset).1
  let typed := before.suffixWhile isTyped
  typed.head? ≠ some '@' → ∃ (scan : BlockScan) (offered : List Suggestion),
    scan.IsAt (mask text) (before.byteSize - typed.byteSize)
      ∧ suggestionsAt? text offset = some offered
      ∧ ∀ s, s ∈ offered ↔ 0 < scan.counted ∧ scan.Fitting typed s
  := by
  intro before typed word
  subst before typed
  obtain ⟨text_eq, -, -⟩ := splitFloor_spec text offset
  rw [suggestionsAt?]
  generalize text.splitFloor offset = parts at *
  obtain ⟨before, after⟩ := parts
  obtain ⟨prior, before_eq, -, -⟩ := exists_suffixWhile isTyped before
  dsimp only at text_eq word ⊢
  generalize suffixWhile isTyped before = typed at *
  have size_eq : before.byteSize - typed.byteSize = prior.byteSize := by
    rw [before_eq, byteSize_append, Nat.add_sub_cancel]
  have isCut : text.IsCut prior.byteSize :=
    ⟨prior, typed ++ after, by rw [text_eq, before_eq, List.append_assoc], rfl⟩
  obtain ⟨masked, rest, masked_eq, cut_eq⟩ := (mask_blanked text).isCut isCut
  have isAt : (ofMasked masked).IsAt (mask text) prior.byteSize := by
    rw [masked_eq, ← cut_eq]
    apply BlockScan.isAt_append
  have counted_iff : braceBalance masked ≤ 0 ↔ ¬ 0 < (ofMasked masked).counted := by
    rw [braceBalance_ofMasked, BlockScan.counted]
    omega
  rw [size_eq]
  split
  · next name => exact absurd rfl word
  · rw [masked_eq, ← cut_eq, splitAt?_append, ← masked_eq, cut_eq]
    simp only [Option.bind_eq_bind, Option.bind_some, ← BlockScan.statement_ofMasked, counted_iff,
      BlockScan.fitting_iff]
    by_cases counts : 0 < (ofMasked masked).counted
    · refine ⟨_, _, isAt, ?_, fun s => (and_iff_right counts).symm⟩
      rw [if_neg (not_not.mpr counts)]
      split <;> rfl
    · exact ⟨_, [], isAt, if_pos counts, fun s => by simp [counts]⟩

/-! ### Depths -/

/-- Lines are indented, and words are suggested, by a depth that what was found before tells. -/
structure ByDepth (text : Text) (depth : BlockScan → Nat) : Prop where
  /--
  A line with code gets the indentation of the depth at its start, one less before a closing brace.
  -/
  lines (unit : Text) {n : Nat} {before piece after : Text} {line : Line} :
    text = before ++ piece ++ after → LineAt 0 before piece after n line →
      ∃ (region : Region) (scan : BlockScan), LineIn .code 0 text n before piece region
        ∧ scan.IsAt (mask text) before.byteSize
        ∧ let code := (maskFrom region piece).trim
          let level := depth scan - if code.head? = some '\x7d' then 1 else 0
          code ≠ [] → ∀ e, e ∈ indentEdits text unit ∧ e.line = n
            ↔ editIndent? n piece.dropCarriageReturn (indentation unit level) = some e
  /-- Behind a prefix, the words that fit are suggested where the prefix starts at some depth. -/
  words (offset : Nat) :
    let before := (text.splitFloor offset).1
    let typed := before.suffixWhile isTyped
    typed.head? ≠ some '@' → ∃ (scan : BlockScan) (offered : List Suggestion),
      scan.IsAt (mask text) (before.byteSize - typed.byteSize)
        ∧ suggestionsAt? text offset = some offered
        ∧ ∀ s, s ∈ offered ↔ 0 < depth scan ∧ scan.Fitting typed s

/-- Lines are indented, and words are suggested, by the blocks that count. -/
theorem byDepth_counted (text : Text) :
  ByDepth text BlockScan.counted
  where
  lines unit {n before piece after line} parts place := by
    obtain ⟨region, lineIn⟩ := exists_lineIn parts place
    refine ⟨region, _, lineIn, lineIn.isAt, fun code e => ?_⟩
    rw [lineIn.mem_indentEdits_iff, editLine?, if_neg code, lineIndentation_ofMasked]
  words := exists_suggestionsAt? text

/-- Depths that are the same wherever reading comes to are told by the same lines and words. -/
theorem ByDepth.congr {other : BlockScan → Nat} (byDepth : ByDepth text depth)
    (same : ∀ offset scan, scan.IsAt (mask text) offset → depth scan = other scan) :
  ByDepth text other
  where
  lines unit {n before piece after line} parts place := by
    obtain ⟨region, scan, lineIn, isAt, edits_iff⟩ := byDepth.lines unit parts place
    rw [same _ _ isAt] at edits_iff
    exact ⟨region, scan, lineIn, isAt, edits_iff⟩
  words offset word := by
    obtain ⟨scan, offered, isAt, offered_eq, mem_iff⟩ := byDepth.words offset word
    rw [same _ _ isAt] at mem_iff
    exact ⟨scan, offered, isAt, offered_eq, mem_iff⟩

/-- No block of a masked text opens behind a closing brace without a partner. -/
def NoneBehindLone (masked : Text) : Prop :=
  ∀ part rest : Text, masked = part ++ '\x7b' :: rest → (ofMasked part).unexpected = []

/-- Where a block is open, no closing brace was without a partner, if none opens behind one. -/
theorem NoneBehindLone.counted_eq (none_behind : NoneBehindLone masked)
    (isAt : scan.IsAt masked offset) :
  scan.counted = scan.opened.length
  := by
  obtain ⟨part, rest, rfl, -, rfl, -⟩ := isAt
  apply BlockScan.counted_eq
  by_contra both
  obtain ⟨lone, opened⟩ := not_or.mp both
  obtain ⟨earlier, behind, rfl, -, same⟩ := exists_outermost opened
  exact lone (same.symm.trans (none_behind earlier (behind ++ rest) (by simp)))

/-- Where a block opens behind a lone closing brace, the first such block does not count. -/
theorem exists_uncounted (behind : ¬ NoneBehindLone masked) :
  ∃ part rest : Text, masked = part ++ '\x7b' :: rest
    ∧ (ofMasked (part ++ ['\x7b'])).opened.length = 1
    ∧ (ofMasked (part ++ ['\x7b'])).counted = 0
  := by
  simp only [NoneBehindLone, not_forall] at behind
  obtain ⟨part, rest, masked_eq, lone⟩ := behind
  obtain ⟨length_eq, unexpected_eq⟩ := BlockScan.ofMasked_append_opening part
  have opened : (ofMasked (part ++ ['\x7b'])).opened ≠ [] :=
    List.ne_nil_of_length_eq_add_one length_eq
  obtain ⟨first, between, parts, none_open, same⟩ := exists_outermost opened
  obtain ⟨first_length, first_unexpected⟩ := BlockScan.ofMasked_append_opening first
  rw [← unexpected_eq, ← same, ← first_unexpected] at lone
  rw [none_open, List.length_nil, Nat.zero_add] at first_length
  refine ⟨first, between ++ rest, ?_, first_length, ?_⟩
  · rw [masked_eq, ← List.singleton_append, ← List.append_assoc, parts]
    simp
  · have := List.length_pos_iff.mpr lone
    rw [BlockScan.counted]
    omega

/-- Two depths by which words are suggested are positive at the same places where a word fits. -/
theorem ByDepth.pos_iff {other : BlockScan → Nat} (byDepth : ByDepth text depth)
    (byOther : ByDepth text other)
    (typed_eq : (text.splitFloor offset).1.suffixWhile isTyped = typed)
    (word : typed.head? ≠ some '@')
    (isAt : scan.IsAt (mask text) ((text.splitFloor offset).1.byteSize - typed.byteSize))
    (fits : scan.Fitting typed s) :
  0 < depth scan ↔ 0 < other scan
  := by
  subst typed_eq
  obtain ⟨found, offered, foundAt, offered_eq, mem_iff⟩ := byDepth.words offset word
  obtain ⟨found', offered', foundAt', offered_eq', mem_iff'⟩ := byOther.words offset word
  obtain rfl := isAt.unique foundAt
  obtain rfl := isAt.unique foundAt'
  obtain rfl : offered = offered' := Option.some.inj (offered_eq.symm.trans offered_eq')
  have same := (mem_iff s).symm.trans (mem_iff' s)
  rwa [and_iff_left fits, and_iff_left fits] at same

/-- Right behind an opening brace nothing is typed yet. -/
theorem splitFloor_behind_opening (masked_eq : mask text = part ++ '\x7b' :: rest) :
  let before := (text.splitFloor (byteSize (part ++ ['\x7b']))).1
  before.byteSize = byteSize (part ++ ['\x7b']) ∧ before.suffixWhile isTyped = []
  := by
  have blanked := mask_blanked text
  rw [masked_eq] at blanked
  obtain ⟨earlier, later, text_eq, size_eq, -⟩ := blanked.exists_append (by decide)
  have offset_eq : byteSize (part ++ ['\x7b']) = byteSize (earlier ++ ['\x7b']) := by
    rw [byteSize_append, byteSize_append, size_eq]
  have floor_eq : (text.splitFloor (byteSize (part ++ ['\x7b']))).1 = earlier ++ ['\x7b'] := by
    rw [text_eq, offset_eq, ← List.singleton_append, ← List.append_assoc]
    exact takeBytes_append _ later
  rw [floor_eq, ← List.append_nil (earlier ++ ['\x7b'])]
  refine ⟨by rw [List.append_nil, offset_eq], suffixWhile_append_run (by simp) ?_⟩
  intro c last
  rw [List.getLast?_concat] at last
  rw [← Option.some.inj last]
  decide

/-- Right behind an opening brace all properties fit. -/
theorem fitting_behind_opening (part : Text) :
  (ofMasked (part ++ ['\x7b'])).Fitting [] ⟨"background".toList, .property, none⟩
  := by
  have none_before : (ofMasked (part ++ ['\x7b'])).statement = [] := by
    rw [BlockScan.statement_ofMasked, openStatement_append_singleton]
    rfl
  rw [BlockScan.Fitting, none_before, if_neg (by simp)]
  exact ⟨"background", List.mem_cons_self, List.nil_prefix, rfl⟩

/--
Lines are indented, and words are suggested, by the number of open blocks less the number of closing
braces without a partner that were read.  This is as by the number of open blocks exactly when no
block opens behind a closing brace without a partner.
-/
theorem byDepth_iff (text : Text) :
  ByDepth text BlockScan.counted
    ∧ (ByDepth text (·.opened.length) ↔ NoneBehindLone (mask text))
  := by
  refine ⟨byDepth_counted text, fun byOpened => ?_, fun none_behind => ?_⟩
  · by_contra behind
    obtain ⟨part, rest, masked_eq, opened_eq, counted_eq⟩ := exists_uncounted behind
    obtain ⟨size_eq, typed_eq⟩ := splitFloor_behind_opening masked_eq
    have isAt := BlockScan.isAt_append (part ++ ['\x7b']) rest
    rw [List.append_assoc, List.singleton_append, ← masked_eq, ← size_eq] at isAt
    have pos_iff := byOpened.pos_iff (byDepth_counted text) typed_eq (by simp) isAt
      (fitting_behind_opening part)
    rw [opened_eq, counted_eq] at pos_iff
    exact absurd (pos_iff.mp Nat.one_pos) (Nat.lt_irrefl 0)
  · exact (byDepth_counted text).congr fun _ _ => none_behind.counted_eq

/-- A line in the only open block is not indented, and no property is suggested on it. -/
theorem depth_behind_lone_brace :
  let text : Text := ['\x7d', '\n', 'a', ' ', '\x7b', '\n', 'b']
  indentEdits text [' ', ' '] = [] ∧ suggestionsAt? text 7 = some []
    ∧ ¬ ByDepth text (·.opened.length)
  := by
  intro text
  have edits_eq : indentEdits text [' ', ' '] = [] := by decide
  refine ⟨edits_eq, by decide, fun byOpened => ?_⟩
  have place : LineAt 0 ['\x7d', '\n', 'a', ' ', '\x7b', '\n'] ['b'] [] 2 ⟨6, ['b']⟩ :=
    ⟨rfl, rfl, by simp, by simp, by simp, .inr ⟨rfl, by simp⟩⟩
  obtain ⟨region, scan, line, isAt, edits_iff⟩ := byOpened.lines [' ', ' '] rfl place
  obtain rfl := isAt.unique line.isAt
  obtain rfl := eq_code_of_leads (fun rest => rfl) line.leads
  have indented := (edits_iff (by decide) ⟨2, 0, [' ', ' ']⟩).mpr (by decide)
  rw [edits_eq] at indented
  exact absurd indented.1 List.not_mem_nil

end EditorModes.Less
