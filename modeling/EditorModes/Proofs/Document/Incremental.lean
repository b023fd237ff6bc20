import EditorModes.Document.LineCache
import Mathlib.Data.List.Basic
import Mathlib.Data.Option.Basic

/-!
# Incremental tokenizing

A line cache that is kept up to date change by change is the one that a full pass over its lines
gives.  `LineTokenizer.Chained` says of cached lines that each is tokenized from the state the
line before it ended in; two chained lists over the same texts are equal, so that tokenizing may
stop at the first line that starts as it did before.  `LineCache.IsFullPass` reads the same off
the numbers of the lines, and `LineCache.replay?` follows a document through its edits.
-/

namespace EditorModes

namespace LineTokenizer

variable {t : LineTokenizer} {maxLength : Option Nat}

/-! ### Chained lines -/

/-- The state that cached lines end in, when the first of them starts in `state`. -/
def lastState (state : LexerState) (lines : List CachedLine) : LexerState :=
  (lines.getLast?.map (·.tokens.endState)).getD state

@[simp]
theorem lastState_nil (state : LexerState) :
  lastState state [] = state
  := rfl

@[simp]
theorem lastState_cons (state : LexerState) (line : CachedLine) (lines : List CachedLine) :
  lastState state (line :: lines) = lastState line.tokens.endState lines
  := by
  cases lines with
  | nil => rfl
  | cons next lines => simp [lastState, List.getLast?_cons]

/-- Each line is tokenized from the state the one before ends in, the first from `state`. -/
def Chained (t : LineTokenizer) (maxLength : Option Nat) : LexerState → List CachedLine → Prop
  | _, [] => True
  | state, line :: lines =>
    t.cacheLine? maxLength state line.text = some line
      ∧ Chained t maxLength line.tokens.endState lines

/-- A line is tokenized from `state` when it starts in `state` and has the tokens it then gets. -/
theorem cacheLine?_eq_some_iff {state : LexerState} {text : Text} {line : CachedLine} :
  t.cacheLine? maxLength state text = some line
    ↔ line.text = text ∧ line.startState = state
      ∧ t.run text state (stopFor maxLength text) = some line.tokens
  := by
  obtain ⟨lineText, startState, tokens⟩ := line
  simp only [cacheLine?, Option.map_eq_some_iff, CachedLine.mk.injEq]
  constructor
  · rintro ⟨found, answer, rfl, rfl, rfl⟩
    use rfl, rfl, answer
  · rintro ⟨rfl, rfl, answer⟩
    use tokens

theorem chained_append {state : LexerState} {front back : List CachedLine} :
  Chained t maxLength state (front ++ back)
    ↔ Chained t maxLength state front
      ∧ Chained t maxLength (lastState state front) back
  := by
  induction front generalizing state with
  | nil => simp [Chained]
  | cons line front ih => simp [Chained, ih, and_assoc]

/-- Tokenizing lines gives the only chained lines with their texts. -/
theorem cacheLines?_eq_some_iff {state last : LexerState} {texts : List Text}
    {lines : List CachedLine} :
  t.cacheLines? maxLength state texts = some (lines, last)
    ↔ Chained t maxLength state lines ∧ lines.map (·.text) = texts
      ∧ last = lastState state lines
  := by
  induction texts generalizing state lines last with
  | nil =>
    simp only [cacheLines?, Option.some.injEq, Prod.mk.injEq, List.map_eq_nil_iff]
    constructor
    · rintro ⟨rfl, rfl⟩
      simp [Chained]
    · rintro ⟨-, rfl, rfl⟩
      simp
  | cons text texts ih =>
    simp only [cacheLines?, Option.bind_eq_bind, Option.bind_eq_some_iff, Option.pure_def,
      Option.some.injEq, Prod.mk.injEq, Prod.exists]
    constructor
    · rintro ⟨line, first, rest, found, others, rfl, rfl⟩
      obtain ⟨chained, rfl, rfl⟩ := ih.mp others
      obtain ⟨rfl, rfl, -⟩ := cacheLine?_eq_some_iff.mp first
      simp [Chained, first, chained]
    · rintro ⟨chained, same, rfl⟩
      obtain ⟨line, rest, rfl, rfl, rfl⟩ := List.map_eq_cons_iff.mp same
      have others := ih.mpr ⟨chained.2, rfl, rfl⟩
      use line, chained.1, rest, lastState line.tokens.endState rest, others
      simp

theorem cacheLines?_of_chained {state : LexerState} {lines : List CachedLine}
    (chained : Chained t maxLength state lines) :
  t.cacheLines? maxLength state (lines.map (·.text)) = some (lines, lastState state lines)
  := cacheLines?_eq_some_iff.mpr ⟨chained, rfl, rfl⟩

/-- Texts in a row are tokenized one part after the other. -/
theorem cacheLines?_append (state : LexerState) (front back : List Text) :
  t.cacheLines? maxLength state (front ++ back)
    = (t.cacheLines? maxLength state front).bind fun (lines, middle) =>
        (t.cacheLines? maxLength middle back).map fun (others, last) => (lines ++ others, last)
  := by
  induction front generalizing state with
  | nil => simp [cacheLines?]
  | cons text front ih =>
    simp only [List.cons_append, cacheLines?, ih, Option.bind_eq_bind]
    cases t.cacheLine? maxLength state text with
    | none => rfl
    | some line =>
      simp only [Option.bind_some]
      cases t.cacheLines? maxLength line.tokens.endState front with
      | none => rfl
      | some found =>
        simp only [Option.bind_some, Option.pure_def]
        cases t.cacheLines? maxLength found.2 back <;> rfl

/-- A tokenizer that always answers tokenizes any lines. -/
theorem isSome_cacheLines? (answers : ∀ line state stop, (t.run line state stop).isSome)
    (state : LexerState) (texts : List Text) :
  (t.cacheLines? maxLength state texts).isSome
  := by
  induction texts generalizing state with
  | nil => rfl
  | cons text texts ih =>
    obtain ⟨tokens, found⟩ :=
      Option.isSome_iff_exists.mp (answers text state (stopFor maxLength text))
    obtain ⟨others, rest⟩ := Option.isSome_iff_exists.mp (ih tokens.endState)
    simp [cacheLines?, cacheLine?, found, rest]

/--
Lines that were chained before are refreshed as if they were all tokenized again: from the first
that starts as it did before, the others are what they were.
-/
theorem refresh?_of_chained {before : LexerState} {lines : List CachedLine}
    (chained : Chained t maxLength before lines) (state : LexerState) :
  (t.refresh? maxLength state lines).map (·.1)
    = (t.cacheLines? maxLength state (lines.map (·.text))).map (·.1)
  := by
  induction lines generalizing before state with
  | nil => rfl
  | cons line lines ih =>
    rw [refresh?]
    split
    · next same =>
      have started := (cacheLine?_eq_some_iff.mp chained.1).2.1
      rw [← started, same] at chained
      rw [cacheLines?_of_chained chained]
      rfl
    · have rest := ih chained.2
      simp only [List.map_cons, cacheLines?, Option.bind_eq_bind]
      cases t.cacheLine? maxLength state line.text with
      | none => rfl
      | some fresh =>
        simp only [Option.bind_some]
        specialize rest fresh.tokens.endState
        cases again : t.refresh? maxLength fresh.tokens.endState lines <;>
          cases whole : t.cacheLines? maxLength fresh.tokens.endState (lines.map (·.text)) <;>
          simp_all

end LineTokenizer

/-! ### Full passes -/

namespace LineCache

/-- The contents of the cached lines. -/
def texts (c : LineCache) : List Text :=
  c.lines.map (·.text)

/-- The cache of given lines, all of them tokenized one after another. -/
def fullPass? (t : LineTokenizer) (maxLength : Option Nat) (texts : List Text) :
    Option LineCache :=
  (t.cacheLines? maxLength t.initial texts).map fun (lines, _) => ⟨t.language, maxLength, lines⟩

/--
The first line is tokenized from the initial state and each other one from the state the line
before it ended in, all read as far as the greatest length allows for their own texts.
-/
structure IsFullPass (c : LineCache) (t : LineTokenizer) (maxLength : Option Nat) : Prop where
  language_eq : c.language = t.language
  maxLength_eq : c.maxLength = maxLength
  first_startState : ∀ line, c.lines[0]? = some line → line.startState = t.initial
  next_startState : ∀ (n : Nat) line next, c.lines[n]? = some line → c.lines[n + 1]? = some next →
    next.startState = line.tokens.endState
  run_text : ∀ (n : Nat) line, c.lines[n]? = some line →
    t.run line.text line.startState (LineTokenizer.stopFor maxLength line.text) = some line.tokens

variable {t : LineTokenizer} {maxLength : Option Nat} {c : LineCache}

/-- Lines are chained when their numbers say so. -/
theorem chained_iff {state : LexerState} {lines : List CachedLine} :
  t.Chained maxLength state lines
    ↔ (∀ line, lines[0]? = some line → line.startState = state)
      ∧ (∀ (n : Nat) line next, lines[n]? = some line → lines[n + 1]? = some next →
          next.startState = line.tokens.endState)
      ∧ ∀ (n : Nat) line, lines[n]? = some line →
          t.run line.text line.startState (LineTokenizer.stopFor maxLength line.text)
            = some line.tokens
  := by
  induction lines generalizing state with
  | nil => simp [LineTokenizer.Chained]
  | cons line lines ih =>
    rw [LineTokenizer.Chained, ih, LineTokenizer.cacheLine?_eq_some_iff]
    constructor
    · rintro ⟨⟨-, rfl, answer⟩, first, next, run⟩
      refine ⟨by simp, ?_, ?_⟩
      · intro n before after here there
        cases n with
        | zero =>
          obtain rfl : line = before := by simpa using here
          apply first
          simpa using there
        | succ n => exact next n before after (by simpa using here) (by simpa using there)
      · intro n here found
        cases n with
        | zero =>
          obtain rfl : line = here := by simpa using found
          apply answer
        | succ n => exact run n here (by simpa using found)
    · rintro ⟨first, next, run⟩
      obtain rfl := first line rfl
      refine ⟨⟨rfl, rfl, run 0 line rfl⟩, ?_, ?_, ?_⟩
      · intro after there
        apply next 0 line after rfl
        simpa using there
      · intro n before after here there
        exact next (n + 1) before after (by simpa using here) (by simpa using there)
      · intro n here found
        exact run (n + 1) here (by simpa using found)

/-- A full pass over lines gives the only cache that is a full pass and holds these lines. -/
theorem fullPass?_eq_some_iff {texts : List Text} :
  fullPass? t maxLength texts = some c ↔ c.IsFullPass t maxLength ∧ c.texts = texts
  := by
  obtain ⟨language, length, lines⟩ := c
  simp only [fullPass?, Option.map_eq_some_iff, Prod.exists,
    LineTokenizer.cacheLines?_eq_some_iff, LineCache.mk.injEq, LineCache.texts]
  constructor
  · rintro ⟨found, last, ⟨chained, rfl, rfl⟩, rfl, rfl, rfl⟩
    obtain ⟨first, next, run⟩ := chained_iff.mp chained
    exact ⟨⟨rfl, rfl, first, next, run⟩, rfl⟩
  · rintro ⟨⟨rfl, rfl, first, next, run⟩, rfl⟩
    have chained := chained_iff.mpr ⟨first, next, run⟩
    exact ⟨lines, LineTokenizer.lastState t.initial lines, ⟨chained, rfl, rfl⟩, rfl, rfl, rfl⟩

theorem IsFullPass.chained (pass : c.IsFullPass t maxLength) :
  t.Chained maxLength t.initial c.lines
  := chained_iff.mpr ⟨pass.first_startState, pass.next_startState, pass.run_text⟩

/-- A tokenizer that always answers has a full pass over any lines. -/
theorem exists_fullPass (answers : ∀ line state stop, (t.run line state stop).isSome)
    (maxLength : Option Nat) (texts : List Text) :
  ∃ c, fullPass? t maxLength texts = some c
  := by
  obtain ⟨found, passed⟩ :=
    Option.isSome_iff_exists.mp (LineTokenizer.isSome_cacheLines? answers t.initial texts)
  rw [fullPass?, passed]
  simp

/-! ### Changes -/

/--
Changing lines of a full pass gives the full pass of the lines with those from `first` on
replaced, or no answer where the full pass has none.
-/
theorem IsFullPass.applyChange? (pass : c.IsFullPass t maxLength) (first removed : Nat)
    (inserted : List Text) :
  (c.applyChange? t first removed inserted).map (·.1)
    = fullPass? t maxLength
        (c.texts.take first ++ inserted ++ (c.texts.drop first).drop removed)
  := by
  obtain ⟨language, length, lines⟩ := c
  obtain rfl := pass.language_eq
  obtain rfl := pass.maxLength_eq
  have chained := pass.chained
  rw [← List.take_append_drop first lines, LineTokenizer.chained_append] at chained
  obtain ⟨before, after⟩ := chained
  rw [← List.take_append_drop removed (lines.drop first), LineTokenizer.chained_append] at after
  have refreshed := LineTokenizer.refresh?_of_chained after.2
  simp only [LineCache.applyChange?, fullPass?, texts, ← List.map_take, ← List.map_drop,
    LineTokenizer.cacheLines?_append, LineTokenizer.cacheLines?_of_chained before,
    Option.bind_eq_bind, Option.bind_some, List.append_assoc]
  change Option.map _ ((t.cacheLines? length (LineTokenizer.lastState _ _) inserted).bind _) = _
  cases t.cacheLines? length (LineTokenizer.lastState t.initial (lines.take first)) inserted with
  | none => rfl
  | some fresh =>
    specialize refreshed fresh.2
    simp only [Option.bind_some, Option.pure_def]
    cases again : t.refresh? length fresh.2 ((lines.drop first).drop removed) <;>
      cases whole : t.cacheLines? length fresh.2
        (((lines.drop first).drop removed).map (·.text)) <;>
      simp_all

/-- A new cache is the full pass of the lines of its text. -/
theorem ofText?_eq_fullPass? (t : LineTokenizer) (maxLength : Option Nat) (text : Text) :
  ofText? t maxLength text = fullPass? t maxLength text.lineContents
  := by
  have empty : IsFullPass ⟨t.language, maxLength, []⟩ t maxLength := by
    constructor <;> simp
  have whole := empty.applyChange? 0 0 text.lineContents
  simp only [texts, List.map_nil, List.take_nil, List.drop_nil, List.nil_append,
    List.append_nil] at whole
  rw [← whole, ofText?, Option.map_eq_bind]
  rfl

end LineCache

/-! ### Shared lines -/

/-- Where two lists share leading members, so do their images. -/
theorem take_commonPrefixLength {f : α → β} {same : α → β → Bool}
    (agree : ∀ a b, same a b = true → f a = b) (as : List α) (bs : List β) :
  (as.take (commonPrefixLength same as bs)).map f = bs.take (commonPrefixLength same as bs)
  := by
  induction as generalizing bs with
  | nil => simp [commonPrefixLength]
  | cons a as ih =>
    cases bs with
    | nil => simp [commonPrefixLength]
    | cons b bs =>
      rw [commonPrefixLength]
      split
      · next holds => simp [ih, agree a b holds]
      · rfl

theorem drop_commonPrefixLength_reverse {f : α → β} {same : α → β → Bool}
    (agree : ∀ a b, same a b = true → f a = b) (as : List α) (bs : List β) :
  (as.drop (as.length - commonPrefixLength same as.reverse bs.reverse)).map f
    = bs.drop (bs.length - commonPrefixLength same as.reverse bs.reverse)
  := by
  have front := take_commonPrefixLength agree as.reverse bs.reverse
  rw [List.take_reverse, List.take_reverse, List.map_reverse] at front
  apply List.reverse_injective front

namespace LineCache

variable {t : LineTokenizer} {maxLength : Option Nat} {c : LineCache}

/-- The shared lines around the ones replaced make up the new text again. -/
theorem texts_around_shared (c : LineCache) (lines : List Text) :
  let same (line : CachedLine) (text : Text) : Bool := line.text = text
  let first := commonPrefixLength same c.lines lines
  let shared :=
    commonPrefixLength same (c.lines.drop first).reverse (lines.drop first).reverse
  c.texts.take first ++ (lines.drop first).take (lines.length - first - shared)
      ++ (c.texts.drop first).drop (c.lines.length - first - shared)
    = lines
  := by
  intro same first shared
  have agree : ∀ line text, same line text = true → line.text = text := by simp [same]
  have front := take_commonPrefixLength agree c.lines lines
  have back := drop_commonPrefixLength_reverse agree (c.lines.drop first) (lines.drop first)
  rw [List.length_drop, List.length_drop] at back
  rw [texts, ← List.map_take, ← List.map_drop, ← List.map_drop, front, back, List.append_assoc,
    List.take_append_drop, List.take_append_drop]

/-- Updating a full pass gives the cache of the new text, as if it were made afresh. -/
theorem IsFullPass.update? (pass : c.IsFullPass t maxLength) (text : Text) :
  (c.update? t text).map (·.1) = ofText? t maxLength text
  := by
  rw [ofText?_eq_fullPass?, ← texts_around_shared c text.lineContents]
  apply pass.applyChange?

/-- A change to a document: another text, or lines in place of others. -/
inductive Edit where
  | update (text : Text)
  | change (first removed : Nat) (inserted : List Text)

/-- The cache after a change. -/
def edit? (c : LineCache) (t : LineTokenizer) : Edit → Option LineCache
  | .update text => (c.update? t text).map (·.1)
  | .change first removed inserted => (c.applyChange? t first removed inserted).map (·.1)

/-- The cache of a text after changes made one after another. -/
def replay? (t : LineTokenizer) (maxLength : Option Nat) (text : Text) (edits : List Edit) :
    Option LineCache := do
  edits.foldlM (fun c e => c.edit? t e) (← ofText? t maxLength text)

/-- A change leaves a full pass, which a tokenizer that always answers arrives at. -/
theorem IsFullPass.exists_edit? (answers : ∀ line state stop, (t.run line state stop).isSome)
    (pass : c.IsFullPass t maxLength) (e : Edit) :
  ∃ new, c.edit? t e = some new ∧ new.IsFullPass t maxLength
  := by
  cases e with
  | update text =>
    obtain ⟨new, passed⟩ := exists_fullPass answers maxLength text.lineContents
    use new
    rw [edit?, pass.update?, ofText?_eq_fullPass?]
    exact ⟨passed, (fullPass?_eq_some_iff.mp passed).1⟩
  | change first removed inserted =>
    obtain ⟨new, passed⟩ := exists_fullPass answers maxLength
      (c.texts.take first ++ inserted ++ (c.texts.drop first).drop removed)
    use new
    rw [edit?, pass.applyChange?]
    exact ⟨passed, (fullPass?_eq_some_iff.mp passed).1⟩

/-- Changes made one after another to a full pass leave a full pass. -/
theorem IsFullPass.exists_foldlM (answers : ∀ line state stop, (t.run line state stop).isSome)
    (pass : c.IsFullPass t maxLength) (edits : List Edit) :
  ∃ new, edits.foldlM (fun c e => c.edit? t e) c = some new ∧ new.IsFullPass t maxLength
  := by
  induction edits generalizing c with
  | nil => exact ⟨c, rfl, pass⟩
  | cons e edits ih =>
    obtain ⟨next, changed, pass⟩ := pass.exists_edit? answers e
    obtain ⟨new, followed, pass⟩ := ih pass
    use new
    rw [List.foldlM_cons, changed]
    exact ⟨followed, pass⟩

/--
With a tokenizer that always answers, every history of changes leads to a cache, and this cache
is the one that a full pass over its lines gives.  One more update leads to the cache that is
made afresh for the new text, and one more change to the lines with the given ones in place of
those in the clamped range.
-/
theorem replay?_isFullPass (t : LineTokenizer)
    (answers : ∀ line state stop, (t.run line state stop).isSome) (maxLength : Option Nat)
    (text : Text) (edits : List Edit) :
  ∃ c, replay? t maxLength text edits = some c ∧ c.IsFullPass t maxLength
    ∧ fullPass? t maxLength c.texts = some c
    ∧ (∀ text, ∃ new touched, c.update? t text = some (new, touched)
        ∧ ofText? t maxLength text = some new ∧ new.texts = text.lineContents)
    ∧ ∀ first removed inserted, ∃ new touched,
        c.applyChange? t first removed inserted = some (new, touched)
        ∧ new.texts = c.texts.take (min first c.size) ++ inserted
            ++ c.texts.drop (min first c.size + min removed (c.size - min first c.size))
  := by
  obtain ⟨opened, passed⟩ := exists_fullPass answers maxLength text.lineContents
  obtain ⟨c, followed, pass⟩ :=
    (fullPass?_eq_some_iff.mp passed).1.exists_foldlM answers edits
  use c
  refine ⟨?_, pass, fullPass?_eq_some_iff.mpr ⟨pass, rfl⟩, ?_, ?_⟩
  · rw [replay?, ofText?_eq_fullPass?, passed]
    apply followed
  · intro text
    obtain ⟨whole, passed⟩ := exists_fullPass answers maxLength text.lineContents
    have updated := pass.update? text
    rw [ofText?_eq_fullPass?, passed, Option.map_eq_some_iff] at updated
    obtain ⟨⟨new, touched⟩, updated, rfl⟩ := updated
    use new, touched, updated
    rw [ofText?_eq_fullPass?]
    exact ⟨passed, (fullPass?_eq_some_iff.mp passed).2⟩
  · intro first removed inserted
    obtain ⟨whole, passed⟩ := exists_fullPass answers maxLength
      (c.texts.take first ++ inserted ++ (c.texts.drop first).drop removed)
    have changed := pass.applyChange? first removed inserted
    rw [passed, Option.map_eq_some_iff] at changed
    obtain ⟨⟨new, touched⟩, changed, rfl⟩ := changed
    use new, touched, changed
    have size_eq : c.texts.length = c.size := List.length_map _
    have taken : c.texts.take first = c.texts.take (min first c.size) := by
      apply List.take_eq_take_iff.mpr
      omega
    have dropped : c.texts.drop (first + removed)
        = c.texts.drop (min first c.size + min removed (c.size - min first c.size)) := by
      apply List.drop_eq_drop_iff.mpr
      omega
    rw [(fullPass?_eq_some_iff.mp passed).2, List.drop_drop, taken, dropped]

/-- A tokenizer of texts with fences: a line with a fence moves in or out of the fenced part. -/
def fenced : LineTokenizer where
  language := "notes"
  initial := .initial "open"
  run line state _ :=
    let type := if line = ['~'] then "fence" else state.current
    let next := if line = ['~'] then (if state.current = "open" then "fenced" else "open")
      else state.current
    some ⟨[⟨0, type⟩], [⟨0, "notes"⟩], line.byteSize, .initial next⟩

/-- The fences of a text may be moved, and lines cut out past its end. -/
theorem fenced_replay?_isFullPass :
  (∀ line state stop, (fenced.run line state stop).isSome)
    ∧ ∃ c, replay? fenced (some 4) "a\n~\nb\n~\nc".toList
        [.change 1 1 [], .update "~\na\nb\nc".toList, .change 2 7 ["~".toList, "d".toList],
          .change 9 3 ["e".toList]] = some c
      ∧ c.IsFullPass fenced (some 4) ∧ fullPass? fenced (some 4) c.texts = some c
  := by
  have answers : ∀ line state stop, (fenced.run line state stop).isSome := fun _ _ _ => rfl
  obtain ⟨c, replayed, pass, whole, -⟩ := replay?_isFullPass fenced answers (some 4)
    "a\n~\nb\n~\nc".toList
    [.change 1 1 [], .update "~\na\nb\nc".toList, .change 2 7 ["~".toList, "d".toList],
      .change 9 3 ["e".toList]]
  exact ⟨answers, c, replayed, pass, whole⟩

end LineCache

end EditorModes
