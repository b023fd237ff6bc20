import EditorModes.Proofs.Document.Incremental
import Mathlib.Data.List.Forall2

/-!
# The lines that are tokenized again

A change to a line cache reports a range of lines: those that stand in place of the removed ones,
and as many behind them as start in another state than before.  All lines outside of the range are
what they were (`LineCache.retokenized_range`).  When a whole text is given, only the lines between
those shared at the two ends are replaced.
-/

namespace EditorModes

/-! ### Refreshing lines -/

namespace LineTokenizer

/-- A line was tokenized again because it starts in another state now. -/
def Restarted (line was : CachedLine) : Prop :=
  line.text = was.text ∧ line.startState ≠ was.startState

variable {t : LineTokenizer} {maxLength : Option Nat}

/-- Of lines that are refreshed, the first ones are restarted and the others stay as they are. -/
theorem exists_restarted {state : LexerState} {lines settled : List CachedLine} {count : Nat}
    (refreshed : t.refresh? maxLength state lines = some (settled, count)) :
  ∃ again was back, lines = was ++ back ∧ settled = again ++ back ∧ again.length = count
    ∧ List.Forall₂ Restarted again was
  := by
  induction lines generalizing state settled count with
  | nil =>
    obtain ⟨rfl, rfl⟩ := Prod.mk.inj (Option.some.inj refreshed)
    use [], [], []
    simp
  | cons line lines ih =>
    rw [refresh?] at refreshed
    split at refreshed
    · obtain ⟨rfl, rfl⟩ := Prod.mk.inj (Option.some.inj refreshed)
      use [], [], line :: lines
      simp
    · next changed =>
      simp only [Option.bind_eq_bind, Option.bind_eq_some_iff, Option.pure_def,
        Option.some.injEq, Prod.mk.injEq, Prod.exists] at refreshed
      obtain ⟨fresh, first, rest, others, further, rfl, rfl⟩ := refreshed
      obtain ⟨again, was, back, rfl, rfl, rfl, restarted⟩ := ih further
      obtain ⟨text_eq, start_eq, -⟩ := cacheLine?_eq_some_iff.mp first
      use fresh :: again, line :: was, back
      refine ⟨rfl, rfl, rfl, .cons ⟨text_eq, ?_⟩ restarted⟩
      rw [start_eq]
      apply Ne.symm changed

/-- A tokenizer that always answers refreshes any lines. -/
theorem isSome_refresh? (answers : ∀ line state stop, (t.run line state stop).isSome)
    (state : LexerState) (lines : List CachedLine) :
  (t.refresh? maxLength state lines).isSome
  := by
  induction lines generalizing state with
  | nil => rfl
  | cons line lines ih =>
    rw [refresh?]
    split
    · rfl
    · obtain ⟨tokens, found⟩ :=
        Option.isSome_iff_exists.mp (answers line.text state (stopFor maxLength line.text))
      obtain ⟨others, rest⟩ := Option.isSome_iff_exists.mp (ih tokens.endState)
      simp [cacheLine?, found, rest]

end LineTokenizer

namespace LineCache

open LineTokenizer

variable {c new : LineCache} {t : LineTokenizer} {touched : LineRange}

/-- A change takes the lines apart around those removed and those that are restarted. -/
theorem exists_of_applyChange? {first removed : Nat} {inserted : List Text}
    (changed : c.applyChange? t first removed inserted = some (new, touched)) :
  ∃ before gone was back fresh again,
    c.lines = before ++ (gone ++ (was ++ back)) ∧ new.lines = before ++ (fresh ++ (again ++ back))
      ∧ before.length = min first c.size
      ∧ gone.length = min removed (c.size - min first c.size)
      ∧ fresh.map (·.text) = inserted ∧ List.Forall₂ Restarted again was
      ∧ touched = ⟨before.length, before.length + fresh.length + again.length⟩
  := by
  simp only [applyChange?, Option.bind_eq_bind, Option.bind_eq_some_iff, Option.pure_def,
    Option.some.injEq, Prod.mk.injEq, Prod.exists] at changed
  obtain ⟨fresh, state, cached, settled, count, refreshed, rfl, rfl⟩ := changed
  obtain ⟨-, texts_eq, -⟩ := cacheLines?_eq_some_iff.mp cached
  obtain ⟨again, was, back, after_eq, rfl, rfl, restarted⟩ := exists_restarted refreshed
  use c.lines.take first, (c.lines.drop first).take removed, was, back, fresh, again
  refine ⟨?_, ?_, ?_, ?_, texts_eq, restarted, rfl⟩
  · rw [← after_eq, List.take_append_drop, List.take_append_drop]
  · rw [List.append_assoc]
  · rw [List.length_take, size]
  · rw [List.length_take, List.length_drop, size]
    omega

/-- A tokenizer that always answers makes each change. -/
theorem exists_applyChange? (answers : ∀ line state stop, (t.run line state stop).isSome)
    (c : LineCache) (first removed : Nat) (inserted : List Text) :
  ∃ new touched, c.applyChange? t first removed inserted = some (new, touched)
  := by
  have cacheable (start : LexerState) : (t.cacheLines? c.maxLength start inserted).isSome :=
    isSome_cacheLines? answers start inserted
  have refreshable (state : LexerState) :
      (t.refresh? c.maxLength state ((c.lines.drop first).drop removed)).isSome :=
    isSome_refresh? answers state _
  obtain ⟨⟨fresh, state⟩, cached⟩ := Option.isSome_iff_exists.mp
    (cacheable (((c.lines.take first).getLast?.map (·.tokens.endState)).getD t.initial))
  obtain ⟨⟨settled, count⟩, refreshed⟩ := Option.isSome_iff_exists.mp (refreshable state)
  simp only [applyChange?, cached, refreshed, Option.bind_eq_bind, Option.bind_some,
    Option.pure_def]
  exact ⟨_, _, rfl⟩

/-! ### The reported range -/

/--
The lines of a cache before and after `removed` of them from `first` on were replaced by
`inserted`, where those in `touched` were tokenized.  The line at a number behind the inserted ones
was at this number less the inserted and plus the removed ones.
-/
structure Retokenizes (c new : LineCache) (first removed : Nat) (inserted : List Text)
    (touched : LineRange) : Prop where
  first_eq : touched.first = first
  inserted_le : first + inserted.length ≤ touched.stop
  stop_le : touched.stop ≤ new.size
  size_eq : new.size + removed = c.size + inserted.length
  text_inserted : ∀ (k : Nat) text, inserted[k]? = some text →
    (new.lines[first + k]?).map (·.text) = some text
  before_eq : ∀ k < touched.first, new.lines[k]? = c.lines[k]?
  behind_eq : ∀ k ≥ touched.stop, new.lines[k]? = c.lines[k - inserted.length + removed]?
  restarted : ∀ k ≥ first + inserted.length, k < touched.stop →
    ∃ line was, new.lines[k]? = some line ∧ c.lines[k - inserted.length + removed]? = some was
      ∧ Restarted line was

/-- Members behind two parts of a list are those behind the second part. -/
theorem getElem?_behind {α : Type} {front middle back : List α} {k : Nat}
    (behind : front.length + middle.length ≤ k) :
  (front ++ (middle ++ back))[k]? = back[k - (front.length + middle.length)]?
  := by
  rw [List.getElem?_append_right (by omega), List.getElem?_append_right (by omega)]
  congr 1
  omega

/-- What a change reports of the lines is so. -/
theorem retokenizes_of_applyChange? {first removed : Nat} {inserted : List Text}
    (changed : c.applyChange? t first removed inserted = some (new, touched)) :
  c.Retokenizes new (min first c.size) (min removed (c.size - min first c.size)) inserted touched
  := by
  obtain ⟨before, gone, was, back, fresh, again, old_eq, new_eq, before_eq, gone_eq, rfl,
    restarted, rfl⟩ := exists_of_applyChange? changed
  rw [← gone_eq, ← before_eq]
  have length_eq := restarted.length_eq
  constructor
  · rfl
  · rw [List.length_map]
    apply Nat.le_add_right
  · rw [size, new_eq]
    simp only [List.length_append]
    omega
  · rw [size, size, old_eq, new_eq]
    simp only [List.length_append, List.length_map]
    omega
  · intro k text among
    rw [List.getElem?_map] at among
    obtain ⟨line, found, rfl⟩ := Option.map_eq_some_iff.mp among
    have within : k < fresh.length := (List.getElem?_eq_some_iff.mp found).1
    rw [new_eq, List.getElem?_append_right (by omega), Nat.add_sub_cancel_left,
      List.getElem?_append_left within, found]
    rfl
  · intro k sooner
    rw [new_eq, old_eq, List.getElem?_append_left sooner, List.getElem?_append_left sooner]
  · intro k behind
    dsimp only at behind
    rw [List.length_map, new_eq, old_eq, getElem?_behind (by omega), getElem?_behind (by omega),
      List.getElem?_append_right (by omega), List.getElem?_append_right (by omega)]
    congr 1
    omega
  · intro k behind within
    rw [List.length_map] at behind ⊢
    dsimp only at within
    obtain ⟨n, rfl⟩ : ∃ n, k = before.length + fresh.length + n :=
      ⟨k - (before.length + fresh.length), by omega⟩
    have inside : n < again.length := by omega
    have along : n < was.length := by omega
    use again[n], was[n]
    refine ⟨?_, ?_, restarted.get inside along⟩
    · rw [new_eq, getElem?_behind (by omega), Nat.add_sub_cancel_left,
        List.getElem?_append_left inside, List.getElem?_eq_getElem inside]
    · rw [old_eq, getElem?_behind (by omega), List.getElem?_append_left (by omega)]
      rw [List.getElem?_eq_some_iff]
      use by omega
      congr 1
      omega

end LineCache

/-! ### Lines shared at the two ends -/

section

variable {α β : Type} {f : α → β} {same : α → β → Bool}

/-- Two lists share no more members at their start than the second has. -/
theorem commonPrefixLength_le (same : α → β → Bool) (as : List α) (bs : List β) :
  commonPrefixLength same as bs ≤ bs.length
  := by
  induction as generalizing bs with
  | nil => simp [commonPrefixLength]
  | cons a as ih =>
    cases bs with
    | nil => simp [commonPrefixLength]
    | cons b bs =>
      have := ih bs
      simp only [commonPrefixLength, List.length_cons]
      split <;> omega

/-- There are no more members that two lists share at their start. -/
theorem isPrefix_of_shared (complete : ∀ a b, f a = b → same a b = true) {as : List α}
    {bs shared : List β} (first : shared <+: as.map f) (second : shared <+: bs) :
  shared <+: bs.take (commonPrefixLength same as bs)
  := by
  induction as generalizing bs shared with
  | nil =>
    obtain rfl := List.prefix_nil.mp first
    apply List.nil_prefix
  | cons a as ih =>
    cases shared with
    | nil => apply List.nil_prefix
    | cons b shared =>
      cases bs with
      | nil => cases List.prefix_nil.mp second
      | cons b' bs =>
        obtain ⟨rfl, others⟩ := List.cons_prefix_cons.mp first
        obtain ⟨rfl, rest⟩ := List.cons_prefix_cons.mp second
        rw [commonPrefixLength, if_pos (complete a _ rfl), List.take_succ_cons]
        apply List.cons_prefix_cons.mpr
        exact ⟨rfl, ih others rest⟩

/-- Two lists are taken apart behind the longest prefix that they share. -/
theorem exists_shared_prefix (agree : ∀ a b, same a b = true → f a = b)
    (complete : ∀ a b, f a = b → same a b = true) (as : List α) (bs : List β) :
  ∃ front, as.map f = front ++ (as.drop (commonPrefixLength same as bs)).map f
    ∧ bs = front ++ bs.drop (commonPrefixLength same as bs)
    ∧ front.length = commonPrefixLength same as bs
    ∧ ∀ shared, shared <+: as.map f → shared <+: bs → shared <+: front
  := by
  use bs.take (commonPrefixLength same as bs)
  refine ⟨?_, ?_, ?_, ?_⟩
  · rw [← take_commonPrefixLength agree, ← List.map_append, List.take_append_drop]
  · rw [List.take_append_drop]
  · rw [List.length_take, Nat.min_eq_left (commonPrefixLength_le same as bs)]
  · intro shared first second
    apply isPrefix_of_shared complete first second

/-- Two lists are taken apart before the longest suffix that they share. -/
theorem exists_shared_suffix (agree : ∀ a b, same a b = true → f a = b)
    (complete : ∀ a b, f a = b → same a b = true) (as : List α) (bs : List β) :
  ∃ back,
    as.map f
        = (as.take (as.length - commonPrefixLength same as.reverse bs.reverse)).map f ++ back
      ∧ bs = bs.take (bs.length - commonPrefixLength same as.reverse bs.reverse) ++ back
      ∧ ∀ shared, shared <:+ as.map f → shared <:+ bs → shared <:+ back
  := by
  use bs.drop (bs.length - commonPrefixLength same as.reverse bs.reverse)
  refine ⟨?_, ?_, ?_⟩
  · rw [← drop_commonPrefixLength_reverse agree, ← List.map_append, List.take_append_drop]
  · rw [List.take_append_drop]
  · intro shared first second
    rw [← List.reverse_prefix] at first second ⊢
    rw [← List.map_reverse] at first
    have longest := isPrefix_of_shared complete first second
    rwa [List.take_reverse] at longest

end

namespace LineCache

variable {c : LineCache} {t : LineTokenizer}

/--
An update replaces the lines that are left after the longest prefix that the old and the new lines
share, and then the longest suffix that the remaining ones share.
-/
theorem exists_of_update? (c : LineCache) (t : LineTokenizer) (text : Text) :
  ∃ front old fresh back, c.texts = front ++ (old ++ back)
    ∧ text.lineContents = front ++ (fresh ++ back)
    ∧ (∀ shared, shared <+: c.texts → shared <+: text.lineContents → shared <+: front)
    ∧ (∀ shared, shared <:+ old ++ back → shared <:+ fresh ++ back → shared <:+ back)
    ∧ c.update? t text = c.applyChange? t front.length old.length fresh
  := by
  let same (line : CachedLine) (text : Text) : Bool := line.text = text
  have agree : ∀ line text, same line text = true → line.text = text := by simp [same]
  have complete : ∀ line text, CachedLine.text line = text → same line text = true := by
    simp [same]
  let first := commonPrefixLength same c.lines text.lineContents
  obtain ⟨front, old_front, new_front, front_length, longest_front⟩ :=
    exists_shared_prefix agree complete c.lines text.lineContents
  obtain ⟨back, old_back, new_back, longest_back⟩ :=
    exists_shared_suffix agree complete (c.lines.drop first) (text.lineContents.drop first)
  rw [old_back] at old_front
  rw [new_back] at new_front
  refine ⟨front, _, _, back, old_front, new_front, longest_front, ?_, ?_⟩
  · rwa [← old_back, ← new_back]
  · rw [front_length, List.length_map, List.length_take, List.length_drop, List.length_drop,
      Nat.min_eq_left (Nat.sub_le _ _)]
    rfl

/-- A change puts the inserted lines in the place of the removed ones. -/
theorem texts_of_applyChange? {front old back inserted : List Text} {touched : LineRange}
    {new : LineCache} (texts_eq : c.texts = front ++ (old ++ back))
    (changed : c.applyChange? t front.length old.length inserted = some (new, touched)) :
  new.texts = front ++ (inserted ++ back)
  := by
  obtain ⟨before, gone, was, behind, fresh, again, old_eq, new_eq, before_eq, gone_eq, rfl,
    restarted, -⟩ := exists_of_applyChange? changed
  have same : again.map (·.text) = was.map (·.text) := by
    rw [← List.forall₂_eq_eq_eq, List.forall₂_map_left_iff, List.forall₂_map_right_iff]
    apply restarted.imp
    intro line other restart
    exact restart.1
  have size_eq := congrArg List.length texts_eq
  rw [texts, List.length_map, List.length_append, List.length_append] at size_eq
  rw [size] at before_eq gone_eq
  rw [texts, old_eq, List.map_append] at texts_eq
  obtain ⟨rfl, others⟩ := List.append_inj texts_eq (by rw [List.length_map]; omega)
  rw [List.map_append] at others
  obtain ⟨-, rfl⟩ := List.append_inj others (by rw [List.length_map]; omega)
  simp [texts, new_eq, same]

theorem texts_of_update? {text : Text} {new : LineCache} {touched : LineRange}
    (updated : c.update? t text = some (new, touched)) :
  new.texts = text.lineContents
  := by
  obtain ⟨front, old, fresh, back, old_eq, new_eq, -, -, update_eq⟩ := exists_of_update? c t text
  rw [update_eq] at updated
  rw [new_eq]
  apply texts_of_applyChange? old_eq updated

theorem applyChange?_nothing (c : LineCache) (t : LineTokenizer) :
  c.applyChange? t c.size 0 [] = some (c, ⟨c.size, c.size⟩)
  := by
  simp [applyChange?, size, LineTokenizer.cacheLines?, LineTokenizer.refresh?]

/-- An update with the lines that are there changes nothing. -/
theorem update?_of_texts_eq {text : Text} (same : text.lineContents = c.texts) :
  c.update? t text = some (c, ⟨c.size, c.size⟩)
  := by
  obtain ⟨front, old, fresh, back, old_eq, new_eq, longest, -, updated⟩ :=
    exists_of_update? c t text
  have shared : c.texts <+: text.lineContents := same ▸ List.prefix_rfl
  have whole := longest c.texts List.prefix_rfl shared
  have long := whole.length_le
  rw [same] at new_eq
  have old_length := congrArg List.length old_eq
  have new_length := congrArg List.length new_eq
  rw [List.length_append, List.length_append] at old_length new_length
  obtain rfl : old = [] := List.length_eq_zero_iff.mp (by omega)
  obtain rfl : fresh = [] := List.length_eq_zero_iff.mp (by omega)
  have front_length : front.length = c.size := by
    rw [texts, List.length_map] at long old_length
    rw [size]
    omega
  rw [updated, front_length]
  apply applyChange?_nothing

/--
The range that a change reports starts with the lines that are replaced and covers those that are
inserted; the lines before it and from its end on are what they were, and the lines in it that were
not inserted start in another state than before.  A tokenizer that always answers makes each
change.  An update is the change of the lines that are left between the longest prefix and then
the longest suffix shared with the new lines; it leads to the lines of its text, and with the text
whose lines are there it changes nothing.
-/
theorem retokenized_range (c : LineCache) (t : LineTokenizer) :
  (∀ first removed inserted new touched,
      c.applyChange? t first removed inserted = some (new, touched) →
      c.Retokenizes new (min first c.size) (min removed (c.size - min first c.size)) inserted
        touched)
    ∧ ((∀ line state stop, (t.run line state stop).isSome) → ∀ first removed inserted,
      ∃ new touched, c.applyChange? t first removed inserted = some (new, touched))
    ∧ (∀ text, ∃ front old fresh back, c.texts = front ++ (old ++ back)
      ∧ text.lineContents = front ++ (fresh ++ back)
      ∧ (∀ shared, shared <+: c.texts → shared <+: text.lineContents → shared <+: front)
      ∧ (∀ shared, shared <:+ old ++ back → shared <:+ fresh ++ back → shared <:+ back)
      ∧ c.update? t text = c.applyChange? t front.length old.length fresh)
    ∧ (∀ text new touched, c.update? t text = some (new, touched) → new.texts = text.lineContents)
    ∧ ∀ text, text.lineContents = c.texts → c.update? t text = some (c, ⟨c.size, c.size⟩)
  := by
  refine ⟨?_, ?_, exists_of_update? c t, ?_, ?_⟩
  · intro first removed inserted new touched changed
    apply retokenizes_of_applyChange? changed
  · intro answers first removed inserted
    apply exists_applyChange? answers
  · intro text new touched updated
    apply texts_of_update? updated
  · intro text same
    apply update?_of_texts_eq same

/-- Without the fence in the second line, all lines behind it start in another state. -/
example :
    ((ofText? fenced none "a\n~\nb\n~\nc".toList).bind fun c =>
      (c.applyChange? fenced 1 1 []).map (·.2)) = some ⟨1, 4⟩ := by
  decide

end LineCache

end EditorModes
