import EditorModes.Text.Basic
import Mathlib.Data.List.Basic
import Mathlib.Data.List.TakeWhile

/-!
# Taking texts apart

A byte offset names a cut of a text exactly when a prefix of the text has this many bytes.  Of the
cuts that are not behind an offset, the last one is found by going back byte by byte.  A
separator takes a text apart into a first piece without it and the text behind the separator, and
so on to the last piece, which has none behind it.
-/

namespace EditorModes

theorem utf16Width_pos (c : Char) :
  0 < utf16Width c
  := by
  unfold utf16Width
  split <;> omega

/-- Characters have no more UTF-16 units than bytes. -/
theorem utf16Width_le_utf8Size (c : Char) :
  utf16Width c ≤ c.utf8Size
  := by
  have positive := c.utf8Size_pos
  unfold utf16Width
  split
  · omega
  · next wide =>
    have several : c.utf8Size ≠ 1 := by
      intro single
      have small := UInt32.le_iff_toNat_le.mp (Char.utf8Size_eq_one_iff.mp single)
      change c.toNat ≤ 127 at small
      omega
    omega

/-- A character of one byte is one UTF-16 unit wide, and others have fewer units than bytes. -/
theorem utf16Width_eq_utf8Size_iff (c : Char) :
  utf16Width c = c.utf8Size ↔ c.utf8Size = 1
  := by
  have width_le := utf16Width_le_utf8Size c
  have positive := utf16Width_pos c
  constructor
  · intro same
    rw [utf16Width] at same
    split at same
    · exact same.symm
    · next wide =>
      have not_below (bound : UInt32) (small : bound.toNat < 0x10000) : ¬ c.val ≤ bound := by
        intro below
        apply wide
        exact Nat.lt_of_le_of_lt (UInt32.le_iff_toNat_le.mp below) small
      rw [Char.utf8Size, if_neg (not_below _ (by decide)), if_neg (not_below _ (by decide)),
        if_neg (not_below _ (by decide))] at same
      contradiction
  · intro single
    omega

namespace Text

/-! ### Measures -/

theorem byteSize_pos {t : Text} (nonempty : t ≠ []) :
  0 < t.byteSize
  := by
  have := t.length_le_byteSize
  have := List.length_pos_iff.mpr nonempty
  omega

@[simp]
theorem utf16Size_nil :
  utf16Size [] = 0
  := rfl

@[simp]
theorem utf16Size_cons (c : Char) (t : Text) :
  utf16Size (c :: t) = utf16Width c + utf16Size t
  := rfl

@[simp]
theorem utf16Size_append (s t : Text) :
  utf16Size (s ++ t) = utf16Size s + utf16Size t
  := by
  induction s with
  | nil => simp
  | cons c s ih => simp [ih, Nat.add_assoc]

/-- A text has UTF-16 units when it has characters. -/
theorem utf16Size_pos {t : Text} (nonempty : t ≠ []) :
  0 < t.utf16Size
  := by
  obtain ⟨c, t, rfl⟩ := List.exists_cons_of_ne_nil nonempty
  have := utf16Width_pos c
  rw [utf16Size_cons]
  omega

theorem utf16Size_le_byteSize (t : Text) :
  t.utf16Size ≤ t.byteSize
  := by
  induction t with
  | nil => simp
  | cons c t ih =>
    have := utf16Width_le_utf8Size c
    rw [utf16Size_cons, byteSize_cons]
    omega

/-- A text of characters of one byte has as many UTF-16 units as bytes, and no other text has. -/
theorem utf16Size_eq_byteSize_iff (t : Text) :
  t.utf16Size = t.byteSize ↔ ∀ c ∈ t, c.utf8Size = 1
  := by
  induction t with
  | nil => simp
  | cons c t ih =>
    have first_le := utf16Width_le_utf8Size c
    have rest_le := utf16Size_le_byteSize t
    rw [utf16Size_cons, byteSize_cons, List.forall_mem_cons, ← ih, ← utf16Width_eq_utf8Size_iff]
    omega

@[simp]
theorem length_indices (offset : Nat) (t : Text) :
  (t.indices offset).length = t.length
  := by
  induction t generalizing offset with
  | nil => rfl
  | cons c t ih => rw [indices, List.length_cons, ih, List.length_cons]

theorem indices_append (offset : Nat) (s t : Text) :
  indices offset (s ++ t) = s.indices offset ++ t.indices (offset + s.byteSize)
  := by
  induction s generalizing offset with
  | nil => rfl
  | cons c s ih =>
    rw [List.cons_append, indices, ih, byteSize_cons, Nat.add_assoc, indices, List.cons_append]

/-! ### Cuts -/

/-- A byte offset between two characters of a text, or at one of its ends. -/
def IsCut (t : Text) (offset : Nat) : Prop :=
  ∃ before after : Text, t = before ++ after ∧ before.byteSize = offset

theorem IsCut.le_byteSize {t : Text} {offset : Nat} (cut : t.IsCut offset) :
  offset ≤ t.byteSize
  := by
  obtain ⟨before, after, rfl, rfl⟩ := cut
  rw [byteSize_append]
  apply Nat.le_add_right

theorem IsCut.of_isPrefix {s t : Text} (part : s <+: t) :
  t.IsCut s.byteSize
  := by
  obtain ⟨after, rfl⟩ := part
  exact ⟨s, after, rfl, rfl⟩

theorem isCut_zero (t : Text) :
  t.IsCut 0
  := .of_isPrefix (List.nil_prefix (l := t))

theorem isCut_byteSize (t : Text) :
  t.IsCut t.byteSize
  := .of_isPrefix (List.prefix_refl t)

theorem byteSize_le_of_prefix {s t : Text} (part : s <+: t) :
  s.byteSize ≤ t.byteSize
  := (IsCut.of_isPrefix part).le_byteSize

/-- Of two prefixes of a text, the one of fewer bytes is a prefix of the other. -/
theorem prefix_of_byteSize_le {s r t : Text} (first : s <+: t) (second : r <+: t)
    (size_le : s.byteSize ≤ r.byteSize) :
  s <+: r
  := by
  rcases List.prefix_or_prefix_of_prefix first second with part | ⟨more, rfl⟩
  · exact part
  · obtain rfl : more = [] := by
      by_contra nonempty
      have := byteSize_pos nonempty
      rw [byteSize_append] at size_le
      omega
    simp

/-- A text is taken apart after so many bytes in one way. -/
theorem append_inj_of_byteSize_eq {s t r u : Text} (same : s ++ t = r ++ u)
    (size_eq : s.byteSize = r.byteSize) :
  s = r ∧ t = u
  := by
  obtain ⟨more, rfl⟩ : s <+: r := by
    apply prefix_of_byteSize_le (List.prefix_append s t) _ (Nat.le_of_eq size_eq)
    rw [same]
    apply List.prefix_append
  obtain rfl : more = [] := by
    by_contra nonempty
    have := byteSize_pos nonempty
    rw [byteSize_append] at size_eq
    omega
  rw [List.append_nil] at same ⊢
  exact ⟨rfl, List.append_cancel_left same⟩

/-- Wherever a text is taken apart, there is a cut. -/
theorem splitAt?_append (before after : Text) :
  (before ++ after).splitAt? before.byteSize = some (before, after)
  := by
  induction before with
  | nil => cases after <;> simp [splitAt?]
  | cons c before ih =>
    have positive := c.utf8Size_pos
    obtain ⟨size, size_eq⟩ : ∃ n, c.utf8Size + byteSize before = n + 1 := by
      use c.utf8Size + byteSize before - 1
      omega
    have rest : size + 1 - c.utf8Size = byteSize before := by omega
    rw [List.cons_append, byteSize_cons, size_eq, splitAt?, if_pos (by omega), rest, ih]
    rfl

/-- Behind a part of a text, it is taken apart where the rest is. -/
theorem splitAt?_append_add (s t : Text) (n : Nat) :
  (s ++ t).splitAt? (s.byteSize + n)
    = (t.splitAt? n).map fun (before, after) => (s ++ before, after)
  := by
  induction s with
  | nil => simp
  | cons c s ih =>
    have positive := c.utf8Size_pos
    obtain ⟨k, size_eq⟩ : ∃ k, c.utf8Size + byteSize s + n = k + 1 := by
      use c.utf8Size + byteSize s + n - 1
      omega
    have rest : k + 1 - c.utf8Size = byteSize s + n := by omega
    rw [List.cons_append, byteSize_cons, size_eq, splitAt?, if_pos (by omega), rest, ih,
      Option.map_map]
    rfl

/-- The cuts of a text are where it is taken apart. -/
theorem splitAt?_eq_some_iff {t before after : Text} {n : Nat} :
  t.splitAt? n = some (before, after) ↔ t = before ++ after ∧ before.byteSize = n
  := by
  constructor
  · intro cut
    fun_induction splitAt? t n generalizing before after with
    | case1 t =>
      obtain ⟨rfl, rfl⟩ := Prod.mk.inj (Option.some.inj cut)
      exact ⟨rfl, rfl⟩
    | case2 n => simp at cut
    | case3 c t n fits ih =>
      obtain ⟨⟨before, after⟩, inner, parts_eq⟩ := Option.map_eq_some_iff.mp cut
      obtain ⟨rfl, rfl⟩ := Prod.mk.inj parts_eq
      obtain ⟨rfl, size_eq⟩ := ih inner
      use rfl
      rw [byteSize_cons]
      omega
    | case4 c t n inside => simp at cut
  · rintro ⟨rfl, rfl⟩
    apply splitAt?_append

/-- The longest prefix of at most so many bytes is a prefix. -/
theorem takeBytes_prefix (t : Text) (n : Nat) :
  t.takeBytes n <+: t
  := by
  induction t generalizing n with
  | nil => simp [takeBytes, splitFloor]
  | cons c t ih =>
    rw [takeBytes, splitFloor]
    split
    · apply List.cons_prefix_cons.mpr
      use rfl
      apply ih
    · simp

/-- At a cut, the part before it is the longest prefix of at most so many bytes. -/
theorem takeBytes_append (before after : Text) :
  (before ++ after).takeBytes before.byteSize = before
  := by
  induction before with
  | nil =>
    cases after with
    | nil => rfl
    | cons c after =>
      have positive := c.utf8Size_pos
      rw [takeBytes, List.nil_append, byteSize_nil, splitFloor, if_neg (by omega)]
  | cons c before ih =>
    rw [takeBytes] at ih
    rw [takeBytes, List.cons_append, byteSize_cons, splitFloor, if_pos (by omega)]
    simp [ih]

/-- Two cuts one behind the other take a text apart into three. -/
theorem exists_between_of_isCut {t : Text} {first last : Nat} (firstCut : t.IsCut first)
    (lastCut : t.IsCut last) (in_order : first < last) :
  ∃ before between after : Text, t = before ++ between ++ after ∧ between ≠ []
    ∧ before.byteSize = first ∧ (before ++ between).byteSize = last
  := by
  obtain ⟨before, rest, rfl, rfl⟩ := firstCut
  obtain ⟨upTo, after, parts_eq, rfl⟩ := lastCut
  have upTo_prefix : upTo <+: before ++ rest := by
    rw [parts_eq]
    apply List.prefix_append
  obtain ⟨between, rfl⟩ :=
    prefix_of_byteSize_le (List.prefix_append before rest) upTo_prefix (by omega)
  refine ⟨before, between, after, parts_eq, ?_, rfl, rfl⟩
  rintro rfl
  simp at in_order

/-- What is between two cuts is the slice from the one to the other. -/
theorem slice?_append (before between after : Text) :
  (before ++ between ++ after).slice? before.byteSize (before ++ between).byteSize
    = some between
  := by
  have in_order : ¬ (before ++ between).byteSize < before.byteSize := by
    rw [byteSize_append]
    omega
  rw [slice?, if_neg in_order, splitAt?_append]
  simp only [Option.bind_eq_bind, Option.bind_some, splitAt?_append, Option.pure_def]

/-- A text that is taken apart inside a part of it, or at one of its ends, takes the part apart. -/
theorem exists_cut_inside {before run after left right : Text}
    (same : left ++ right = before ++ run ++ after) (first : before.byteSize ≤ left.byteSize)
    (last : left.byteSize ≤ (before ++ run).byteSize) :
  ∃ earlier later : Text, run = earlier ++ later ∧ left = before ++ earlier
    ∧ right = later ++ after
  := by
  have left_prefix : left <+: before ++ run ++ after := ⟨right, same⟩
  obtain ⟨earlier, rfl⟩ : before <+: left :=
    prefix_of_byteSize_le ⟨run ++ after, by simp⟩ left_prefix first
  obtain ⟨later, parts⟩ : before ++ earlier <+: before ++ run :=
    prefix_of_byteSize_le left_prefix (List.prefix_append _ _) last
  rw [List.append_assoc] at parts
  obtain rfl := List.append_cancel_left parts
  refine ⟨earlier, later, rfl, rfl, ?_⟩
  rw [List.append_assoc, List.append_assoc, List.append_cancel_left_eq, List.append_assoc] at same
  exact List.append_cancel_left same

/-- What stands between two cuts inside a part of a text is a part of that. -/
theorem exists_between_inside {before run after : Text} {first last : Nat}
    (firstCut : (before ++ run ++ after).IsCut first)
    (lastCut : (before ++ run ++ after).IsCut last) (start_le : before.byteSize ≤ first)
    (in_order : first ≤ last) (le_stop : last ≤ (before ++ run).byteSize) :
  ∃ earlier between later : Text, run = earlier ++ between ++ later
    ∧ (before ++ earlier).byteSize = first ∧ (before ++ earlier ++ between).byteSize = last
  := by
  obtain ⟨left, right, same, rfl⟩ := firstCut
  obtain ⟨earlier, rest, rfl, rfl, rfl⟩ :=
    exists_cut_inside same.symm start_le (in_order.trans le_stop)
  obtain ⟨left, right, same, rfl⟩ := lastCut
  rw [← List.append_assoc] at same le_stop
  obtain ⟨between, later, rfl, rfl, rfl⟩ := exists_cut_inside same.symm in_order le_stop
  exact ⟨earlier, between, later, by simp, rfl, rfl⟩

/-! ### The last cut before an offset -/

/-- A cut of a text with one more character in front is before the character or one behind it. -/
theorem isCut_cons {c : Char} {t : Text} {n : Nat} (cut : IsCut (c :: t) n) :
  n = 0 ∨ ∃ further, t.IsCut further ∧ n = c.utf8Size + further
  := by
  obtain ⟨before, after, parts, rfl⟩ := cut
  cases before with
  | nil => exact .inl rfl
  | cons d before =>
    obtain ⟨rfl, rfl⟩ := List.cons.inj parts
    exact .inr ⟨byteSize before, ⟨before, after, rfl, rfl⟩, byteSize_cons _ _⟩

/-- A text is taken apart at the last cut that is not behind an offset. -/
theorem splitFloor_spec (t : Text) (n : Nat) :
  t = (t.splitFloor n).1 ++ (t.splitFloor n).2 ∧ (t.splitFloor n).1.byteSize ≤ n
    ∧ ∀ cut, t.IsCut cut → cut ≤ n → cut ≤ (t.splitFloor n).1.byteSize
  := by
  induction t generalizing n with
  | nil =>
    refine ⟨rfl, Nat.zero_le _, fun cut isCut _ => ?_⟩
    exact isCut.le_byteSize
  | cons c t ih =>
    rw [splitFloor]
    split
    · next fits =>
      obtain ⟨parts, size_le, greatest⟩ := ih (n - c.utf8Size)
      refine ⟨congrArg (c :: ·) parts, ?_, fun cut isCut cut_le => ?_⟩
      · rw [byteSize_cons]
        omega
      · rcases isCut_cons isCut with rfl | ⟨further, behind, rfl⟩
        · apply Nat.zero_le
        · rw [byteSize_cons]
          exact Nat.add_le_add_left (greatest further behind (by omega)) _
    · next inside =>
      refine ⟨rfl, Nat.zero_le _, fun cut isCut cut_le => ?_⟩
      rcases isCut_cons isCut with rfl | ⟨further, -, rfl⟩
      · exact Nat.le_refl _
      · omega

/-- The last cut that is not behind an offset, looked for one byte after another. -/
def floorCut (t : Text) : Nat → Nat
  | 0 => 0
  | n + 1 => if (t.splitAt? (n + 1)).isSome then n + 1 else t.floorCut n

/-- A text can be taken apart at its cuts. -/
theorem isSome_splitAt?_iff {t : Text} {n : Nat} :
  (t.splitAt? n).isSome ↔ t.IsCut n
  := by
  rw [Option.isSome_iff_exists]
  constructor
  · rintro ⟨⟨before, after⟩, cut⟩
    obtain ⟨rfl, rfl⟩ := splitAt?_eq_some_iff.mp cut
    exact ⟨before, after, rfl, rfl⟩
  · rintro ⟨before, after, rfl, rfl⟩
    exact ⟨_, splitAt?_append before after⟩

/-- Looking for the last cut comes to where the text is taken apart. -/
theorem floorCut_eq {t : Text} {n i : Nat} (between : (t.splitFloor n).1.byteSize ≤ i) (i_le : i ≤ n) :
  t.floorCut i = (t.splitFloor n).1.byteSize
  := by
  obtain ⟨parts, -, greatest⟩ := splitFloor_spec t n
  have isCut : t.IsCut (t.splitFloor n).1.byteSize := ⟨_, _, parts, rfl⟩
  induction i with
  | zero => exact (Nat.le_zero.mp between).symm
  | succ i ih =>
    rw [floorCut]
    split
    · next cut =>
      have := greatest (i + 1) (isSome_splitAt?_iff.mp cut) i_le
      omega
    · next inside =>
      rcases Nat.lt_or_eq_of_le between with below | here
      · exact ih (by omega) (by omega)
      · rw [here] at isCut
        exact absurd (isSome_splitAt?_iff.mpr isCut) inside

/-! ### Characters of a class at the ends -/

/-- Before the longest suffix of characters in a class stands none of them. -/
theorem exists_suffixWhile (p : Char → Bool) (t : Text) :
  ∃ before, t = before ++ t.suffixWhile p ∧ (∀ c ∈ t.suffixWhile p, p c = true)
    ∧ ∀ c ∈ before.getLast?, p c = false
  := by
  refine ⟨(t.reverse.dropWhile p).reverse, ?_, ?_, ?_⟩
  · rw [suffixWhile, ← List.reverse_append, List.takeWhile_append_dropWhile, List.reverse_reverse]
  · intro c among
    exact List.mem_takeWhile_imp (List.mem_reverse.mp among)
  · have ends := List.head?_dropWhile_not p t.reverse
    intro c last
    rw [List.getLast?_reverse] at last
    rw [last] at ends
    exact ends

/-- The characters of a class at the start of a text go up to one that is in none. -/
theorem takeWhile_run_append {p : Char → Bool} {run after : Text} (all : ∀ c ∈ run, p c = true)
    (stops : ∀ c ∈ after.head?, p c = false) :
  (run ++ after).takeWhile p = run
  := by
  have none_behind : after.takeWhile p = [] := by
    cases after with
    | nil => rfl
    | cons c after => rw [List.takeWhile_cons, stops c rfl, if_neg Bool.false_ne_true]
  rw [List.takeWhile_append_of_pos all, none_behind, List.append_nil]

theorem suffixWhile_append_run {p : Char → Bool} {before run : Text}
    (all : ∀ c ∈ run, p c = true) (starts : ∀ c ∈ before.getLast?, p c = false) :
  (before ++ run).suffixWhile p = run
  := by
  rw [suffixWhile, List.reverse_append, takeWhile_run_append, List.reverse_reverse]
  · exact fun c among => all c (List.mem_reverse.mp among)
  · rwa [List.head?_reverse]

theorem map_snd_indices (offset : Nat) (t : Text) :
  (t.indices offset).map (·.2) = t
  := by
  induction t generalizing offset with
  | nil => rfl
  | cons c t ih => rw [indices, List.map_cons, ih]

/-- From its end on, a text is passed over up to a character that is not in a class. -/
theorem indices_suffix {p : Char → Bool} {before suffix : Text}
    (all : ∀ c ∈ suffix, p c = true) (last : ∀ c ∈ before.getLast?, p c = false) :
  ((before ++ suffix).indices 0).reverse.takeWhile (fun c => p c.2)
      = (suffix.indices before.byteSize).reverse
    ∧ ((before ++ suffix).indices 0).reverse.find? (fun c => !p c.2) = (before.indices 0).getLast?
  := by
  have all_pass : ∀ c ∈ (suffix.indices before.byteSize).reverse, p c.2 = true := by
    intro c among
    apply all
    rw [← map_snd_indices before.byteSize suffix]
    exact List.mem_map_of_mem (List.mem_reverse.mp among)
  have none_found : (suffix.indices before.byteSize).reverse.find? (fun c => !p c.2) = none := by
    rw [List.find?_eq_none]
    intro c among
    simp [all_pass c among]
  rw [indices_append, Nat.zero_add, List.reverse_append, List.takeWhile_append_of_pos all_pass,
    List.find?_append, none_found, Option.none_or]
  rcases List.eq_nil_or_concat before with rfl | ⟨first, c, rfl⟩
  · simp [indices]
  · have ends : p c = false := last c (by simp)
    rw [List.concat_eq_append, indices_append]
    simp [indices, ends]

/-! ### Pieces -/

variable {separator : Char} {piece : Text}

theorem splitOnChar_of_notMem (whole : separator ∉ piece) :
  piece.splitOnChar separator = [piece]
  := by
  induction piece with
  | nil => rfl
  | cons c piece ih =>
    obtain ⟨other, whole⟩ := List.ne_and_not_mem_of_not_mem_cons whole
    rw [splitOnChar, if_neg (Ne.symm other), ih whole]

theorem splitOnChar_append (whole : separator ∉ piece) (rest : Text) :
  (piece ++ separator :: rest).splitOnChar separator = piece :: rest.splitOnChar separator
  := by
  induction piece with
  | nil => rw [List.nil_append, splitOnChar, if_pos rfl]
  | cons c piece ih =>
    obtain ⟨other, whole⟩ := List.ne_and_not_mem_of_not_mem_cons whole
    rw [List.cons_append, splitOnChar, if_neg (Ne.symm other), ih whole]

/-- What holds of the last piece, and of a text with one more piece in front, holds of a text. -/
theorem piece_induction {Holds : Text → Prop} (separator : Char)
    (last : ∀ piece, separator ∉ piece → Holds piece)
    (more : ∀ piece rest, separator ∉ piece → Holds rest → Holds (piece ++ separator :: rest))
    (t : Text) :
  Holds t
  := by
  induction size : t.length using Nat.strongRecOn generalizing t with
  | _ n ih =>
  by_cases among : separator ∈ t
  · obtain ⟨piece, rest, rfl, whole⟩ := List.eq_append_cons_of_mem among
    apply more piece rest whole
    refine ih _ ?_ rest rfl
    rw [← size, List.length_append, List.length_cons]
    omega
  · apply last t among

end Text

end EditorModes
