import EditorModes.Proofs.Regex.Bracket
import EditorModes.Proofs.Regex.Signs

/-!
# Signs in parentheses

A sign of a pattern is a part of it (`isPart_sign`), unless it is an escape.  So before a closing
parenthesis the reader comes to the same sign as without, with the one exception that escapes
have (`readSign?_inParens`).
-/

namespace EditorModes.Regex

variable {f : Flags} {t r r' : Text}

/-! ### Repetitions and groups -/

/-- White space is the same before a parenthesis. -/
theorem dropSpace_append (t : Text) :
  (t ++ [')']).dropWhile Property.isSpace = t.dropWhile Property.isSpace ++ [')']
  := by
  have plain : Property.isSpace ')' = false := by decide
  rw [List.dropWhile_append]
  split
  · next ended =>
    rw [List.isEmpty_iff.mp ended]
    simp [plain]
  · rfl

/-- What follows white space is a part. -/
theorem IsPart.dropSpace {read : Text → Option (α × Text)} (part : IsPart read) :
  IsPart fun t => read (t.dropWhile Property.isSpace)
  := by
  constructor
  · intro t a r found
    exact (part.isSuffix _ a r found).trans (List.dropWhile_suffix _)
  · intro t
    rw [dropSpace_append]
    exact part.inParens _

/-- The digits of a number are read off the start of a text. -/
theorem spanDigits_isSuffix (f : Flags) (steps : Nat) (t : Text) :
  (parseCount.spanDigits f steps t).2 <:+ t
  := by
  induction steps generalizing t with
  | zero => exact List.suffix_rfl
  | succ steps ih =>
    rcases t with _ | ⟨c, t⟩
    · exact List.suffix_rfl
    · rw [parseCount.spanDigits]
      split
      · exact ((ih _).trans (skip_isSuffix f t)).trans (List.suffix_cons c t)
      · exact List.suffix_rfl

/-- The digits of a number are the same in parentheses. -/
theorem spanDigits_inParens {steps steps' : Nat} (enough : t.length ≤ steps)
    (enough' : t.length < steps') :
  InParens (some (parseCount.spanDigits f steps t))
    (some (parseCount.spanDigits f steps' (t ++ [')'])))
  := by
  induction steps' generalizing steps t with
  | zero => exact absurd enough' (Nat.not_lt_zero _)
  | succ steps' ih =>
    rcases t with _ | ⟨c, t⟩
    · have empty : parseCount.spanDigits f steps [] = ([], []) := by cases steps <;> rfl
      rw [empty]
      exact .same
    rcases steps with _ | steps
    · exact absurd enough (Nat.not_succ_le_zero _)
    rw [List.length_cons] at enough enough'
    rw [List.cons_append, parseCount.spanDigits, parseCount.spanDigits]
    split
    · rcases skip_append f t with eq | eq
      · have shorter := (skip_isSuffix f t).length_le
        rw [eq]
        exact (ih (by omega) (by omega)).map (c :: ·)
      · have empty : parseCount.spanDigits f steps' [] = ([], []) := by cases steps' <;> rfl
        rw [eq, empty]
        rintro _ _ ⟨⟩
        exact .inl rfl
    · exact .same

/-- The digits of a number are a part. -/
theorem isPart_digits (f : Flags) :
  IsPart fun t => some (parseCount.spanDigits f t.length t)
  := by
  constructor
  · intro t digits r read
    obtain rfl : (parseCount.spanDigits f t.length t).2 = r :=
      congrArg Prod.snd (Option.some.inj read)
    exact spanDigits_isSuffix f t.length t
  · intro t
    exact spanDigits_inParens (Nat.le_refl _) (by simp)

/-- The number that digits denote. -/
def countOf? (digits : Text) : Option Nat :=
  let value := digits.foldl (fun n c => n * 10 + (c.toNat - 48)) 0
  if digits = [] || 0xffffffff < value then none else some value

theorem isPart_count (f : Flags) :
  IsPart fun t => some (parseCount f t)
  := by
  have behind (digits : Text) := ((IsPart.value (countOf? digits)).skip f).dropSpace
  exact ((isPart_digits f).bind behind).dropSpace

/-- The bounds of a counted repetition are a part. -/
theorem isPart_bounds (f : Flags) :
  IsPart (parseBounds f)
  := by
  have closed (bounds : Option (Nat × Option Nat)) :=
    IsPart.orElse '\x7d' (by decide) (.value? bounds) .nothing
  have upTo (least : Nat) (most : Option Nat) := closed <|
    most.bind fun most => if least ≤ most then some (least, some most) else none
  have behindComma (least : Option Nat) := IsPart.orElse '\x7d' (by decide)
    (.value? (least.map (·, none)))
    (.given least fun least => (isPart_count f).bind (upTo least))
  refine (((isPart_count f).skip f).bind fun least => .orElse ',' (by decide)
    ((behindComma least).skip f) (closed (least.map fun least => (least, some least)))).of_eq
    fun t => ?_
  rw [parseBounds, Option.bind_some]
  generalize parseCount f (f.skip t) = read
  obtain ⟨least, u⟩ := read
  dsimp only
  split
  · rw [List.head?_cons, if_pos rfl, List.tail_cons]
    split
    · next ahead =>
      rw [ahead, List.head?_cons, if_pos rfl]
      cases least <;> rfl
    · next other =>
      rw [if_neg (head?_ne other)]
      cases least with
      | none => rfl
      | some least =>
        simp only [Option.bind_eq_bind, Option.bind_some]
        generalize parseCount f _ = read
        obtain ⟨_ | most, v⟩ := read
        · dsimp only [Option.bind_none, Option.map_none]
          split <;> rfl
        · dsimp only [Option.bind_some]
          split
          · rw [List.head?_cons, if_pos rfl, List.tail_cons]
            split <;> rfl
          · next unclosed =>
            rw [if_neg (head?_ne unclosed)]
  · rw [List.head?_cons, if_neg (by decide), if_pos rfl, List.tail_cons]
    cases least <;> rfl
  · next other other' =>
    rw [if_neg (head?_ne other), if_neg (head?_ne other')]

/--
What flags introduce before the sign that ends them: a group that does not capture, or nothing.
-/
def flagsOpening? (seen : List Char) (f : Flags) (c : Char) : Option Opening :=
  if c = ':' then some (.group f false none) else if seen.isEmpty then none else some (.flags f)

/-- What flags introduce, read with the sign that ends them. -/
def parseFlagsOpening (seen : List Char) (negating dangling : Bool) (f : Flags) (t : Text) :
    Option (Opening × Text) :=
  (parseFlags seen negating dangling f t).bind fun (seen, f, t) =>
    t.head?.bind fun c => (flagsOpening? seen f c).map (·, t.tail)

/-- The flags that a character ends, or that go on behind it. -/
theorem parseFlagsOpening_cons {seen : List Char} {negating dangling : Bool} {c : Char} :
  parseFlagsOpening seen negating dangling f (c :: t)
    = if c = ':' || c = ')' then
        if dangling then none else (flagsOpening? seen f c).map (·, t)
      else if c = '-' then
        if negating then none else parseFlagsOpening seen true true f t
      else if seen.contains c then none
      else (f.set? c (!negating)).bind fun f => parseFlagsOpening (c :: seen) negating false f t
  := by
  rw [parseFlagsOpening, parseFlags]
  split
  · split <;> rfl
  split
  · split <;> rfl
  split
  · rfl
  · exact Option.bind_assoc ..

/-- Flags are a part, with the sign that ends them. -/
theorem isPart_flags (f : Flags) (seen : List Char) (negating dangling : Bool) :
  IsPart (parseFlagsOpening seen negating dangling f)
  := by
  constructor
  · intro t opening r read
    induction t generalizing f seen negating dangling with
    | nil => cases read
    | cons c t ih =>
      refine List.IsSuffix.trans ?_ (List.suffix_cons c t)
      rw [parseFlagsOpening_cons] at read
      split at read
      · split at read
        · cases read
        · obtain ⟨_, -, ⟨⟩⟩ := Option.map_eq_some_iff.mp read
          exact List.suffix_rfl
      split at read
      · split at read
        · cases read
        · exact ih _ _ _ _ read
      split at read
      · cases read
      · obtain ⟨_, -, read⟩ := Option.bind_eq_some_iff.mp read
        exact ih _ _ _ _ read
  · intro t
    induction t generalizing f seen negating dangling with
    | nil =>
      intro opening r' wrapped
      rw [List.nil_append, parseFlagsOpening_cons, if_pos (by decide)] at wrapped
      split at wrapped
      · cases wrapped
      · obtain ⟨_, -, ⟨⟩⟩ := Option.map_eq_some_iff.mp wrapped
        exact .inl rfl
    | cons c t ih =>
      rw [List.cons_append, parseFlagsOpening_cons, parseFlagsOpening_cons]
      split
      · split
        · exact .nothing
        · cases flagsOpening? seen f c with
          | none => exact .nothing
          | some opening => exact .same
      split
      · split
        · exact .nothing
        · exact ih _ _ _ _
      split
      · exact .nothing
      · cases f.set? c (!negating) with
        | none => exact .nothing
        | some g => exact ih _ _ _ _

/-- The name that a text is, if it is the name of a group. -/
def groupName? : Text → Option Text
  | [] => none
  | c :: name =>
    if isNameChar true c && name.all (isNameChar false) then some (c :: name) else none

/-- The name of a group is what stands before the `>` that ends it. -/
theorem parseName_eq :
  parseName t
    = if (t.spanWhile (· ≠ '>')).2.head? = some '>' then
        (groupName? (t.spanWhile (· ≠ '>')).1).map (·, (t.spanWhile (· ≠ '>')).2.tail)
      else none
  := by
  rw [parseName]
  generalize t.spanWhile (· ≠ '>') = read
  obtain ⟨_ | ⟨c, name⟩, _ | ⟨d, r⟩⟩ := read
  · rfl
  · simp [groupName?]
  · rfl
  · by_cases closed : d = '>'
    · subst closed
      simp only [List.head?_cons, if_pos, List.tail_cons, groupName?]
      split <;> rfl
    · simp [closed]

/-- The name of a group is a part. -/
theorem isPart_name :
  IsPart parseName
  := by
  constructor
  · intro t name r read
    rw [parseName_eq] at read
    split at read
    · obtain ⟨_, -, ⟨⟩⟩ := Option.map_eq_some_iff.mp read
      exact (List.tail_suffix _).trans (List.dropWhile_suffix _)
    · cases read
  · intro t
    rw [parseName_eq, parseName_eq, spanWhile_append (by decide), Text.spanWhile]
    cases t.dropWhile (· ≠ '>') with
    | nil => exact .nothing
    | cons c u =>
      rw [if_neg (List.cons_ne_nil c u)]
      by_cases closed : c = '>'
      · rw [List.cons_append, closed, List.head?_cons, List.head?_cons, if_pos rfl, if_pos rfl]
        cases groupName? (t.takeWhile (· ≠ '>')) with
        | none => exact .nothing
        | some name => exact .same
      · have apart : ¬ some c = some '>' := fun same => closed (Option.some.inj same)
        rw [List.cons_append, List.head?_cons, List.head?_cons, if_neg apart, if_neg apart]
        exact .nothing

theorem isPart_namedGroup (f : Flags) :
  IsPart fun t => (parseName t).map fun (name, r) => (Opening.group f true (some name), r)
  := isPart_name.map fun name => Opening.group f true (some name)

/-- What an opening parenthesis introduces is a part. -/
theorem isPart_opening (f : Flags) :
  IsPart (parseOpening f)
  := by
  have named := IsPart.orElse '<' (by decide) (isPart_namedGroup f) .nothing
  have flags := isPart_flags f [] false false
  have flagged := IsPart.orElse '<' (by decide) (isPart_namedGroup f) flags
  have question := IsPart.orElse 'P' (by decide) named flagged
  refine ((IsPart.orElse '?' (by decide) question (.value (.group f true none))).skip f).of_eq
    fun t => ?_
  rw [parseOpening]
  split
  · next u ahead =>
    rw [ahead, List.head?_cons, if_pos rfl, List.tail_cons]
    split
    · rfl
    · rfl
    · next unnamed plain =>
      rw [if_neg (head?_ne plain)]
      by_cases letter : u.head? = some 'P'
      · obtain ⟨v, rfl⟩ := List.head?_eq_some_iff.mp letter
        rw [if_pos letter, List.tail_cons, if_neg (head?_ne fun w same => unnamed w (by rw [same]))]
        rfl
      · rw [if_neg letter, parseFlagsOpening]
        refine Option.bind_congr fun ⟨seen, g, r⟩ _ => ?_
        rcases r with _ | ⟨c, r⟩
        · rfl
        by_cases colon : c = ':'
        · subst colon
          rfl
        · simp only [List.head?_cons, Option.bind_some, flagsOpening?, if_neg colon, List.tail_cons]
          split <;> rfl
  · next other => rw [if_neg (head?_ne other)]

/-! ### Signs -/

/-- Whether a repetition is lazy is a part. -/
theorem isPart_lazy :
  IsPart fun t => some (parseLazy t)
  := by
  refine (IsPart.orElse '?' (by decide) (.value true) (.value false)).of_eq fun t => ?_
  rw [parseLazy.eq_def]
  split
  · rfl
  · next other => rw [if_neg (head?_ne other)]

theorem isPart_repetition (f : Flags) (least : Nat) (most : Option Nat) :
  IsPart fun t => some (repetitionSign f least most t)
  := isPart_lazy.map fun isLazy => Sign.repetition least most (isLazy == f.swapGreed)

/-- What follows the first character of a sign is a part, unless the sign is an escape. -/
theorem isPart_sign (f : Flags) {c : Char} (apart : c ≠ '\\') :
  IsPart fun t => readSign? f (c :: t)
  := by
  by_cases opening : c = '('
  · subst opening
    exact (isPart_opening f).map Opening.sign
  by_cases closing : c = ')'
  · subst closing
    exact .value Sign.closing
  by_cases bar : c = '|'
  · subst bar
    exact .value Sign.bar
  by_cases bracket : c = '['
  · subst bracket
    exact (isPart_class f).map fun set => Sign.item ⟨.char set.value, set.depth⟩
  by_cases question : c = '?'
  · subst question
    exact isPart_repetition f 0 (some 1)
  by_cases star : c = '*'
  · subst star
    exact isPart_repetition f 0 none
  by_cases plus : c = '+'
  · subst plus
    exact isPart_repetition f 1 none
  by_cases brace : c = '\x7b'
  · subst brace
    refine ((isPart_bounds f).bind fun bounds =>
      (isPart_repetition f bounds.1 bounds.2).skip f).of_eq fun t => ?_
    exact Option.map_eq_bind
  by_cases dot : c = '.'
  · subst dot
    refine (IsPart.given f.dot? fun set => .value (Sign.item ⟨.char set, 0⟩)).of_eq fun t => ?_
    exact Option.map_eq_bind
  by_cases caret : c = '^'
  · subst caret
    exact .value _
  by_cases dollar : c = '$'
  · subst dollar
    exact .value _
  refine (IsPart.value (.item ⟨.char (f.fold (.single c)), 0⟩)).of_eq fun t => ?_
  rw [readSign?] <;> assumption

/-- A sign is read off the start of a text, with its first character. -/
theorem readSign?_isSuffix {c : Char} {sign : Sign} (read : readSign? f (c :: t) = some (sign, r)) :
  r <:+ t
  := by
  by_cases escape : c = '\\'
  · subst escape
    obtain ⟨⟨_, _⟩, found, ⟨⟩⟩ := Option.map_eq_some_iff.mp read
    exact parseEscape_isSuffix found
  · exact (isPart_sign f escape).isSuffix t sign r read

/-- A group is closed by a closing parenthesis alone. -/
theorem readSign?_closing {c : Char} (read : readSign? f (c :: t) = some (.closing, r)) :
  c = ')' ∧ r = t
  := by
  rw [readSign?.eq_def] at read
  split at read
  case h_3 ahead =>
    cases ahead
    cases read
    exact ⟨rfl, rfl⟩
  case h_2 =>
    obtain ⟨⟨_ | _, _⟩, -, eq⟩ := Option.map_eq_some_iff.mp read <;> cases eq
  case h_5 | h_9 | h_10 | h_11 =>
    obtain ⟨_, -, eq⟩ := Option.map_eq_some_iff.mp read
    cases eq
  all_goals cases read

/--
A sign is the same in parentheses, but for a boundary before a brace that nothing follows.
-/
theorem readSign?_inParens {c : Char} {sign : Sign}
    (wrapped : readSign? f (c :: t ++ [')']) = some (sign, r')) :
  r' = [] ∨ (∃ r, readSign? f (c :: t) = some (sign, r) ∧ r' = r ++ [')'])
    ∨ ∃ look u, sign = .item ⟨.look look, 0⟩ ∧ r' = '\x7b' :: u ++ [')'] ∧ f.skip u = []
  := by
  rw [List.cons_append] at wrapped
  by_cases escape : c = '\\'
  · subst escape
    obtain ⟨⟨atom, _⟩, found, ⟨⟩⟩ := Option.map_eq_some_iff.mp wrapped
    rcases parseEscape_inParens found with ended | ⟨r, same, rfl⟩ | ⟨look, u, rfl, eq, ignored⟩
    · exact .inl ended
    · refine .inr (.inl ⟨r, ?_, rfl⟩)
      rw [readSign?, same]
      rfl
    · exact .inr (.inr ⟨look, u, rfl, eq, ignored⟩)
  · exact ((isPart_sign f escape).inParens t sign r' wrapped).imp_right .inl

end EditorModes.Regex
