import EditorModes.Grammar.Pattern
import EditorModes.Proofs.Grammar.Checked
import Mathlib.Data.List.TakeWhile

/-!
# Attributes put in place

How a pattern reads from left to right is said by `Grammar.Spells`, and what it becomes when every
reference is replaced by `Grammar.Substitutes`, neither of them with a limit.  Expanding a pattern
gives just that, and it fails exactly where a reference that is come to names no attribute or is
nested too deep (`Grammar.exists_expandWithin_iff`).
-/

namespace EditorModes

namespace Grammar

variable {attributes : List (String × String)} {pattern value name out inner : Text}
  {parts others : List Piece} {depth levels : Nat}

/-! ### How a pattern reads -/

/-- A letter, a digit or an underscore: what names of attributes are made of. -/
def IsNameChar (c : Char) : Prop :=
  ('a' ≤ c ∧ c ≤ 'z') ∨ ('A' ≤ c ∧ c ≤ 'Z') ∨ ('0' ≤ c ∧ c ≤ '9') ∨ c = '_'

/-- The text does not go on with a character of a name. -/
def EndsName (t : Text) : Prop :=
  ∀ c ∈ t.head?, ¬ IsNameChar c

/--
The pieces that a pattern reads as.  A backslash takes the character after it along, if there is
one; an `@` takes all the characters of a name after it, and is itself where there are none.
-/
inductive Spells : Text → List Piece → Prop where
  | nil : Spells [] []
  | char {c : Char} {t : Text} {parts : List Piece} (plain : c ≠ '@' ∧ c ≠ '\\')
    (later : Spells t parts) : Spells (c :: t) (.char c :: parts)
  | trailing : Spells ['\\'] [.char '\\']
  | escape {c : Char} {t : Text} {parts : List Piece} (later : Spells t parts) :
    Spells ('\\' :: c :: t) (.escape c :: parts)
  | alone {t : Text} {parts : List Piece} (ends : EndsName t) (later : Spells t parts) :
    Spells ('@' :: t) (.char '@' :: parts)
  | reference {name t : Text} {parts : List Piece} (some_name : name ≠ [])
    (named : ∀ c ∈ name, IsNameChar c) (ends : EndsName t) (later : Spells t parts) :
    Spells ('@' :: (name ++ t)) (.reference name :: parts)

theorem isAttributeChar_iff {c : Char} :
  isAttributeChar c = true ↔ IsNameChar c
  := by
  simp [isAttributeChar, IsNameChar, Property.isAsciiAlphanumeric, Property.isAsciiLetter,
    Property.isAsciiDigit, or_assoc]

theorem piecesFrom_some_cons (run t : Text) (c : Char) :
  piecesFrom (some run) (c :: t)
    = if isAttributeChar c then piecesFrom (some (c :: run)) t
      else Piece.ofName run.reverse :: piecesFrom none (c :: t)
  := by
  cases t <;> rfl

theorem piecesFrom_at (t : Text) :
  piecesFrom none ('@' :: t) = piecesFrom (some []) t
  := by
  cases t <;> rfl

theorem piecesFrom_char {c : Char} (plain : c ≠ '@' ∧ c ≠ '\\') (t : Text) :
  piecesFrom none (c :: t) = .char c :: piecesFrom none t
  := by
  rw [piecesFrom.eq_def]
  simp only [if_neg plain.1, if_neg plain.2]

/-- The characters of a name are taken one by one. -/
theorem piecesFrom_append {run t : Text} (named : ∀ c ∈ name, IsNameChar c) :
  piecesFrom (some run) (name ++ t) = piecesFrom (some (name.reverse ++ run)) t
  := by
  induction name generalizing run with
  | nil => rfl
  | cons c name ih =>
    have first := isAttributeChar_iff.mpr (named c List.mem_cons_self)
    rw [List.cons_append, piecesFrom_some_cons, if_pos first,
      ih fun c among => named c (List.mem_cons_of_mem _ among), List.reverse_cons,
      List.append_assoc, List.singleton_append]

theorem piecesFrom_of_endsName {run t : Text} (ends : EndsName t) :
  piecesFrom (some run) t = Piece.ofName run.reverse :: piecesFrom none t
  := by
  cases t with
  | nil => rfl
  | cons c t =>
    have first := mt isAttributeChar_iff.mp (ends c rfl)
    rw [piecesFrom_some_cons, if_neg first]

theorem pieces_name {t : Text} (named : ∀ c ∈ name, IsNameChar c) (ends : EndsName t) :
  pieces ('@' :: (name ++ t)) = Piece.ofName name :: pieces t
  := by
  rw [pieces, piecesFrom_at, piecesFrom_append named, piecesFrom_of_endsName ends,
    List.append_nil, List.reverse_reverse, pieces]

/-- A pattern reads as its pieces only. -/
theorem Spells.eq_pieces (spelled : Spells pattern parts) :
  parts = pieces pattern
  := by
  induction spelled with
  | nil => rfl
  | char plain _ ih => rw [ih, pieces, pieces, piecesFrom_char plain]
  | trailing => rfl
  | escape _ ih =>
    rw [ih]
    rfl
  | @alone t _ ends _ ih =>
    have here : pieces ('@' :: t) = .char '@' :: pieces t :=
      pieces_name (List.forall_mem_nil _) ends
    rw [ih, here]
  | reference some_name named ends _ ih =>
    rw [ih, pieces_name named ends, Piece.ofName, if_neg some_name]

/-- A text is a longest name, which may be empty, and what is after it. -/
theorem exists_name (t : Text) :
  ∃ name rest, t = name ++ rest ∧ (∀ c ∈ name, IsNameChar c) ∧ EndsName rest
  := by
  refine ⟨t.takeWhile isAttributeChar, t.dropWhile isAttributeChar,
    List.takeWhile_append_dropWhile.symm, fun c among => ?_, fun c first => ?_⟩
  · exact isAttributeChar_iff.mp (List.mem_takeWhile_imp among)
  · have stops := List.head?_dropWhile_not isAttributeChar t
    rw [Option.mem_def.mp first] at stops
    rw [← isAttributeChar_iff, stops]
    exact Bool.false_ne_true

/-- A pattern reads as some pieces. -/
theorem exists_spells (pattern : Text) :
  ∃ parts, Spells pattern parts
  := by
  induction size : pattern.length using Nat.strongRecOn generalizing pattern with
  | _ n ih =>
  subst size
  cases pattern with
  | nil => exact ⟨[], .nil⟩
  | cons c t =>
    by_cases reference : c = '@'
    · subst reference
      obtain ⟨name, rest, rfl, named, ends⟩ := exists_name t
      have shorter : rest.length < ('@' :: (name ++ rest)).length := by
        simp only [List.length_cons, List.length_append]
        omega
      obtain ⟨parts, later⟩ := ih _ shorter rest rfl
      cases name with
      | nil => exact ⟨_, .alone ends later⟩
      | cons d name => exact ⟨_, .reference (List.cons_ne_nil d name) named ends later⟩
    · by_cases backslash : c = '\\'
      · subst backslash
        cases t with
        | nil => exact ⟨_, .trailing⟩
        | cons d t =>
          have shorter : t.length < ('\\' :: d :: t).length := by
            simp only [List.length_cons]
            omega
          obtain ⟨parts, later⟩ := ih _ shorter t rfl
          exact ⟨_, .escape later⟩
      · obtain ⟨parts, later⟩ := ih _ (by simp) t rfl
        exact ⟨_, .char ⟨reference, backslash⟩ later⟩

theorem spells_iff :
  Spells pattern parts ↔ parts = pieces pattern
  := by
  refine ⟨Spells.eq_pieces, ?_⟩
  rintro rfl
  obtain ⟨parts, spelled⟩ := exists_spells pattern
  rw [← spelled.eq_pieces]
  exact spelled

/-! ### What a pattern becomes -/

/-- What pieces become when each reference is replaced by the value that it names, in a group. -/
inductive Substitutes (attributes : List (String × String)) : List Piece → Text → Prop where
  | nil : Substitutes attributes [] []
  | char {c : Char} {parts : List Piece} {out : Text} (later : Substitutes attributes parts out) :
    Substitutes attributes (.char c :: parts) (c :: out)
  | at {parts : List Piece} {out : Text} (later : Substitutes attributes parts out) :
    Substitutes attributes (.escape '@' :: parts) ('@' :: out)
  | escape {c : Char} {parts : List Piece} {out : Text} (other : c ≠ '@')
    (later : Substitutes attributes parts out) :
    Substitutes attributes (.escape c :: parts) ('\\' :: c :: out)
  | reference {name inner out : Text} {value : String} {within parts : List Piece}
    (defined : attributes.lookup (String.ofList name) = some value)
    (spelled : Spells value.toList within) (inside : Substitutes attributes within inner)
    (later : Substitutes attributes parts out) :
    Substitutes attributes (.reference name :: parts) ("(?:".toList ++ inner ++ [')'] ++ out)

/-- Pieces become one text only. -/
theorem Substitutes.unique {other : Text} (first : Substitutes attributes parts out)
    (second : Substitutes attributes parts other) :
  out = other
  := by
  induction first generalizing other with
  | nil =>
    cases second
    rfl
  | char _ ih =>
    cases second with
    | char later => rw [ih later]
  | «at» _ ih =>
    cases second with
    | «at» later => rw [ih later]
    | escape other _ => exact absurd rfl other
  | escape different _ ih =>
    cases second with
    | «at» _ => exact absurd rfl different
    | escape _ later => rw [ih later]
  | reference defined spelled _ _ ih_inside ih_later =>
    cases second with
    | reference defined' spelled' inside later =>
      obtain rfl := Option.some.inj (defined.symm.trans defined')
      obtain rfl := spelled.eq_pieces.trans spelled'.eq_pieces.symm
      rw [ih_inside inside, ih_later later]

/-! ### What a pattern refers to -/

/-- A pattern refers to an attribute. -/
def References (pattern name : Text) : Prop :=
  ∃ parts, Spells pattern parts ∧ .reference name ∈ parts

/-- A pattern leads to another one, to which as many references are followed. -/
inductive Leads (attributes : List (String × String)) : Text → Nat → Text → Prop where
  | here {pattern : Text} : Leads attributes pattern 0 pattern
  | follow {pattern name target : Text} {value : String} {depth : Nat}
    (refers : References pattern name)
    (defined : attributes.lookup (String.ofList name) = some value)
    (further : Leads attributes value.toList depth target) :
    Leads attributes pattern (depth + 1) target

/-- All references that are come to name attributes, and there are fewer than so many levels. -/
def Bounded (attributes : List (String × String)) (levels : Nat) (pattern : Text) : Prop :=
  ∀ depth target, Leads attributes pattern depth target →
    depth < levels ∧ ∀ name, References target name →
      (attributes.lookup (String.ofList name)).isSome

/-- There is a level more than the values have that are referred to. -/
theorem bounded_succ_iff :
  Bounded attributes (levels + 1) pattern ↔
    ∀ name, References pattern name → ∃ value, attributes.lookup (String.ofList name) = some value
      ∧ Bounded attributes levels value.toList
  := by
  constructor
  · intro bounded name refers
    obtain ⟨value, defined⟩ :=
      Option.isSome_iff_exists.mp ((bounded 0 pattern .here).2 name refers)
    refine ⟨value, defined, fun depth target leads => ?_⟩
    obtain ⟨fewer, all⟩ := bounded (depth + 1) target (.follow refers defined leads)
    exact ⟨Nat.lt_of_succ_lt_succ fewer, all⟩
  · intro each depth target leads
    cases leads with
    | here =>
      refine ⟨Nat.succ_pos levels, fun name refers => ?_⟩
      obtain ⟨value, defined, -⟩ := each name refers
      rw [defined]
      rfl
    | follow refers defined further =>
      obtain ⟨value, defined', bounded⟩ := each _ refers
      obtain rfl := Option.some.inj (defined.symm.trans defined')
      obtain ⟨fewer, all⟩ := bounded _ _ further
      exact ⟨Nat.succ_lt_succ fewer, all⟩

/-! ### Expanding -/

/-- A piece with the values of attributes in place. -/
def expandPiece (attributes : List (String × String)) (levels : Nat) (pattern : Text) :
    Piece → Except ExpansionError Text
  | .char c => pure [c]
  | .escape '@' => pure ['@']
  | .escape c => pure ['\\', c]
  | .reference name =>
    match attributes.lookup (String.ofList name) with
    | none => throw (.unknownAttribute pattern name)
    | some value => do
      let value ← expandWithin attributes levels value.toList
      pure ("(?:".toList ++ value ++ [')'])

theorem expandWithin_succ :
  expandWithin attributes (levels + 1) pattern
    = (do return (← (pieces pattern).mapM (expandPiece attributes levels pattern)).flatten)
  := rfl

/-- Any piece but a reference is expanded, and a reference where the value that it names is. -/
theorem exists_expandPiece_iff {piece : Piece} :
  (∃ text, expandPiece attributes levels pattern piece = .ok text) ↔
    ∀ name, piece = .reference name → ∃ value, attributes.lookup (String.ofList name) = some value
      ∧ ∃ out, expandWithin attributes levels value.toList = .ok out
  := by
  unfold expandPiece
  split
  · simp [pure, Except.pure]
  · simp [pure, Except.pure]
  · simp [pure, Except.pure]
  · next name =>
    simp only [Piece.reference.injEq, forall_eq']
    cases attributes.lookup (String.ofList name) with
    | none => simp [throw, throwThe, MonadExceptOf.throw]
    | some value =>
      simp only [bind_eq_ok_iff, Option.some.injEq, exists_eq_left']
      constructor
      · rintro ⟨_, inner, expanded, -⟩
        exact ⟨inner, expanded⟩
      · rintro ⟨inner, expanded⟩
        exact ⟨_, inner, expanded, rfl⟩

/-- A pattern is expanded exactly where the references allow it. -/
theorem exists_expandWithin_iff :
  (∃ out, expandWithin attributes levels pattern = .ok out) ↔ Bounded attributes levels pattern
  := by
  induction levels generalizing pattern with
  | zero =>
    constructor
    · rintro ⟨out, expanded⟩
      cases expanded
    · intro bounded
      exact absurd (bounded 0 pattern .here).1 (Nat.not_lt_zero 0)
  | succ levels ih =>
    have each_piece :
        (∃ out, expandWithin attributes (levels + 1) pattern = .ok out) ↔
          ∀ piece ∈ pieces pattern, ∃ text, expandPiece attributes levels pattern piece = .ok text
        := by
      rw [expandWithin_succ, ← exists_mapM_eq_ok_iff]
      constructor
      · rintro ⟨out, expanded⟩
        obtain ⟨texts, mapped, -⟩ := bind_eq_ok_iff.mp expanded
        exact ⟨texts, mapped⟩
      · rintro ⟨texts, mapped⟩
        exact ⟨texts.flatten, bind_eq_ok_iff.mpr ⟨texts, mapped, rfl⟩⟩
    rw [each_piece, bounded_succ_iff]
    simp only [exists_expandPiece_iff, ih]
    constructor
    · rintro each name ⟨parts, spelled, among⟩
      exact each _ (spelled.eq_pieces ▸ among) name rfl
    · rintro each _ among name rfl
      exact each name ⟨_, spells_iff.mpr rfl, among⟩

/-- Pieces that are expanded become their texts, when values become what they are expanded to. -/
theorem substitutes_of_forall₂ {texts : List Text}
    (inside : ∀ value out, expandWithin attributes levels value = .ok out →
      Substitutes attributes (pieces value) out)
    (each : List.Forall₂ (fun piece text => expandPiece attributes levels pattern piece = .ok text)
      parts texts) :
  Substitutes attributes parts texts.flatten
  := by
  induction each with
  | nil => exact .nil
  | cons first _ later =>
    rw [List.flatten_cons]
    unfold expandPiece at first
    split at first
    · obtain rfl := Except.ok.inj first
      exact .char later
    · obtain rfl := Except.ok.inj first
      exact .at later
    · next different =>
      obtain rfl := Except.ok.inj first
      exact .escape different later
    · split at first
      · cases first
      · next value defined =>
        obtain ⟨inner, expanded, made⟩ := bind_eq_ok_iff.mp first
        obtain rfl := Except.ok.inj made
        exact .reference defined (spells_iff.mpr rfl) (inside _ _ expanded) later

/-- What a pattern is expanded to is what it becomes. -/
theorem substitutes_of_expandWithin
    (expanded : expandWithin attributes levels pattern = .ok out) :
  Substitutes attributes (pieces pattern) out
  := by
  induction levels generalizing pattern out with
  | zero => cases expanded
  | succ levels ih =>
    rw [expandWithin_succ] at expanded
    obtain ⟨texts, mapped, made⟩ := bind_eq_ok_iff.mp expanded
    obtain rfl := Except.ok.inj made
    exact substitutes_of_forall₂ (fun _ _ => ih) (forall₂_of_mapM mapped)

/-- What leads to a pattern leads on to where that one does. -/
theorem Leads.append {target last : Text} {more : Nat}
    (first : Leads attributes pattern depth target) (second : Leads attributes target more last) :
  Leads attributes pattern (depth + more) last
  := by
  induction first with
  | here => rwa [Nat.zero_add]
  | follow refers defined _ ih =>
    rw [Nat.add_right_comm]
    exact .follow refers defined (ih second)

/-- A pattern that leads back to itself does so with as many rounds as one likes. -/
theorem Leads.rounds (back : Leads attributes pattern depth pattern) (rounds : Nat) :
  Leads attributes pattern (rounds * depth) pattern
  := by
  induction rounds with
  | zero => simpa using Leads.here
  | succ rounds ih =>
    rw [Nat.succ_mul]
    exact ih.append back

/--
A pattern is expanded exactly where every attribute that is referred to, from the pattern or from a
value that it leads to, is defined and no more than five references are nested, so not where it
leads to a value that leads back to itself.  Then every reference is replaced by the value that it
names, whatever that refers to being replaced as well; this is the only text that the pattern
becomes.
-/
theorem expand_substitutes (attributes : List (String × String)) (pattern : Text) :
  ((∃ out, expand attributes pattern = .ok out) ↔
      ∀ depth target, Leads attributes pattern depth target →
        depth ≤ 5 ∧ ∀ name, References target name →
          (attributes.lookup (String.ofList name)).isSome)
    ∧ (∀ depth target round, Leads attributes pattern depth target →
      Leads attributes target (round + 1) target → ∃ e, expand attributes pattern = .error e)
    ∧ ∀ out, expand attributes pattern = .ok out → ∃ parts, Spells pattern parts
      ∧ Substitutes attributes parts out
      ∧ ∀ others text, Spells pattern others → Substitutes attributes others text → text = out
  := by
  have expands : (∃ out, expand attributes pattern = .ok out) ↔
      ∀ depth target, Leads attributes pattern depth target →
        depth ≤ 5 ∧ ∀ name, References target name →
          (attributes.lookup (String.ofList name)).isSome := by
    refine exists_expandWithin_iff.trans ?_
    simp only [Bounded, attributeDepth, Nat.lt_succ_iff]
  refine ⟨expands, fun depth target round leads back => ?_, fun out expanded => ?_⟩
  · cases result : expand attributes pattern with
    | error e => exact ⟨e, rfl⟩
    | ok out =>
      have deep := (expands.mp ⟨out, result⟩ _ _ (leads.append (back.rounds 6))).1
      omega
  · have becomes := substitutes_of_expandWithin expanded
    refine ⟨pieces pattern, spells_iff.mpr rfl, becomes, fun others text spelled other => ?_⟩
    rw [spelled.eq_pieces] at other
    exact other.unique becomes

example :
    expand [("letter", "[a-z]"), ("word", "@letter+")] "@word\\@@word\\d@.é\\".toList
      = .ok "(?:(?:[a-z])+)@(?:(?:[a-z])+)\\d@.é\\".toList := by
  decide +kernel

end Grammar

end EditorModes
