import EditorModes.Proofs.Regex.Part

/-!
# Escapes in parentheses

What follows a backslash is a part of the pattern (`isPart_escape`), with one exception: the brace
that may follow `\b` belongs to the escape or not, depending on whether anything follows the brace
(`parseEscape_inParens`).
-/

namespace EditorModes.Regex

variable {f : Flags} {t r r' : Text}

/-! ### Escapes -/

/-- Hexadecimal digits are a part. -/
theorem isPart_hexDigits (f : Flags) (count value : Nat) :
  IsPart (parseHexDigits f count value)
  := by
  induction count generalizing value with
  | zero => exact .value value
  | succ count ih =>
    have digit (c : Char) : IsPart fun t => (Hexadecimal.digit? c).bind fun n =>
        parseHexDigits f count (value * 16 + n) (f.skip t) := by
      cases Hexadecimal.digit? c with
      | none => exact .nothing
      | some n => exact (ih (value * 16 + n)).skip f
    refine (IsPart.char digit).of_eq fun t => ?_
    rcases t with _ | ⟨c, t⟩ <;> rfl

/-- What stands before a closing brace is read off the start of a text, with the brace. -/
theorem spanBraced_isSuffix {steps : Nat} {before : Text}
    (read : spanBraced f steps t = some (before, r)) :
  r <:+ t
  := by
  induction steps generalizing t before with
  | zero => cases read
  | succ steps ih =>
    have part := skip_isSuffix f t
    rw [spanBraced] at read
    split at read
    · cases read
    · next c u ahead =>
      rw [ahead] at part
      have later := (List.suffix_cons c u).trans part
      split at read
      · cases read
        exact later
      · obtain ⟨⟨_, _⟩, read, ⟨⟩⟩ := Option.map_eq_some_iff.mp read
        exact (ih read).trans later

/-- What stands before a closing brace is the same in parentheses. -/
theorem spanBraced_inParens {steps steps' : Nat} (enough : t.length < steps) :
  InParens (spanBraced f steps t) (spanBraced f steps' (t ++ [')']))
  := by
  induction steps' generalizing steps t with
  | zero => exact .nothing
  | succ steps' ih =>
    rcases steps with _ | steps
    · exact absurd enough (Nat.not_lt_zero _)
    rw [spanBraced, spanBraced]
    rcases skip_append f t with eq | eq
    · rw [eq]
      cases ahead : f.skip t with
      | nil =>
        cases steps' <;> simp [spanBraced, InParens]
      | cons c u =>
        have shorter := length_of_skip ahead
        rw [List.cons_append]
        dsimp only
        split
        · exact .same
        · exact (ih (by omega)).map (c :: ·)
    · rw [eq]
      exact .nothing

theorem isPart_braced (f : Flags) :
  IsPart fun t => spanBraced f (t.length + 1) t
  := ⟨fun _ _ _ => spanBraced_isSuffix, fun _ => spanBraced_inParens (Nat.lt_succ_self _)⟩

/-- The character that the digits of a code point in braces are. -/
def bracedChar? (digits : Text) : Option Char :=
  if digits.isEmpty || !digits.all fun c => (Hexadecimal.digit? c).isSome then none
  else charOfCode? (Hexadecimal.value digits)

/-- The character that a number of digits of a code point are. -/
def plainChar? (f : Flags) (count value : Nat) : Option Char :=
  (charOfCode? value).bind fun c =>
    if count = 2 && !f.unicode && 0x7f < value then none else some c

/-- The character of a code point is a part. -/
theorem isPart_codePoint (f : Flags) (count : Nat) :
  IsPart (parseCodePoint f count)
  := by
  have braced := (isPart_braced f).mapOption bracedChar?
  have plain := (isPart_hexDigits f count 0).mapOption (plainChar? f count)
  refine ((IsPart.orElse '\x7b' (by decide) braced plain).skip f).of_eq fun t => ?_
  rw [parseCodePoint]
  split
  · next u ahead =>
    rw [ahead, List.head?_cons, if_pos rfl, List.tail_cons]
    cases spanBraced f (u.length + 1) u with
    | none => rfl
    | some spanned =>
      dsimp [bracedChar?]
      split
      · rfl
      · rw [Option.map_eq_bind]
        rfl
  · next other =>
    rw [if_neg (head?_ne other)]
    cases parseHexDigits f count 0 (f.skip t) with
    | none => rfl
    | some digits =>
      dsimp [plainChar?]
      cases charOfCode? digits.1 with
      | none => rfl
      | some c =>
        dsimp
        split <;> rfl

/-- The name of a kind of word boundary is read off the start of a text. -/
theorem spanBoundaryName_isSuffix (f : Flags) (steps : Nat) (t : Text) :
  (spanBoundaryName f steps t).2 <:+ t
  := by
  induction steps generalizing t with
  | zero => exact List.suffix_rfl
  | succ steps ih =>
    rcases t with _ | ⟨c, t⟩
    · exact List.suffix_rfl
    · rw [spanBoundaryName]
      split
      · exact ((ih _).trans (skip_isSuffix f t)).trans (List.suffix_cons c t)
      · exact List.suffix_rfl

/-- Where there is no name of a kind of word boundary, nothing is read. -/
theorem spanBoundaryName_snd {steps : Nat} (empty : (spanBoundaryName f steps t).1 = []) :
  (spanBoundaryName f steps t).2 = t
  := by
  rcases steps with _ | steps
  · rfl
  rcases t with _ | ⟨c, t⟩
  · rfl
  rw [spanBoundaryName] at empty ⊢
  split at empty
  · cases empty
  · next other => rw [if_neg other]

/-- The name of a kind of word boundary is the same in parentheses. -/
theorem spanBoundaryName_inParens {steps steps' : Nat} (enough : t.length ≤ steps)
    (enough' : t.length < steps') :
  InParens (some (spanBoundaryName f steps t)) (some (spanBoundaryName f steps' (t ++ [')'])))
  := by
  induction steps' generalizing steps t with
  | zero => exact absurd enough' (Nat.not_lt_zero _)
  | succ steps' ih =>
    rcases t with _ | ⟨c, t⟩
    · have empty : spanBoundaryName f steps [] = ([], []) := by cases steps <;> rfl
      rw [empty]
      exact .same
    rcases steps with _ | steps
    · exact absurd enough (Nat.not_succ_le_zero _)
    rw [List.length_cons] at enough enough'
    rw [List.cons_append, spanBoundaryName, spanBoundaryName]
    split
    · rcases skip_append f t with eq | eq
      · have shorter := (skip_isSuffix f t).length_le
        rw [eq]
        exact (ih (by omega) (by omega)).map (c :: ·)
      · have empty : spanBoundaryName f steps' [] = ([], []) := by cases steps' <;> rfl
        rw [eq, empty]
        rintro _ _ ⟨⟩
        exact .inl rfl
    · exact .same

/-- The kind of word boundary of a name. -/
def boundaryKind? (alphabet : Alphabet) (name : Text) : Option Look :=
  match String.ofList name with
  | "start" => some (.wordStart alphabet)
  | "end" => some (.wordEnd alphabet)
  | "start-half" => some (.wordStartHalf alphabet)
  | "end-half" => some (.wordEndHalf alphabet)
  | _ => none

/-- The boundary of the name that is read behind a brace, and what follows it. -/
def namedBoundary? (alphabet : Alphabet) (u : Text) : Text × Text → Option (Look × Text)
  | (name, rest) =>
    if name = [] then some (.boundary alphabet, '\x7b' :: u)
    else if rest.head? = some '\x7d' then (boundaryKind? alphabet name).map (·, rest.tail)
    else none

/-- What follows `\b` and a brace. -/
theorem parseBoundary_brace (u : Text) :
  parseBoundary f ('\x7b' :: u)
    = if f.skip u = [] then none
      else namedBoundary? f.alphabet u (spanBoundaryName f (f.skip u).length (f.skip u))
  := by
  rw [parseBoundary]
  split
  · next empty => rw [if_pos empty]
  · next some_ahead =>
    rw [if_neg some_ahead]
    cases spanBoundaryName f (f.skip u).length (f.skip u) with
    | mk name rest =>
      rw [namedBoundary?]
      rcases name with _ | ⟨c, name⟩
      · rfl
      rcases rest with _ | ⟨d, rest⟩
      · rfl
      dsimp only
      rw [if_neg (List.cons_ne_nil c name), List.head?_cons, List.tail_cons]
      split
      · next closed =>
        cases closed
        rw [if_pos rfl, boundaryKind?]
        generalize String.ofList (c :: name) = kind
        split <;> simp_all
      · next other =>
        rw [if_neg fun same => other rest (by rw [Option.some.inj same])]

theorem parseBoundary_plain (plain : ¬ t.head? = some '\x7b') :
  parseBoundary f t = some (.boundary f.alphabet, t)
  := by
  rw [parseBoundary]
  rintro u rfl
  exact plain rfl

/-- A kind of boundary is read off the start of a text. -/
theorem parseBoundary_isSuffix {look : Look} (read : parseBoundary f t = some (look, r)) :
  r <:+ t
  := by
  by_cases brace : t.head? = some '\x7b'
  · obtain ⟨u, rfl⟩ := List.head?_eq_some_iff.mp brace
    rw [parseBoundary_brace, namedBoundary?] at read
    split at read
    · cases read
    have part :=
      (spanBoundaryName_isSuffix f (f.skip u).length (f.skip u)).trans (skip_isSuffix f u)
    split at read
    · cases read
      exact List.suffix_rfl
    split at read
    · obtain ⟨_, -, ⟨⟩⟩ := Option.map_eq_some_iff.mp read
      exact ((List.tail_suffix _).trans part).trans (List.suffix_cons _ u)
    · cases read
  · rw [parseBoundary_plain brace] at read
    cases read
    exact List.suffix_rfl

/-- The boundary of a name is the same in parentheses. -/
theorem namedBoundary?_inParens {alphabet : Alphabet} {u name : Text} {look : Look}
    (wrapped : namedBoundary? alphabet (u ++ [')']) (name, r ++ [')']) = some (look, r')) :
  ∃ rest, namedBoundary? alphabet u (name, r) = some (look, rest) ∧ r' = rest ++ [')']
  := by
  rw [namedBoundary?] at wrapped ⊢
  split at wrapped
  · next unnamed =>
    obtain ⟨rfl, rfl⟩ := by simpa using wrapped
    exact ⟨'\x7b' :: u, if_pos unnamed, rfl⟩
  · next named =>
    rw [if_neg named]
    rcases r with _ | ⟨d, r⟩
    · simp at wrapped
    by_cases closed : d = '\x7d'
    · rw [List.cons_append, List.head?_cons, closed, if_pos rfl] at wrapped
      rw [List.head?_cons, closed, if_pos rfl]
      obtain ⟨_, kind, ⟨⟩⟩ := Option.map_eq_some_iff.mp wrapped
      exact ⟨r, by rw [kind]; rfl, rfl⟩
    · have apart : ¬ (d :: r ++ [')']).head? = some '\x7d' := by simpa using closed
      rw [if_neg apart] at wrapped
      cases wrapped

/--
A kind of boundary is the same in parentheses, but for a brace that nothing follows: there the
boundary itself would be read before the parenthesis, and the brace behind it.
-/
theorem parseBoundary_inParens {look : Look}
    (wrapped : parseBoundary f (t ++ [')']) = some (look, r')) :
  r' = [] ∨ (∃ r, parseBoundary f t = some (look, r) ∧ r' = r ++ [')'])
    ∨ ∃ u, r' = '\x7b' :: u ++ [')'] ∧ f.skip u = []
  := by
  by_cases brace : t.head? = some '\x7b'
  · obtain ⟨u, rfl⟩ := List.head?_eq_some_iff.mp brace
    rw [List.cons_append, parseBoundary_brace] at wrapped
    rw [parseBoundary_brace]
    split at wrapped
    · cases wrapped
    next some_ahead =>
    have eq := (skip_append f u).resolve_right some_ahead
    rw [eq] at wrapped
    by_cases empty : f.skip u = []
    · rw [empty] at wrapped
      obtain ⟨rfl, rfl⟩ := by simpa [spanBoundaryName, namedBoundary?] using wrapped
      exact .inr (.inr ⟨u, rfl, empty⟩)
    · have longer : (f.skip u).length < (f.skip u ++ [')']).length := by simp
      rw [if_neg empty]
      rcases spanned : spanBoundaryName f _ (f.skip u ++ [')']) with ⟨name, behind⟩
      rw [spanned] at wrapped
      have span := spanBoundaryName_inParens (f := f) (Nat.le_refl _) longer name behind
      rcases span (congrArg some spanned) with rfl | ⟨rest, same, rfl⟩
      · rw [namedBoundary?] at wrapped
        split at wrapped
        · next unnamed =>
          have unread := spanBoundaryName_snd ((congrArg Prod.fst spanned).trans unnamed)
          rw [spanned] at unread
          exact absurd unread.symm (List.append_ne_nil_of_right_ne_nil _ (List.cons_ne_nil _ _))
        · cases wrapped
      · rw [Option.some.inj same]
        exact .inr (.inl (namedBoundary?_inParens wrapped))
  · have brace' : ¬ (t ++ [')']).head? = some '\x7b' := by
      rcases t with _ | ⟨c, t⟩
      · decide
      · exact brace
    rw [parseBoundary_plain brace'] at wrapped
    cases wrapped
    exact .inr (.inl ⟨t, parseBoundary_plain brace, rfl⟩)

/-- The characters of a property are a part. -/
theorem isPart_property (f : Flags) :
  IsPart (parseProperty f)
  := by
  have braced := (isPart_braced f).mapOption propertyClass?
  have single := IsPart.char fun c =>
    .value? (if c = '\\' then none else namedClass? (looseName [c]))
  refine ((IsPart.orElse '\x7b' (by decide) braced single).skip f).of_eq fun t => ?_
  rw [parseProperty]
  split
  · next empty =>
    rw [empty]
    rfl
  · next u ahead =>
    rw [ahead, List.head?_cons, if_pos rfl, List.tail_cons]
    cases spanBraced f (u.length + 1) u with
    | none => rfl
    | some spanned => exact Option.map_eq_bind.symm
  · next c u ahead other =>
    have apart : ¬ (f.skip t).head? = some '\x7b' := by
      rw [other]
      simpa using ahead
    rw [if_neg apart, other, List.head?_cons, List.tail_cons, Option.bind_some]
    split <;> rfl

/-- What follows a backslash and a letter is a part, unless it is a kind of boundary. -/
theorem isPart_escape (f : Flags) {c : Char} (apart : c ≠ 'b') :
  IsPart fun t => parseEscape f (c :: t)
  := by
  simp only [parseEscape]
  split
  case h_1 | h_2 | h_3 => exact (isPart_codePoint f _).map Atom.literal
  case h_12 => exact absurd rfl apart
  case h_16 =>
    split
    · exact (isPart_property f).map fun s => Atom.set (f.fold s)
    · exact .nothing
  case h_17 =>
    exact (isPart_property f).bind fun s => .given (f.complement? (f.fold s)) fun s =>
      .value (Atom.set s)
  case h_18 | h_19 | h_20 =>
    exact .given (letterClass? f.alphabet _) fun s => .given (f.complement? s) fun s =>
      .value (Atom.set s)
  case h_21 =>
    split
    · exact .value _
    · split
      · exact .value _
      · exact .nothing
  all_goals exact .value _

/-- An escape is read off the start of a text. -/
theorem parseEscape_isSuffix {atom : Atom} (read : parseEscape f t = some (atom, r)) :
  r <:+ t
  := by
  rcases t with _ | ⟨c, t⟩
  · cases read
  refine List.IsSuffix.trans ?_ (List.suffix_cons c t)
  by_cases boundary : c = 'b'
  · subst boundary
    obtain ⟨⟨look, rest⟩, found, ⟨⟩⟩ := Option.map_eq_some_iff.mp read
    exact parseBoundary_isSuffix found
  · exact (isPart_escape f boundary).isSuffix t atom r read

/--
An escape is the same in parentheses, but for a boundary before a brace that nothing follows.
-/
theorem parseEscape_inParens {atom : Atom}
    (wrapped : parseEscape f (t ++ [')']) = some (atom, r')) :
  r' = [] ∨ (∃ r, parseEscape f t = some (atom, r) ∧ r' = r ++ [')'])
    ∨ ∃ look u, atom = .condition look ∧ r' = '\x7b' :: u ++ [')'] ∧ f.skip u = []
  := by
  rcases t with _ | ⟨c, t⟩
  · exact .inl ((isPart_escape f (by decide)).eq_nil wrapped)
  by_cases boundary : c = 'b'
  · subst boundary
    obtain ⟨⟨look, rest⟩, found, ⟨⟩⟩ := Option.map_eq_some_iff.mp wrapped
    rcases parseBoundary_inParens found with ended | ⟨r, found, eq⟩ | ⟨u, eq, ignored⟩
    · exact .inl ended
    · refine .inr (.inl ⟨r, ?_, eq⟩)
      rw [parseEscape, found]
      rfl
    · exact .inr (.inr ⟨look, u, rfl, eq, ignored⟩)
  · exact ((isPart_escape f boundary).inParens t atom r' wrapped).imp_right .inl

end EditorModes.Regex
