import EditorModes.Proofs.Regex.Escape

/-!
# Bracketed classes in parentheses

A bracketed class is a part of the pattern (`isPart_class`).  Its own parts need not be: what is
read of an open bracket may end before the parenthesis, but then nothing closes the bracket.
-/

namespace EditorModes.Regex

variable {α : Type} {f : Flags} {t r r' : Text}

/-! ### Bracketed classes -/

/--
What is read of an open bracket is read of it before a closing parenthesis too, unless nothing
but the parenthesis is left, or nothing at all.
-/
def InBrackets (read wrapped : Option (α × Text)) : Prop :=
  ∀ a r', wrapped = some (a, r') →
    r' = [] ∨ r' = [')'] ∨ ∃ r, read = some (a, r) ∧ r' = r ++ [')']

/-- A class is opened by hyphens and one bracket at most. -/
theorem openHyphens_cons {steps : Nat} {o : OpenClass} {c : Char} :
  openHyphens f (steps + 1) o (c :: t)
    = if c = '-' then openHyphens f steps (o.add ⟨.single '-', 0⟩) (f.skip t)
      else if c = ']' ∧ o.members.isEmpty then some (o.add ⟨.single ']', 0⟩, f.skip t)
      else some (o, c :: t)
  := by
  by_cases hyphen : c = '-'
  · subst hyphen
    rfl
  rw [if_neg hyphen]
  by_cases closing : c = ']'
  · subst closing
    simp [openHyphens]
  · rw [if_neg fun both => closing both.1]
    simp [openHyphens, hyphen, closing]

/-- The hyphens that open a class are read off the start of a text. -/
theorem openHyphens_isSuffix {steps : Nat} {o opened : OpenClass}
    (read : openHyphens f steps o t = some (opened, r)) :
  r <:+ t
  := by
  induction steps generalizing o t with
  | zero => cases read
  | succ steps ih =>
    rcases t with _ | ⟨c, t⟩
    · cases read
    have later := (skip_isSuffix f t).trans (List.suffix_cons c t)
    rw [openHyphens_cons] at read
    split at read
    · exact (ih read).trans later
    split at read
    · cases read
      exact later
    · cases read
      exact List.suffix_rfl

/-- The hyphens that open a class are the same in parentheses. -/
theorem openHyphens_inBrackets {steps steps' : Nat} {o : OpenClass} (enough : t.length < steps) :
  InBrackets (openHyphens f steps o t) (openHyphens f steps' o (t ++ [')']))
  := by
  intro opened r' wrapped
  induction steps' generalizing steps o t with
  | zero => cases wrapped
  | succ steps' ih =>
    rcases steps with _ | steps
    · exact absurd enough (Nat.not_lt_zero _)
    rcases t with _ | ⟨c, t⟩
    · rw [List.nil_append, openHyphens_cons, if_neg (by decide), if_neg (by simp)] at wrapped
      cases wrapped
      exact .inr (.inl rfl)
    rw [List.cons_append, openHyphens_cons] at wrapped
    rw [openHyphens_cons]
    split at wrapped
    · next hyphen =>
      rw [if_pos hyphen]
      rcases skip_append f t with eq | eq
      · rw [eq] at wrapped
        have shorter := (skip_isSuffix f t).length_le
        rw [List.length_cons] at enough
        exact ih (by omega) wrapped
      · rw [eq] at wrapped
        exact .inl (List.suffix_nil.mp (openHyphens_isSuffix wrapped))
    next hyphen =>
    rw [if_neg hyphen]
    split at wrapped
    · next closing =>
      cases wrapped
      rw [if_pos closing]
      exact (skip_append f t).elim (fun eq => .inr (.inr ⟨_, rfl, eq⟩)) .inl
    · next closing =>
      cases wrapped
      rw [if_neg closing]
      exact .inr (.inr ⟨_, rfl, rfl⟩)

theorem openClass_eq :
  openClass f t
    = if (f.skip t).head? = some '^' then
        openHyphens f ((f.skip (f.skip t).tail).length + 1) ⟨true, none, []⟩
          (f.skip (f.skip t).tail)
      else openHyphens f ((f.skip t).length + 1) ⟨false, none, []⟩ (f.skip t)
  := by
  rw [openClass]
  split
  · next u ahead =>
    rw [ahead]
    rfl
  · next other => rw [if_neg (head?_ne other)]

/-- An open bracket is read off the start of a text. -/
theorem openClass_isSuffix {opened : OpenClass} (read : openClass f t = some (opened, r)) :
  r <:+ t
  := by
  rw [openClass_eq] at read
  have part := skip_isSuffix f t
  split at read
  · exact ((openHyphens_isSuffix read).trans (skip_isSuffix f _)).trans
      ((List.tail_suffix _).trans part)
  · exact (openHyphens_isSuffix read).trans part

/-- An open bracket is the same in parentheses. -/
theorem openClass_inBrackets (f : Flags) (t : Text) :
  InBrackets (openClass f t) (openClass f (t ++ [')']))
  := by
  rw [openClass_eq, openClass_eq]
  rcases skip_append f t with eq | eq
  · rw [eq]
    rcases f.skip t with _ | ⟨c, u⟩
    · exact openHyphens_inBrackets (Nat.lt_succ_self _)
    by_cases negated : c = '^'
    · rw [List.cons_append, List.head?_cons, List.head?_cons, negated, if_pos rfl, if_pos rfl,
        List.tail_cons, List.tail_cons]
      rcases skip_append f u with eq | eq
      · rw [eq]
        exact openHyphens_inBrackets (Nat.lt_succ_self _)
      · rw [eq]
        rintro _ _ ⟨⟩
    · have apart (v : Text) : ¬ (c :: v).head? = some '^' := by simpa using negated
      rw [List.cons_append, if_neg (apart _), if_neg (apart _)]
      exact openHyphens_inBrackets (Nat.lt_succ_self _)
  · rw [eq]
    rintro _ _ ⟨⟩

/-- A named class behind its first colon and its `^`, if it has one. -/
def nameOfClass? (f : Flags) (negated : Bool) (t : Text) : Option (Option CharSet × Text) :=
  match (Text.spanWhile (· ≠ ':') t).2 with
  | ':' :: ']' :: r => do
    let set ← asciiClass? (String.ofList (Text.spanWhile (· ≠ ':') t).1)
    return (if negated then f.complement? (f.fold set) else some (f.fold set), r)
  | _ => none

/-- What is read up to a character is the same in parentheses, if the character is there. -/
theorem spanWhile_append {p : Char → Bool} (plain : p ')' = true) (t : Text) :
  Text.spanWhile p (t ++ [')'])
    = if t.dropWhile p = [] then (t ++ [')'], [])
      else (t.takeWhile p, t.dropWhile p ++ [')'])
  := by
  induction t with
  | nil => simp [Text.spanWhile, plain]
  | cons c t ih =>
    unfold Text.spanWhile at ih ⊢
    rw [List.cons_append, List.takeWhile_cons, List.takeWhile_cons, List.dropWhile_cons,
      List.dropWhile_cons]
    split
    · by_cases ended : t.dropWhile p = []
      · rw [if_pos ended] at ih ⊢
        obtain ⟨taken, dropped⟩ := Prod.mk.inj ih
        rw [taken, dropped]
      · rw [if_neg ended] at ih ⊢
        obtain ⟨taken, dropped⟩ := Prod.mk.inj ih
        rw [taken, dropped]
    · rfl

/-- The name of a class is the same in parentheses. -/
theorem nameOfClass?_append (f : Flags) (negated : Bool) (t : Text) :
  nameOfClass? f negated (t ++ [')'])
    = (nameOfClass? f negated t).map fun (set, r) => (set, r ++ [')'])
  := by
  rw [nameOfClass?, nameOfClass?, spanWhile_append (by decide), Text.spanWhile]
  rcases t.dropWhile (· ≠ ':') with _ | ⟨c, u⟩
  · rfl
  rw [if_neg (List.cons_ne_nil c u)]
  rcases u with _ | ⟨d, u⟩
  · simp
  by_cases closed : c = ':' ∧ d = ']'
  · obtain ⟨rfl, rfl⟩ := closed
    cases asciiClass? (String.ofList (t.takeWhile (· ≠ ':'))) <;> rfl
  · dsimp only
    split
    · next same => simp_all
    · split
      · next same => simp_all
      · rfl

/-- What follows the colon of a named class. -/
theorem parseAsciiClass_colon (f : Flags) (t : Text) :
  parseAsciiClass f (':' :: t)
    = if t.head? = some '^' then nameOfClass? f true t.tail else nameOfClass? f false t
  := by
  rcases t with _ | ⟨d, t⟩
  · rfl
  by_cases negated : d = '^'
  · subst negated
    rfl
  · rw [if_neg (by simpa using negated), parseAsciiClass]
    · rfl
    · rintro u ⟨⟩
      exact negated rfl

/-- A named class is the same in parentheses. -/
theorem parseAsciiClass_append (f : Flags) (t : Text) :
  parseAsciiClass f (t ++ [')'])
    = (parseAsciiClass f t).map fun (set, r) => (set, r ++ [')'])
  := by
  rcases t with _ | ⟨c, t⟩
  · rfl
  by_cases colon : c = ':'
  · subst colon
    rw [List.cons_append, parseAsciiClass_colon, parseAsciiClass_colon]
    rcases t with _ | ⟨d, t⟩
    · rfl
    · rw [List.cons_append, List.head?_cons, List.head?_cons, List.tail_cons, List.tail_cons]
      by_cases negated : d = '^'
      · rw [negated, if_pos rfl, if_pos rfl]
        exact nameOfClass?_append f true t
      · rw [if_neg (by simpa using negated), if_neg (by simpa using negated)]
        exact nameOfClass?_append f false (d :: t)
  · simp [parseAsciiClass, colon]

/-- A named class is read off the start of a text. -/
theorem parseAsciiClass_isSuffix {set : Option CharSet}
    (read : parseAsciiClass f t = some (set, r)) :
  r <:+ t
  := by
  have name {negated : Bool} {u : Text} (read : nameOfClass? f negated u = some (set, r)) :
      r <:+ u := by
    unfold nameOfClass? at read
    split at read
    · next behind =>
      obtain ⟨_, -, ⟨⟩⟩ := Option.bind_eq_some_iff.mp read
      have part : ':' :: ']' :: r <:+ u := behind ▸ List.dropWhile_suffix _
      exact ((List.suffix_cons ']' r).trans (List.suffix_cons ':' _)).trans part
    · cases read
  rcases t with _ | ⟨c, t⟩
  · cases read
  refine List.IsSuffix.trans ?_ (List.suffix_cons c t)
  by_cases colon : c = ':'
  · subst colon
    rw [parseAsciiClass_colon] at read
    split at read
    · exact (name read).trans (List.tail_suffix t)
    · exact name read
  · simp [parseAsciiClass, colon] at read

/-- Whether an atom is a condition. -/
def Atom.isCondition : Atom → Bool
  | .condition _ => true
  | _ => false

/-- A character or an escape inside a bracket that has members. -/
def memberAtom? (f : Flags) (t : Text) : Option (Atom × Text) :=
  (parseClassAtom f t).filter fun read => !read.1.isCondition

/-- An atom inside a bracket is an escape or another character. -/
theorem memberAtom?_eq_some_iff {atom : Atom} :
  memberAtom? f t = some (atom, r)
    ↔ ((∃ u, t = '\\' :: u ∧ parseEscape f u = some (atom, r))
      ∨ ∃ c, c ≠ '\\' ∧ t = c :: r ∧ atom = .literal c)
      ∧ atom.isMember f ∧ atom.isCondition = false
  := by
  rw [memberAtom?, Option.filter_eq_some_iff, parseClassAtom.eq_def]
  rcases t with _ | ⟨c, t⟩
  · simp
  by_cases escape : c = '\\'
  · subst escape
    cases read : parseEscape f t with
    | none => simp [read]
    | some found =>
      simp only [read, Option.bind_eq_bind, Option.bind_some, Option.ite_none_right_eq_some,
        Option.some.injEq, Prod.mk.injEq, Bool.not_eq_eq_eq_not, Bool.not_true, List.cons.injEq,
        true_and, exists_eq_left', ne_eq, ↓existsAndEq, not_true_eq_false, false_and, or_false]
      constructor
      · rintro ⟨⟨member, rfl, rfl⟩, unconditional⟩
        exact ⟨rfl, member, unconditional⟩
      · rintro ⟨rfl, member, unconditional⟩
        exact ⟨⟨member, rfl, rfl⟩, unconditional⟩
  · simp only [Option.bind_eq_bind, Option.bind_some, Option.ite_none_right_eq_some,
      Option.some.injEq, Prod.mk.injEq, Bool.not_eq_eq_eq_not, Bool.not_true, List.cons.injEq,
      escape, false_and, exists_const, ne_eq, ↓existsAndEq, not_false_eq_true, true_and, false_or]
    constructor
    · rintro ⟨⟨member, rfl, rfl⟩, unconditional⟩
      exact ⟨⟨rfl, rfl⟩, member, unconditional⟩
    · rintro ⟨⟨rfl, rfl⟩, member, unconditional⟩
      exact ⟨⟨member, rfl, rfl⟩, unconditional⟩

/-- A character or an escape that has members is a part. -/
theorem isPart_memberAtom (f : Flags) :
  IsPart (memberAtom? f)
  := by
  constructor
  · intro t atom r read
    rcases (memberAtom?_eq_some_iff.mp read).1 with ⟨u, rfl, found⟩ | ⟨c, -, rfl, -⟩
    · exact (parseEscape_isSuffix found).trans (List.suffix_cons _ u)
    · exact List.suffix_cons c r
  · intro t atom r' read
    obtain ⟨shape, member, unconditional⟩ := memberAtom?_eq_some_iff.mp read
    rcases t with _ | ⟨c, t⟩
    · rcases shape with ⟨u, ⟨⟩, -⟩ | ⟨c, -, ⟨⟩, -⟩
      exact .inl rfl
    rcases shape with ⟨u, ⟨⟩, found⟩ | ⟨c, plain, ⟨⟩, literal⟩
    · rcases parseEscape_inParens found with ended | ⟨r, same, rfl⟩ | ⟨look, _, rfl, -⟩
      · exact .inl ended
      · exact .inr ⟨r, memberAtom?_eq_some_iff.mpr
          ⟨.inl ⟨t, rfl, same⟩, member, unconditional⟩, rfl⟩
      · cases unconditional
    · exact .inr ⟨t, memberAtom?_eq_some_iff.mpr
        ⟨.inr ⟨c, plain, rfl, literal⟩, member, unconditional⟩, rfl⟩

/-- The range between two atoms, if they are characters in order. -/
def rangeOf? : Atom → Atom → Option CharSet
  | .literal a, .literal b => if a ≤ b then some (.range a b) else none
  | _, _ => none

/-- The range from an atom to the one that a text starts with. -/
def rangeFrom? (f : Flags) (first : Atom) (t : Text) : Option (CharSet × Text) :=
  (memberAtom? f t).bind fun (last, r) => (rangeOf? first last).map (·, r)

/--
A member of a bracket behind its first atom: a range if a hyphen and another atom follow, which
`range` makes of the text from there.
-/
def memberBehind? (f : Flags) (first : Atom) (range : Text → Option (CharSet × Text)) (t : Text) :
    Option (CharSet × Text) :=
  match t with
  | [] => none
  | '-' :: u =>
    match f.skip u with
    | ']' :: _ => first.member?.map (·, t)
    | '-' :: _ => first.member?.map (·, t)
    | [] => none
    | u => range u
  | t => first.member?.map (·, t)

/-- A condition is no member, and no end of a range. -/
theorem memberBehind?_condition {look : Look} {range : Text → Option (CharSet × Text)}
    (no_range : ∀ u, range u = none) :
  memberBehind? f (.condition look) range t = none
  := by
  unfold memberBehind?
  split
  · rfl
  · split
    · rfl
    · rfl
    · rfl
    · apply no_range
  · rfl

theorem parseMember_eq :
  parseMember f t
    = (parseClassAtom f t).bind fun (first, r) =>
      memberBehind? f first
        (fun u => (parseClassAtom f u).bind fun (last, r) =>
          match first, last with
          | .literal a, .literal b => if a ≤ b then some (CharSet.range a b, r) else none
          | _, _ => none)
        (f.skip r)
  := by
  rw [parseMember]
  rfl

/-- A member of a bracket is an atom that has members, and maybe a range from it. -/
theorem parseMember_eq_bind :
  parseMember f t
    = (memberAtom? f t).bind fun (first, r) =>
      memberBehind? f first (rangeFrom? f first) (f.skip r)
  := by
  rw [parseMember_eq, memberAtom?]
  cases parseClassAtom f t with
  | none => rfl
  | some read =>
    obtain ⟨first, r⟩ := read
    rw [Option.bind_some, Option.filter_some]
    dsimp only
    cases first with
    | condition look =>
      rw [Atom.isCondition, Bool.not_true, if_neg Bool.false_ne_true, Option.bind_none]
      apply memberBehind?_condition
      intro u
      cases parseClassAtom f u <;> rfl
    | set members =>
      rw [if_pos (show (!Atom.isCondition _) = true from rfl), Option.bind_some]
      congr
      funext u
      rw [rangeFrom?, memberAtom?]
      cases parseClassAtom f u with
      | none => rfl
      | some read => rcases read with ⟨last | last | last, r⟩ <;> rfl
    | literal a =>
      rw [if_pos (show (!Atom.isCondition _) = true from rfl), Option.bind_some]
      congr
      funext u
      rw [rangeFrom?, memberAtom?]
      cases parseClassAtom f u with
      | none => rfl
      | some read =>
        rcases read with ⟨last | last | last, r⟩ <;> try rfl
        rw [Option.bind_some, Option.filter_some,
          if_pos (show (!Atom.isCondition _) = true from rfl), Option.bind_some]
        dsimp only [rangeOf?]
        split <;> rfl

theorem memberAtom?_nil :
  memberAtom? f [] = none
  := by
  cases read : memberAtom? f [] with
  | none => rfl
  | some found =>
    rcases (memberAtom?_eq_some_iff.mp read).1 with ⟨_, ⟨⟩, -⟩ | ⟨_, -, ⟨⟩, -⟩

theorem isPart_rangeFrom (f : Flags) (first : Atom) :
  IsPart (rangeFrom? f first)
  := (isPart_memberAtom f).mapOption (rangeOf? first)

/-- Behind an atom a hyphen makes a range, or it is a member or a sign itself. -/
theorem memberBehind?_hyphen {first : Atom} (u : Text) :
  memberBehind? f first (rangeFrom? f first) ('-' :: u)
    = if (f.skip u).head? = some ']' ∨ (f.skip u).head? = some '-' then
        first.member?.map (·, '-' :: u)
      else rangeFrom? f first (f.skip u)
  := by
  rw [memberBehind?]
  split
  · next ahead => simp [ahead]
  · next ahead => simp [ahead]
  · next ahead =>
    rw [ahead, rangeFrom?, memberAtom?_nil]
    rfl
  · next closing hyphen _ =>
    rw [if_neg (not_or.mpr ⟨head?_ne closing, head?_ne hyphen⟩)]

theorem memberBehind?_other {first : Atom} {c : Char} (apart : c ≠ '-') (u : Text) :
  memberBehind? f first (rangeFrom? f first) (c :: u) = first.member?.map (·, c :: u)
  := by
  simp [memberBehind?, apart]

/-- What stands behind an atom is read off the start of a text. -/
theorem memberBehind?_isSuffix {first : Atom} {set : CharSet}
    (read : memberBehind? f first (rangeFrom? f first) t = some (set, r)) :
  r <:+ t
  := by
  rcases t with _ | ⟨c, u⟩
  · cases read
  by_cases hyphen : c = '-'
  · subst hyphen
    rw [memberBehind?_hyphen] at read
    split at read
    · obtain ⟨_, -, ⟨⟩⟩ := Option.map_eq_some_iff.mp read
      exact List.suffix_rfl
    · exact (((isPart_rangeFrom f first).isSuffix _ set r read).trans (skip_isSuffix f u)).trans
        (List.suffix_cons _ u)
  · rw [memberBehind?_other hyphen] at read
    obtain ⟨_, -, ⟨⟩⟩ := Option.map_eq_some_iff.mp read
    exact List.suffix_rfl

/-- What stands behind an atom is the same in parentheses. -/
theorem memberBehind?_inBrackets (f : Flags) (first : Atom) (t : Text) :
  InBrackets (memberBehind? f first (rangeFrom? f first) t)
    (memberBehind? f first (rangeFrom? f first) (t ++ [')']))
  := by
  intro set r' wrapped
  rcases t with _ | ⟨c, u⟩
  · rw [List.nil_append, memberBehind?_other (by decide)] at wrapped
    obtain ⟨_, -, ⟨⟩⟩ := Option.map_eq_some_iff.mp wrapped
    exact .inr (.inl rfl)
  rw [List.cons_append] at wrapped
  by_cases hyphen : c = '-'
  · subst hyphen
    rw [memberBehind?_hyphen] at wrapped
    rw [memberBehind?_hyphen]
    have ranged :
        InParens (rangeFrom? f first (f.skip u)) (rangeFrom? f first (f.skip u ++ [')'])) :=
      (isPart_rangeFrom f first).inParens _
    rcases skip_append f u with eq | eq
    · rw [eq] at wrapped
      rcases ahead : f.skip u with _ | ⟨d, v⟩
      · rw [ahead] at wrapped ranged
        rw [List.nil_append, if_neg (by simp)] at wrapped
        exact (ranged set r' wrapped).imp_right .inr
      · rw [ahead] at wrapped ranged
        have head_eq : (d :: v ++ [')']).head? = (d :: v).head? := rfl
        rw [head_eq] at wrapped
        split at wrapped
        · next sign =>
          rw [if_pos sign]
          obtain ⟨_, member, ⟨⟩⟩ := Option.map_eq_some_iff.mp wrapped
          exact .inr (.inr ⟨_, by rw [member]; rfl, rfl⟩)
        · next sign =>
          rw [if_neg sign]
          exact (ranged set r' wrapped).imp_right .inr
    · rw [eq] at wrapped
      simp [rangeFrom?, memberAtom?_nil] at wrapped
  · rw [memberBehind?_other hyphen] at wrapped
    rw [memberBehind?_other hyphen]
    obtain ⟨_, member, ⟨⟩⟩ := Option.map_eq_some_iff.mp wrapped
    exact .inr (.inr ⟨_, by rw [member]; rfl, rfl⟩)

/-- A member of a bracket is read off the start of a text, with one character at least. -/
theorem parseMember_isSuffix {set : CharSet} (read : parseMember f t = some (set, r)) :
  r <:+ t.tail ∧ t ≠ []
  := by
  rw [parseMember_eq_bind] at read
  obtain ⟨⟨first, rest⟩, atom, behind⟩ := Option.bind_eq_some_iff.mp read
  have part : r <:+ rest := (memberBehind?_isSuffix behind).trans (skip_isSuffix f rest)
  rcases (memberAtom?_eq_some_iff.mp atom).1 with ⟨u, rfl, found⟩ | ⟨c, -, rfl, -⟩
  · exact ⟨part.trans (parseEscape_isSuffix found), List.cons_ne_nil _ _⟩
  · exact ⟨part, List.cons_ne_nil _ _⟩

/-- A member of a bracket is the same in parentheses. -/
theorem parseMember_inBrackets (f : Flags) (t : Text) :
  InBrackets (parseMember f t) (parseMember f (t ++ [')']))
  := by
  intro set r' wrapped
  rw [parseMember_eq_bind] at wrapped
  obtain ⟨⟨first, rest⟩, atom, behind⟩ := Option.bind_eq_some_iff.mp wrapped
  rcases (isPart_memberAtom f).inParens t first rest atom with rfl | ⟨r, same, rfl⟩
  · dsimp only at behind
    rw [skip_nil] at behind
    cases behind
  · have within := memberBehind?_inBrackets f first (f.skip r)
    rcases skip_append f r with eq | eq
    · dsimp only at behind
      rw [eq] at behind
      rw [parseMember_eq_bind, same]
      exact within set r' behind
    · dsimp only at behind
      rw [eq] at behind
      cases behind

theorem parseClassBody_nil {steps : Nat} {outer : List OpenClass} {o : OpenClass} :
  parseClassBody f steps outer o [] = none
  := by
  cases steps with
  | zero => rfl
  | succ steps =>
    rw [parseClassBody, skip_nil]

/-- A last character is no member, as the class is not closed behind it. -/
theorem parseMember_singleton {c : Char} :
  parseMember f [c] = none
  := by
  rw [parseMember_eq_bind]
  cases read : memberAtom? f [c] with
  | none => rfl
  | some found =>
    obtain ⟨first, r⟩ := found
    have ended : r = [] := by
      rcases (memberAtom?_eq_some_iff.mp read).1 with ⟨u, ⟨⟩, escape⟩ | ⟨_, -, ⟨⟩, -⟩
      · exact List.suffix_nil.mp (parseEscape_isSuffix escape)
      · rfl
    rw [ended, Option.bind_some]
    dsimp only
    rw [skip_nil]
    rfl

/-- Nothing closes a class behind a parenthesis that is the last character. -/
theorem parseClassBody_paren {steps : Nat} {outer : List OpenClass} {o : OpenClass} :
  parseClassBody f steps outer o [')'] = none
  := by
  cases steps with
  | zero => rfl
  | succ steps =>
    rw [parseClassBody, skip_paren]
    simp [parseMember_singleton]

/-- What is read of a class in parentheses goes on where it is not at the end. -/
theorem InBrackets.elim {read wrapped : Option (α × Text)} (within : InBrackets read wrapped)
    {a : α} (found : wrapped = some (a, r')) {steps : Nat} {outer : List OpenClass} {o : OpenClass}
    {closed : Nested CharSet × Text} (later : parseClassBody f steps outer o r' = some closed) :
  ∃ r, read = some (a, r) ∧ r' = r ++ [')']
  := by
  rcases within a r' found with rfl | rfl | split
  · rw [parseClassBody_nil] at later
    cases later
  · rw [parseClassBody_paren] at later
    cases later
  · exact split

/-- The set of a class is the same in parentheses. -/
theorem parseClassBody_inParens {steps steps' : Nat} {outer : List OpenClass} {o : OpenClass}
    (enough : t.length < steps) :
  InParens (parseClassBody f steps outer o t) (parseClassBody f steps' outer o (t ++ [')']))
  := by
  intro set r' wrapped
  induction steps' generalizing steps outer o t with
  | zero => cases wrapped
  | succ steps' ih =>
    rcases steps with _ | steps
    · exact absurd enough (Nat.not_lt_zero _)
    have go {outer : List OpenClass} {o : OpenClass} {u : Text} (shorter : u.length < t.length)
        (wrapped : parseClassBody f steps' outer o (u ++ [')']) = some (set, r')) :
        r' = [] ∨ ∃ r, parseClassBody f steps outer o u = some (set, r) ∧ r' = r ++ [')'] :=
      ih (by omega) wrapped
    rcases skip_append f t with eq | eq
    case inr =>
      rw [parseClassBody, eq] at wrapped
      cases wrapped
    rw [parseClassBody, eq] at wrapped
    rw [parseClassBody]
    split at wrapped
    case h_1 => cases wrapped
    case h_2 u' ahead =>
      obtain ⟨u, skipped, rfl⟩ := cons_of_append (by decide) ahead
      have shorter := length_of_skip skipped
      rw [parseAsciiClass_append] at wrapped
      rw [skipped]
      simp only
      cases named : parseAsciiClass f u with
      | some read =>
        rw [named] at wrapped
        obtain ⟨members, present, later⟩ := Option.bind_eq_some_iff.mp wrapped
        have part := (parseAsciiClass_isSuffix named).length_le
        simp only at present later ⊢
        rw [present]
        exact go (by omega) later
      | none =>
        rw [named] at wrapped
        obtain ⟨⟨inner, rest⟩, opens, later⟩ := Option.bind_eq_some_iff.mp wrapped
        obtain ⟨r, opened, rfl⟩ := (openClass_inBrackets f u).elim opens later
        have part := (openClass_isSuffix opened).length_le
        simp only
        rw [opened]
        exact go (show r.length < t.length by omega) later
    case h_3 u' ahead =>
      obtain ⟨u, skipped, rfl⟩ := cons_of_append (by decide) ahead
      obtain ⟨closed, close_eq, later⟩ := Option.bind_eq_some_iff.mp wrapped
      have shorter := length_of_skip skipped
      rw [skipped]
      simp only
      rw [close_eq]
      rcases outer with _ | ⟨enclosing, outer⟩
      · cases later
        exact .inr ⟨u, rfl, rfl⟩
      · exact go shorter later
    case h_4 u' ahead | h_5 u' ahead | h_6 u' ahead =>
      obtain ⟨v, skipped, split⟩ := cons_of_append (by decide) ahead
      obtain ⟨u, rfl, rfl⟩ := cons_of_append (by decide) split.symm
      have shorter := length_of_skip skipped
      rw [List.length_cons] at shorter
      rw [skipped]
      exact go (by omega) wrapped
    case h_7 =>
      obtain ⟨⟨member, rest⟩, reads, later⟩ := Option.bind_eq_some_iff.mp wrapped
      obtain ⟨r, read, rfl⟩ := (parseMember_inBrackets f (f.skip t)).elim reads later
      obtain ⟨part, some_ahead⟩ := parseMember_isSuffix read
      have shorter : r.length < t.length := by
        have skipped := (skip_isSuffix f t).length_le
        have behind := part.length_le
        have positive := List.length_pos_iff.mpr some_ahead
        rw [List.length_tail] at behind
        omega
      split
      case h_7 =>
        rw [read]
        exact go shorter later
      all_goals simp_all

/-- The set of a class is read off the start of a text. -/
theorem parseClassBody_isSuffix {steps : Nat} {outer : List OpenClass} {o : OpenClass}
    {set : Nested CharSet} (read : parseClassBody f steps outer o t = some (set, r)) :
  r <:+ t
  := by
  induction steps generalizing outer o t with
  | zero => cases read
  | succ steps ih =>
    have part := skip_isSuffix f t
    have go {c : Char} {u v : Text} (ahead : f.skip t = c :: u) (later : v <:+ u) : v <:+ t := by
      rw [ahead] at part
      exact (later.trans (List.suffix_cons c u)).trans part
    rw [parseClassBody] at read
    split at read
    case h_1 => cases read
    case h_2 u ahead =>
      split at read
      · next named =>
        obtain ⟨_, -, later⟩ := Option.bind_eq_some_iff.mp read
        exact go ahead ((ih later).trans (parseAsciiClass_isSuffix named))
      · obtain ⟨⟨_, _⟩, opened, later⟩ := Option.bind_eq_some_iff.mp read
        exact go ahead ((ih later).trans (openClass_isSuffix opened))
    case h_3 u ahead =>
      obtain ⟨_, -, later⟩ := Option.bind_eq_some_iff.mp read
      rcases outer with _ | ⟨enclosing, outer⟩
      · cases later
        exact go ahead List.suffix_rfl
      · exact go ahead (ih later)
    case h_4 u ahead | h_5 u ahead | h_6 u ahead =>
      exact go ahead ((ih read).trans (List.suffix_cons _ u))
    case h_7 =>
      obtain ⟨⟨_, _⟩, found, later⟩ := Option.bind_eq_some_iff.mp read
      have further := (parseMember_isSuffix found).1.trans (List.tail_suffix _)
      exact ((ih later).trans further).trans part

/-- A bracketed class is a part. -/
theorem isPart_class (f : Flags) :
  IsPart (parseClass f)
  := by
  constructor
  · intro t set r read
    obtain ⟨⟨_, _⟩, opened, body⟩ := Option.bind_eq_some_iff.mp read
    exact (parseClassBody_isSuffix body).trans (openClass_isSuffix opened)
  · intro t set r' wrapped
    obtain ⟨⟨o, rest⟩, opens, body⟩ := Option.bind_eq_some_iff.mp wrapped
    obtain ⟨r, opened, rfl⟩ := (openClass_inBrackets f t).elim opens body
    have part := (openClass_isSuffix opened).length_le
    rw [parseClass, opened]
    exact parseClassBody_inParens (by omega) set r' body

end EditorModes.Regex
