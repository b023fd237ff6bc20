import EditorModes.Proofs.Lexer.Step

/-!
# Characters taken without a rule

Where no rule matches, and where too many steps in a row consumed nothing, a lexer makes the next
character a token of the default type.  The steps that are counted are its own ones: while they
consume nothing, embedded tokenizers may still consume text in between, and then the character is
taken behind the place where the steps were made.  The strides of a run are what is seen of its
steps; from them alone it follows where a lexer falls back on its default type
(`Lexer.fallsBack_iff`).
-/

namespace EditorModes

/-- What is seen of a step: whose it was, where it started and how many bytes it consumed. -/
structure Stride where
  /-- Whether the lexer made the step itself, and no embedded language had its turn. -/
  own : Bool
  start : Nat
  size : Nat
  deriving DecidableEq, Repr

namespace Stride

/-- The own steps of a lexer since one of them consumed something, latest first. -/
def idle (strides : List Stride) : List Stride :=
  (strides.filter (·.own)).takeWhile (·.size = 0)

/-- No embedded tokenizer consumed text after the last own step of the lexer had consumed none. -/
def Undisturbed (strides : List Stride) : Prop :=
  ∀ later s earlier, strides = later ++ s :: earlier → s.own = false → s.size ≠ 0 →
    idle earlier = []

variable {s : Stride} {strides : List Stride}

theorem idle_cons_of_guest (guest : s.own = false) :
  idle (s :: strides) = idle strides
  := by
  rw [idle, List.filter_cons_of_neg (by simp [guest]), idle]

theorem idle_cons_of_eq (own : s.own = true) (size_eq : s.size = 0) :
  idle (s :: strides) = s :: idle strides
  := by
  rw [idle, List.filter_cons_of_pos own, List.takeWhile_cons_of_pos (by simpa using size_eq), idle]

theorem idle_cons_of_ne (own : s.own = true) (size_ne : s.size ≠ 0) :
  idle (s :: strides) = []
  := by
  rw [idle, List.filter_cons_of_pos own, List.takeWhile_cons_of_neg (by simpa using size_ne)]

theorem size_eq_of_mem_idle (counted : s ∈ idle strides) :
  s.size = 0
  := by
  simpa using List.mem_takeWhile_imp counted

/-- The latest of the steps that are counted are the latest own steps. -/
theorem exists_recent {n : Nat} (enough : n ≤ (idle strides).length) :
  ∃ recent earlier, strides.filter (·.own) = recent ++ earlier ∧ recent.length = n
    ∧ ∀ s ∈ recent, s ∈ idle strides
  := by
  obtain ⟨rest, split⟩ := List.takeWhile_prefix (·.size = 0) (l := strides.filter (·.own))
  refine ⟨(idle strides).take n, (strides.filter (·.own)).drop n, ?_, ?_, ?_⟩
  · have counted : (idle strides).take n = (strides.filter (·.own)).take n := by
      rw [← split]
      exact (List.take_append_of_le_length enough).symm
    rw [counted, List.take_append_drop]
  · rw [List.length_take, Nat.min_eq_left enough]
  · intro s among
    apply List.mem_of_mem_take among

theorem length_le_idle {recent earlier : List Stride}
    (split : strides.filter (·.own) = recent ++ earlier) (sizes : ∀ s ∈ recent, s.size = 0) :
  recent.length ≤ (idle strides).length
  := by
  rw [idle, split, List.takeWhile_append_of_pos (by simpa using sizes), List.length_append]
  apply Nat.le_add_right

theorem Undisturbed.of_cons (undisturbed : Undisturbed (s :: strides)) :
  Undisturbed strides
  := by
  rintro later other earlier rfl
  apply undisturbed (s :: later)
  rfl

end Stride

namespace Lexer

/-- Whether the lexer makes the next step itself. -/
def Progress.isOwn (p : Progress) : Bool :=
  p.guestRan || p.state.guest?.isNone

/-- The lexer takes the next character by no rule: none matches, or none may be applied. -/
def FallsBack (l : Lexer) (p : Progress) : Prop :=
  p.isOwn ∧ (p.stalled < stallLimit → l.findRule? p.state p.rest = none)

/-- The strides on the way from a place to another, latest first. -/
inductive Passes (l : Lexer) (resolve : String → Option Guest) (delta : Nat) (start : Progress) :
    List Stride → Progress → Prop where
  | start : Passes l resolve delta start [] start
  | step {strides : List Stride} {p q : Progress} (passed : Passes l resolve delta start strides p)
      (ahead : p.rest ≠ []) (moved : l.Moves resolve delta p q) :
      Passes l resolve delta start (⟨p.isOwn, p.position, q.position - p.position⟩ :: strides) q

variable {l : Lexer} {resolve : String → Option Guest} {delta : Nat} {p q start : Progress}
  {strides : List Stride}

/-- A step is the lexer's own one when no embedded tokenizer has its turn. -/
theorem Progress.isOwn_iff :
  p.isOwn ↔ ∀ language inner, ¬ GuestTurn p language inner
  := by
  rw [isOwn, Bool.or_eq_true, Option.isNone_iff_eq_none]
  constructor
  · rintro (ran | alone) language inner ⟨embedded, unvisited⟩
    · rw [ran] at unvisited
      cases unvisited
    · rw [alone] at embedded
      cases embedded
  · intro turn
    cases unvisited : p.guestRan with
    | true => exact .inl rfl
    | false =>
      right
      cases embedded : p.state.guest? with
      | none => rfl
      | some guest => exact absurd ⟨embedded, unvisited⟩ (turn guest.1 guest.2)

theorem GuestTurn.isOwn_eq {language : String} {inner : LexerState}
    (turn : GuestTurn p language inner) :
  p.isOwn = false
  := by
  rw [Bool.eq_false_iff]
  intro own
  apply Progress.isOwn_iff.mp own language inner turn

theorem FallsBack.eq_of_moves (falls : l.FallsBack p) (moved : l.Moves resolve delta p q) :
  q = l.skipChar delta p
  := moved.unique (.skip (Progress.isOwn_iff.mp falls.1) falls.2)

/-- Where a lexer makes a step itself and does not fall back, it applies the first rule. -/
theorem Moves.exists_rule (moved : l.Moves resolve delta p q) (own : p.isOwn)
    (holds : ¬ l.FallsBack p) :
  ∃ rule count, l.findRule? p.state p.rest = some (rule, count)
    ∧ q = l.applyRule resolve delta p rule count
  := by
  have turn := Progress.isOwn_iff.mp own
  cases moved with
  | leave taken | pass taken | handOn taken => exact absurd taken (turn _ _)
  | apply _ _ found => exact ⟨_, _, found, rfl⟩
  | skip _ reason => exact absurd ⟨own, reason⟩ holds

theorem Passes.run?_eq (passed : l.Passes resolve delta start strides p) :
  l.run? resolve delta start = l.run? resolve delta p
  := by
  induction passed with
  | start => rfl
  | step _ ahead moved ih => rw [ih, run?_of_moves ahead moved]

/-- A run counts its own steps that consumed nothing, since one of them consumed something. -/
theorem Passes.stalled_eq (passed : l.Passes resolve delta start strides p)
    (fresh : start.stalled = 0) :
  p.stalled = (Stride.idle strides).length
  := by
  induction passed with
  | start => exact fresh
  | @step strides p q passed ahead moved ih =>
    cases moved with
    | leave turn gone => rw [Stride.idle_cons_of_guest turn.isOwn_eq, ← ih]
    | pass turn found empty => rw [Stride.idle_cons_of_guest turn.isOwn_eq, ← ih]
    | handOn turn found nonempty answer =>
      rw [Stride.idle_cons_of_guest turn.isOwn_eq, ← ih, afterGuest]
    | @apply rule count turn soon found =>
      have own := Progress.isOwn_iff.mpr turn
      by_cases empty : p.rest.take count = []
      · rw [Stride.idle_cons_of_eq own (by simp [applyRule, empty]), List.length_cons, ← ih]
        simp [applyRule, empty]
      · have consumed := Text.byteSize_pos empty
        rw [Stride.idle_cons_of_ne own (by simp only [applyRule]; omega)]
        simp [applyRule, empty]
    | skip turn reason =>
      have own := Progress.isOwn_iff.mpr turn
      have consumed := Text.byteSize_pos (t := p.rest.take 1) (by simp [ahead])
      rw [Stride.idle_cons_of_ne own (by simp only [skipChar]; omega)]
      rfl

/-- Steps that were not disturbed and consumed nothing were made where the run is now. -/
theorem Passes.start_eq (passed : l.Passes resolve delta start strides p)
    (undisturbed : Stride.Undisturbed strides) {s : Stride} (counted : s ∈ Stride.idle strides) :
  s.start = p.position
  := by
  induction passed with
  | start => simp [Stride.idle] at counted
  | @step strides p q passed ahead moved ih =>
    obtain ⟨text, -, position_eq⟩ := moved.consumes
    have ih := ih undisturbed.of_cons
    by_cases still : q.position - p.position = 0
    · have here : p.position = q.position := by omega
      rw [← here]
      cases own : p.isOwn with
      | false =>
        rw [Stride.idle_cons_of_guest own] at counted
        apply ih counted
      | true =>
        rw [Stride.idle_cons_of_eq own still] at counted
        rcases List.mem_cons.mp counted with rfl | counted
        · rfl
        · apply ih counted
    · cases own : p.isOwn with
      | false =>
        rw [Stride.idle_cons_of_guest own, undisturbed [] _ _ rfl own still] at counted
        cases counted
      | true =>
        rw [Stride.idle_cons_of_ne own still] at counted
        cases counted

/--
At each place that the run of a text goes through, an own step of the lexer falls back on the
default type for one character, or it applies the first rule that matches.  It falls back exactly
when no rule matches there, or when its latest own steps, as many as the limit, consumed nothing.
If no embedded tokenizer consumed text after such a step, these steps were all made at that very
place.
-/
theorem fallsBack_iff {text : Text} {state : LexerState}
    (passed : l.Passes resolve delta (.ofText text state) strides p) :
  l.run? resolve delta (.ofText text state) = l.run? resolve delta p
    ∧ (∀ q, l.Moves resolve delta p q → p.isOwn →
      l.FallsBack p ∧ q = l.skipChar delta p
        ∨ ¬ l.FallsBack p ∧ ∃ rule count, l.findRule? p.state p.rest = some (rule, count)
          ∧ q = l.applyRule resolve delta p rule count)
    ∧ (l.FallsBack p ↔ p.isOwn ∧ (l.findRule? p.state p.rest = none
      ∨ ∃ recent earlier, strides.filter (·.own) = recent ++ earlier
        ∧ recent.length = stallLimit ∧ ∀ s ∈ recent, s.size = 0))
    ∧ (Stride.Undisturbed strides → l.FallsBack p → l.findRule? p.state p.rest = none
      ∨ ∃ recent earlier, strides.filter (·.own) = recent ++ earlier
        ∧ recent.length = stallLimit ∧ ∀ s ∈ recent, s.size = 0 ∧ s.start = p.position)
  := by
  have stalled_eq := passed.stalled_eq rfl
  have stale : l.FallsBack p → l.findRule? p.state p.rest ≠ none →
      stallLimit ≤ (Stride.idle strides).length := by
    intro falls matched
    rw [← stalled_eq]
    apply Nat.le_of_not_lt
    intro fresh
    exact matched (falls.2 fresh)
  refine ⟨passed.run?_eq, ?_, ?_, ?_⟩
  · intro q moved own
    by_cases falls : l.FallsBack p
    · exact .inl ⟨falls, falls.eq_of_moves moved⟩
    · exact .inr ⟨falls, moved.exists_rule own falls⟩
  · constructor
    · intro falls
      refine ⟨falls.1, or_iff_not_imp_left.mpr fun matched => ?_⟩
      obtain ⟨recent, earlier, split, length_eq, counted⟩ :=
        Stride.exists_recent (stale falls matched)
      exact ⟨recent, earlier, split, length_eq, fun s among =>
        Stride.size_eq_of_mem_idle (counted s among)⟩
    · rintro ⟨own, unmatched | ⟨recent, earlier, split, length_eq, sizes⟩⟩
      · exact ⟨own, fun _ => unmatched⟩
      · refine ⟨own, fun fresh => ?_⟩
        have := Stride.length_le_idle split sizes
        omega
  · intro undisturbed falls
    refine or_iff_not_imp_left.mpr fun matched => ?_
    obtain ⟨recent, earlier, split, length_eq, counted⟩ :=
      Stride.exists_recent (stale falls matched)
    refine ⟨recent, earlier, split, length_eq, fun s among => ?_⟩
    exact ⟨Stride.size_eq_of_mem_idle (counted s among),
      passed.start_eq undisturbed (counted s among)⟩

/-- The strides of so many steps from a place, latest first, and the place they lead to. -/
def walk? (l : Lexer) (resolve : String → Option Guest) (delta : Nat) (start : Progress) :
    Nat → Option (List Stride × Progress)
  | 0 => some ([], start)
  | steps + 1 => do
    let (strides, p) ← walk? l resolve delta start steps
    (if p.rest = [] then none else l.step? resolve delta p).map fun q =>
      (⟨p.isOwn, p.position, q.position - p.position⟩ :: strides, q)

/-- A walk passes along its strides. -/
theorem passes_of_walk? {steps : Nat}
    (walked : l.walk? resolve delta start steps = some (strides, p)) :
  l.Passes resolve delta start strides p
  := by
  induction steps generalizing strides p with
  | zero =>
    obtain ⟨rfl, rfl⟩ := Prod.mk.inj (Option.some.inj walked)
    apply Passes.start
  | succ steps ih =>
    simp only [walk?, Option.bind_eq_bind, Option.bind_eq_some_iff, Prod.exists] at walked
    obtain ⟨earlier, o, before, walked⟩ := walked
    obtain ⟨next, stepped, same⟩ := Option.map_eq_some_iff.mp walked
    obtain ⟨rfl, rfl⟩ := Prod.mk.inj same
    split at stepped
    · cases stepped
    · next ahead => exact .step (ih before) ahead (step?_eq_some_iff.mp stepped)

end Lexer

/-- A state that only moves on. -/
def waitState (n : Nat) : String :=
  String.ofList (List.replicate (n + 1) 'w')

/-- A host that takes sixteen steps to get to an embedded language, and consumes nothing by them. -/
def hesitant : Grammar where
  name := "host"
  defaultToken := "text"
  start := waitState 0
  states :=
    [("inside", [.own {
        pattern := ">", token := "bracket", switchTo := "@outside", nextEmbedded := "@pop" }]),
      ("outside", [.ofToken "[a-z]" "word"])]
    ++ (List.range 15).map (fun n =>
      (waitState n, [.own { pattern := "", switchTo := waitState (n + 1) }]))
    ++ [(waitState 15, [.own {
        pattern := "", switchTo := "@inside", nextEmbedded := "guest" }])]

/-- The lexer of the host that hesitates. -/
def hesitantLexer : Lexer :=
  hesitant.compile.toOption.get (by decide +kernel)

/-- A registry with a plain tokenizer for the embedded language. -/
def plainGuests : TokenizerRegistry :=
  (TokenizerRegistry.add {} (.plain (.ofLanguage "guest"))).2

/--
What is seen of a walk: its strides, the place it leads to, whether the next step is the lexer's
own one, how many idle steps are counted, and whether a rule matches.
-/
def Lexer.glimpse? (l : Lexer) (registry : TokenizerRegistry) (line : Text) (state : LexerState)
    (steps : Nat) : Option (List Stride × Nat × Bool × Nat × Bool) :=
  (l.walk? (registry.guestsWithin 1 true) 0 (.ofText line state) steps).map fun (strides, p) =>
    (strides, p.position, p.isOwn, p.stalled, (l.findRule? p.state p.rest).isSome)

/-- After too many idle steps a lexer falls back, also where a rule matches. -/
theorem Lexer.exists_of_glimpse? {l : Lexer} {registry : TokenizerRegistry} {line : Text}
    {state : LexerState} {steps position : Nat} {strides : List Stride}
    (seen : l.glimpse? registry line state steps = some (strides, position, true, 16, true)) :
  ∃ p, l.Passes (registry.guestsWithin 1 true) 0 (.ofText line state) strides p
    ∧ p.position = position ∧ l.FallsBack p ∧ l.findRule? p.state p.rest ≠ none
  := by
  obtain ⟨⟨strides, p⟩, walked, same⟩ := Option.map_eq_some_iff.mp seen
  simp only [Prod.mk.injEq] at same
  obtain ⟨rfl, rfl, own, stalled_eq, matched⟩ := same
  refine ⟨p, passes_of_walk? walked, rfl, ⟨own, fun fresh => ?_⟩, ?_⟩
  · rw [stalled_eq] at fresh
    exact absurd fresh (Nat.lt_irrefl _)
  · exact Option.ne_none_iff_isSome.mpr matched

/--
Without a tokenizer for the embedded language, the sixteen idle steps are made where the character
is taken that the last rule matches.
-/
theorem Lexer.fallsBack_iff_hesitant :
  ∃ p, hesitantLexer.Passes (TokenizerRegistry.guestsWithin {} 1 true) 0
      (.ofText ">".toList (.initial (waitState 0))) (List.replicate 16 ⟨true, 0, 0⟩) p
    ∧ Stride.Undisturbed (List.replicate 16 ⟨true, 0, 0⟩) ∧ hesitantLexer.FallsBack p
    ∧ hesitantLexer.findRule? p.state p.rest ≠ none
    ∧ ∃ recent earlier, (List.replicate 16 (⟨true, 0, 0⟩ : Stride)).filter (·.own)
        = recent ++ earlier
      ∧ recent.length = stallLimit ∧ ∀ s ∈ recent, s.size = 0 ∧ s.start = p.position
  := by
  have seen : hesitantLexer.glimpse? {} ">".toList (.initial (waitState 0)) 16
      = some (List.replicate 16 ⟨true, 0, 0⟩, 0, true, 16, true) := by
    decide +kernel
  obtain ⟨p, passed, -, falls, matched⟩ := exists_of_glimpse? seen
  have undisturbed : Stride.Undisturbed (List.replicate 16 ⟨true, 0, 0⟩) := by
    intro later s earlier split guest
    have among : s ∈ List.replicate 16 (⟨true, 0, 0⟩ : Stride) := by simp [split]
    rw [List.eq_of_mem_replicate among] at guest
    cases guest
  use p, passed, undisturbed, falls, matched
  exact ((fallsBack_iff passed).2.2.2 undisturbed falls).resolve_left matched

/--
With a tokenizer for the embedded language, the same steps are made where it starts to read, and
the character behind what it reads is taken although a rule matches there.
-/
theorem Lexer.fallsBack_behind_guest :
  (∃ p, hesitantLexer.Passes (plainGuests.guestsWithin 1 true) 0
      (.ofText "a>".toList (.initial (waitState 0)))
      (⟨false, 0, 1⟩ :: List.replicate 16 ⟨true, 0, 0⟩) p
    ∧ hesitantLexer.FallsBack p ∧ hesitantLexer.findRule? p.state p.rest ≠ none
    ∧ ∀ s ∈ List.replicate 16 (⟨true, 0, 0⟩ : Stride), s.start ≠ p.position)
    ∧ (Tokenizer.lexer hesitantLexer true).tokenize? plainGuests "a>".toList
        (.initial (waitState 0)) 0 none
      = some ⟨[⟨0, "text"⟩, ⟨1, "text"⟩], [⟨0, "guest"⟩, ⟨1, "host"⟩], 2,
          ⟨⟨"inside", [], 0⟩, [("guest", ⟨"root", [], 0⟩)]⟩⟩
  := by
  have seen : hesitantLexer.glimpse? plainGuests "a>".toList (.initial (waitState 0)) 17
      = some (⟨false, 0, 1⟩ :: List.replicate 16 ⟨true, 0, 0⟩, 1, true, 16, true) := by
    decide +kernel
  obtain ⟨p, passed, here, falls, matched⟩ := exists_of_glimpse? seen
  refine ⟨⟨p, passed, falls, matched, ?_⟩, by decide +kernel⟩
  intro s among
  rw [List.eq_of_mem_replicate among, here]
  exact Nat.zero_ne_one

end EditorModes
