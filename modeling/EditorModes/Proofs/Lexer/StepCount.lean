import EditorModes.Proofs.Lexer.Fallback

/-!
# How many steps a line takes

Steps that consume nothing are made where a lexer stands: one for the embedded language, and as
many for rules as may consume nothing in a row.  The next step then consumes a character, so a line
takes no more than eighteen steps for each of its characters, and no more at any one place
(`Lexer.steps_bounded`).  The run ends where the visible part of the line does, or it comes to a
region whose tokenizer does not answer.
-/

namespace EditorModes

/-- The number of steps that were made at a place. -/
def Stride.countAt (strides : List Stride) (offset : Nat) : Nat :=
  strides.countP (·.start = offset)

namespace Lexer

/-- The steps at the place of a run that may have consumed nothing. -/
def Progress.spent (p : Progress) : Nat :=
  p.guestRan.toNat + p.stalled

/-- The next step is to hand on a region, and its tokenizer does not answer. -/
def Unanswered (l : Lexer) (resolve : String → Option Guest) (delta : Nat) (p : Progress) : Prop :=
  ∃ language inner guest, GuestTurn p language inner ∧ resolve language = some guest
    ∧ l.region p ≠ [] ∧ guest.run (l.region p) inner (delta + p.position) = none

variable {l : Lexer} {resolve : String → Option Guest} {delta : Nat} {p q start : Progress}
  {strides : List Stride}

/-! ### Steps at a place -/

/-- A move consumes some of the text ahead, or else it is one more of the steps at its place. -/
theorem Moves.consumes_or_spends (ahead : p.rest ≠ []) (moved : l.Moves resolve delta p q) :
  q.rest.length < p.rest.length ∧ p.position < q.position
    ∨ q.rest = p.rest ∧ q.position = p.position ∧ q.spent = p.spent + 1
  := by
  obtain ⟨passed, rest_eq, position_eq⟩ := moved.consumes
  by_cases nothing : passed = []
  · subst nothing
    right
    rw [List.nil_append] at rest_eq
    refine ⟨rest_eq.symm, position_eq, ?_⟩
    cases moved with
    | leave turn gone => simp [Progress.spent, turn.2, Nat.add_comm]
    | pass turn found empty => simp [Progress.spent, turn.2, Nat.add_comm]
    | handOn turn found nonempty answer =>
      have consumed := Text.byteSize_pos nonempty
      simp only [afterGuest, Text.byteSize_nil] at position_eq
      omega
    | @apply rule count turn fresh found =>
      have empty : p.rest.take count = [] := by
        by_contra nonempty
        have consumed := Text.byteSize_pos nonempty
        simp only [applyRule, Text.byteSize_nil] at position_eq
        omega
      simp [Progress.spent, applyRule, empty, Nat.add_assoc]
    | skip turn reason =>
      have consumed := Text.byteSize_pos (t := p.rest.take 1) (by simp [ahead])
      simp only [skipChar, Text.byteSize_nil] at position_eq
      omega
  · left
    have consumed := Text.byteSize_pos nothing
    have some_passed := List.length_pos_iff.mpr nothing
    rw [rest_eq, List.length_append]
    omega

/-- No more steps in a row consume nothing than the limit allows. -/
theorem Moves.stalled_le (moved : l.Moves resolve delta p q) (bounded : p.stalled ≤ stallLimit) :
  q.stalled ≤ stallLimit
  := by
  cases moved with
  | leave | pass | handOn => apply bounded
  | apply turn fresh found =>
    simp only [applyRule]
    split_ifs
    · apply Nat.succ_le_of_lt fresh
    · apply Nat.zero_le
  | skip => apply Nat.zero_le

/-! ### Steps of a run -/

/--
The steps of a run so far: at most eighteen for each character that is consumed and at each place
before, and where the run stands, those that are spent there.
-/
structure Progress.Paced (p : Progress) (length : Nat) (strides : List Stride) : Prop where
  stalled_le : p.stalled ≤ stallLimit
  length_le : strides.length + 18 * p.rest.length ≤ 18 * length + p.spent
  start_le : ∀ s ∈ strides, s.start ≤ p.position
  countAt_le : ∀ offset, Stride.countAt strides offset ≤ 18
  countAt_position_le : Stride.countAt strides p.position ≤ p.spent

namespace Progress.Paced

variable {length : Nat}

theorem spent_le (paced : p.Paced length strides) :
  p.spent ≤ 17
  := by
  have bounded := paced.stalled_le
  have once := Bool.toNat_le p.guestRan
  rw [stallLimit] at bounded
  rw [spent]
  omega

theorem succ_length_le (paced : p.Paced length strides) (ahead : p.rest ≠ []) :
  strides.length + 1 ≤ 18 * length
  := by
  have total := paced.length_le
  have spent := paced.spent_le
  have some_ahead := List.length_pos_iff.mpr ahead
  omega

/-- Each move is one more step. -/
theorem step (paced : p.Paced length strides) (ahead : p.rest ≠ [])
    (moved : l.Moves resolve delta p q) (own : Bool) (size : Nat) :
  q.Paced length (⟨own, p.position, size⟩ :: strides)
  := by
  have total := paced.length_le
  have spent := paced.spent_le
  have here := paced.countAt_position_le
  have counted (offset : Nat) : Stride.countAt (⟨own, p.position, size⟩ :: strides) offset
      = Stride.countAt strides offset + if p.position = offset then 1 else 0 := by
    simp [Stride.countAt, List.countP_cons]
  have countAt_le (offset : Nat) :
      Stride.countAt (⟨own, p.position, size⟩ :: strides) offset ≤ 18 := by
    rw [counted]
    split_ifs with same
    · subst same
      omega
    · apply paced.countAt_le
  rcases moved.consumes_or_spends ahead with ⟨shorter, further⟩ | ⟨rest_eq, position_eq, spent_eq⟩
  · constructor
    · apply moved.stalled_le paced.stalled_le
    · rw [List.length_cons]
      omega
    · intro s among
      rcases List.mem_cons.mp among with rfl | among
      · apply Nat.le_of_lt further
      · have := paced.start_le s among
        omega
    · apply countAt_le
    · have untouched : Stride.countAt strides q.position = 0 := by
        rw [Stride.countAt, List.countP_eq_zero]
        intro s among
        have := paced.start_le s among
        simp only [decide_eq_true_eq]
        omega
      rw [counted, untouched, if_neg (by omega)]
      apply Nat.zero_le
  · constructor
    · apply moved.stalled_le paced.stalled_le
    · rw [List.length_cons, rest_eq, spent_eq]
      omega
    · intro s among
      rw [position_eq]
      rcases List.mem_cons.mp among with rfl | among
      · apply Nat.le_refl
      · apply paced.start_le s among
    · apply countAt_le
    · rw [counted, position_eq, spent_eq, if_pos rfl]
      apply Nat.succ_le_succ here

end Progress.Paced

/-- A run stays within the bounds from its start on. -/
theorem Passes.paced {text : Text} {state : LexerState}
    (passed : l.Passes resolve delta (.ofText text state) strides p) :
  p.Paced text.length strides ∧ strides.length ≤ 18 * text.length
  := by
  induction passed with
  | start =>
    refine ⟨?_, Nat.zero_le _⟩
    constructor <;> simp [Progress.ofText, Stride.countAt]
  | step passed ahead moved ih =>
    exact ⟨ih.1.step ahead moved _ _, ih.1.succ_length_le ahead⟩

/-- Where a region is handed on that is not answered, the run has no end. -/
theorem Unanswered.run?_eq (unanswered : l.Unanswered resolve delta p) :
  l.run? resolve delta p = none
  := by
  obtain ⟨language, inner, guest, turn, found, nonempty, silent⟩ := unanswered
  have stuck : l.step? resolve delta p = none := by
    rw [region] at nonempty silent
    simp [step?, runGuest?, turn.1, turn.2, found, nonempty, silent]
  apply run?_of_step?_eq_none _ stuck
  intro done
  simp [region, done] at nonempty

/-- Each run goes on until no text is ahead or a region is not answered. -/
theorem Passes.exists_end (passed : l.Passes resolve delta start strides p) :
  ∃ strides q, l.Passes resolve delta start strides q
    ∧ (q.rest = [] ∨ l.Unanswered resolve delta q)
  := by
  induction bound : p.stepsLeft using Nat.strongRecOn generalizing strides p with
  | _ n ih =>
  by_cases done : p.rest = []
  · exact ⟨strides, p, passed, .inl done⟩
  · by_cases unanswered : l.Unanswered resolve delta p
    · exact ⟨strides, p, passed, .inr unanswered⟩
    · obtain ⟨next, moved⟩ : ∃ next, l.Moves resolve delta p next := by
        apply exists_moves
        intro language inner guest turn found nonempty
        apply Option.ne_none_iff_exists'.mp
        intro silent
        exact unanswered ⟨language, inner, guest, turn, found, nonempty, silent⟩
      have shorter := stepsLeft_step?_lt done (step?_eq_some_iff.mpr moved)
      exact ih _ (bound ▸ shorter) (passed.step done moved) rfl

/--
Reading the visible part of a line takes at most eighteen steps for each of its characters, and at
most eighteen at each place in it.  The run comes to the end of the visible part, and then its
tokens are those of the line, or else to a region whose tokenizer does not answer, and then nor
does the lexer.
-/
theorem steps_bounded (l : Lexer) (resolve : String → Option Guest) (line : Text)
    (state : LexerState) (delta : Nat) (stop : Option Nat) :
  let text := visiblePart line delta stop
  (∀ strides p, l.Passes resolve delta (.ofText text state) strides p →
      strides.length ≤ 18 * text.length ∧ ∀ offset, Stride.countAt strides offset ≤ 18)
    ∧ ∃ strides p, l.Passes resolve delta (.ofText text state) strides p
      ∧ (p.rest = [] ∧ p.position = text.byteSize
          ∧ l.tokenize? resolve line state delta stop
            = some (p.line.finish delta (p.state.activeLanguage l.language)
                (delta + text.byteSize) p.state)
        ∨ l.Unanswered resolve delta p ∧ l.tokenize? resolve line state delta stop = none)
  := by
  intro text
  constructor
  · intro strides p passed
    obtain ⟨paced, bounded⟩ := passed.paced
    exact ⟨bounded, paced.countAt_le⟩
  · have begun : l.Passes resolve delta (.ofText text state) [] (.ofText text state) := .start
    obtain ⟨strides, p, passed, ended⟩ := begun.exists_end
    use strides, p, passed
    rcases ended with done | unanswered
    · left
      have ran : l.run? resolve delta (.ofText text state) = some p := by
        rw [passed.run?_eq, run?_of_rest_eq_nil done]
      have position_eq : p.position = text.byteSize :=
        (position_of_run? ran).trans (Nat.zero_add _)
      refine ⟨done, position_eq, ?_⟩
      apply tokenize?_eq_some_iff.mpr
      use p, ran
      rw [position_eq]
    · right
      use unanswered
      rw [Option.eq_none_iff_forall_ne_some]
      intro result answer
      obtain ⟨q, ran, -⟩ := tokenize?_eq_some_iff.mp answer
      rw [passed.run?_eq, unanswered.run?_eq] at ran
      cases ran

end Lexer

/-- A grammar whose only rule leaves the embedded language, anywhere and without consuming text. -/
def restless : Grammar where
  name := "host"
  defaultToken := "text"
  states := [("root", [.own { pattern := "", nextEmbedded := "@pop" }])]

/-- The lexer of the grammar that never rests. -/
def restlessLexer : Lexer :=
  restless.compile.toOption.get (by decide +kernel)

/-- A single character may take all eighteen steps. -/
example :
    (restlessLexer.walk? (plainGuests.guestsWithin 1 true) 0
      (.ofText "a".toList ⟨⟨"root", [], 0⟩, [("guest", ⟨"root", [], 0⟩)]⟩) 18).map
        (fun (strides, p) => (Stride.countAt strides 0, p.rest))
      = some (18, []) := by
  decide +kernel

end EditorModes
