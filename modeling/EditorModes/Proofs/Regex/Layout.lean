import EditorModes.Proofs.Regex.Threads

/-!
# Laying out expressions

What is laid out keeps the instructions that were there, and its instructions name instructions
only (`Expr.laysOut_layout`).  So a thread that is among the earlier instructions accepts
in the larger program as it did in the smaller one.  An expression whose first branch asks for the
start of the text besides accepts at a start where it would without (`Program.accepts_ofExpr`).
-/

namespace EditorModes.Regex

/-! ### Code that names instructions only -/

/-- The instructions that an instruction names. -/
def Instruction.successors : Instruction → List Nat
  | accept => []
  | char _ next => [next]
  | look _ next => [next]
  | fork preferred other => [preferred, other]

/-- The instructions of the code name instructions of the code. -/
def Code.Closed (code : Code) : Prop :=
  ∀ (address : Nat) (instruction : Instruction), code[address]? = some instruction →
    ∀ next ∈ instruction.successors, next < code.size

/-- A larger code starts with the instructions of a smaller one. -/
structure Code.Keeps (smaller larger : Code) : Prop where
  size_le : smaller.size ≤ larger.size
  same : ∀ address, address < smaller.size → larger[address]? = smaller[address]?

namespace Code

variable {code larger : Code} {instruction : Instruction} {address next : Nat}

theorem Keeps.refl (code : Code) :
  Keeps code code
  := ⟨Nat.le_refl _, fun _ _ => rfl⟩

theorem Keeps.trans {largest : Code} (first : Keeps code larger) (second : Keeps larger largest) :
  Keeps code largest
  := by
  refine ⟨Nat.le_trans first.size_le second.size_le, fun address within => ?_⟩
  rw [second.same address (Nat.lt_of_lt_of_le within first.size_le), first.same address within]

theorem keeps_push (code : Code) (instruction : Instruction) :
  Keeps code (code.push instruction)
  := ⟨by simp, fun address within => by rw [Array.getElem?_push, if_neg (by omega)]⟩

theorem Keeps.set (keeps : Keeps code larger) (added : code.size ≤ address)
    (instruction : Instruction) :
  Keeps code (larger.setIfInBounds address instruction)
  := by
  refine ⟨by simpa using keeps.size_le, fun other within => ?_⟩
  rw [Array.getElem?_setIfInBounds_ne (by omega), keeps.same other within]

/-- An instruction that names instructions may be added. -/
theorem Closed.push (closed : Closed code)
    (within : ∀ next ∈ instruction.successors, next < code.size + 1) :
  Closed (code.push instruction)
  := by
  intro address other found next named
  rw [Array.size_push]
  rw [Array.getElem?_push] at found
  split at found
  · obtain rfl := Option.some.inj found
    exact within next named
  · exact Nat.lt_succ_of_lt (closed address other found next named)

/-- An instruction may be replaced by one that names instructions. -/
theorem Closed.set (closed : Closed code)
    (within : ∀ next ∈ instruction.successors, next < code.size) :
  Closed (code.setIfInBounds address instruction)
  := by
  intro place other found next named
  rw [Array.size_setIfInBounds]
  rw [Array.getElem?_setIfInBounds] at found
  split at found
  · split at found
    · obtain rfl := Option.some.inj found
      exact within next named
    · cases found
  · exact closed place other found next named

end Code

/-! ### What is laid out -/

/-- What a layout adds to code that names instructions only does so too, and has its entry. -/
structure Layout.Adds (code : Code) (laid : Nat × Code) : Prop where
  keeps : code.Keeps laid.2
  closed : laid.2.Closed
  entry : laid.1 < laid.2.size

/-- Wherever it is laid out, a layout adds to the code. -/
def Layout.LaysOut (layout : Layout) : Prop :=
  ∀ next code, next < code.size → code.Closed → Layout.Adds code (layout next code)

namespace Layout

variable {layout first second : Layout}

theorem laysOut_nothing :
  LaysOut fun next code => (next, code)
  := fun _ code within closed => ⟨.refl code, closed, within⟩

/-- A single instruction that goes on to what comes after is laid out. -/
theorem laysOut_one {instruction : Nat → Instruction}
    (goes_on : ∀ next, (instruction next).successors = [next]) :
  LaysOut (one instruction)
  := by
  intro next code within closed
  refine ⟨Code.keeps_push code _, closed.push ?_, by simp [one]⟩
  rw [goes_on]
  simpa using Nat.lt_succ_of_lt within

theorem mem_successors_forkRound_iff {greedy : Bool} {again next address : Nat} :
  address ∈ (forkRound greedy again next).successors ↔ address = again ∨ address = next
  := by
  cases greedy <;> simp [forkRound, Instruction.successors, or_comm]

theorem LaysOut.seq (first_lays : LaysOut first) (second_lays : LaysOut second) :
  LaysOut (seq first second)
  := by
  intro next code within closed
  have second_adds := second_lays next code within closed
  have first_adds := first_lays _ _ second_adds.entry second_adds.closed
  exact ⟨second_adds.keeps.trans first_adds.keeps, first_adds.closed, first_adds.entry⟩

theorem LaysOut.times (lays : LaysOut layout) (count : Nat) :
  LaysOut (times count layout)
  := by
  induction count with
  | zero => exact laysOut_nothing
  | succ count ih => exact lays.seq ih

/-- A fork to a layout or to what comes after it, in front of both. -/
theorem Adds.fork {code : Code} {laid : Nat × Code} {next : Nat}
    (adds : Adds code laid) (greedy : Bool) (within : next < code.size) :
  Adds code (laid.2.size, laid.2.push (forkRound greedy laid.1 next))
  := by
  refine ⟨adds.keeps.trans (Code.keeps_push _ _), adds.closed.push fun address named => ?_, by simp⟩
  have entry := adds.entry
  have size := adds.keeps.size_le
  rcases mem_successors_forkRound_iff.mp named with rfl | rfl <;> omega

theorem LaysOut.optional (lays : LaysOut layout) (greedy : Bool) :
  LaysOut (optional greedy layout)
  := fun next code within closed => (lays next code within closed).fork greedy within

/-- A layout run up to a number of times is laid out. -/
theorem LaysOut.upTo (lays : LaysOut layout) (greedy : Bool) (count : Nat) :
  LaysOut (upTo greedy layout count)
  := by
  induction count with
  | zero => exact laysOut_nothing
  | succ count ih =>
    intro next code within closed
    have later := ih next code within closed
    have adds := lays _ _ later.entry later.closed
    have forked := adds.fork greedy (Nat.lt_of_lt_of_le within later.keeps.size_le)
    exact ⟨later.keeps.trans forked.keeps, forked.closed, forked.entry⟩

/--
What is laid out behind a place kept free for a fork, with the fork set there.  Both entries, that
of the rounds and the fork itself, are instructions.
-/
theorem LaysOut.round (lays : LaysOut layout) (greedy : Bool) {next : Nat} {code : Code}
    (within : next < code.size) (closed : code.Closed) :
  let laid := layout code.size (code.push .accept)
  let larger := laid.2.setIfInBounds code.size (forkRound greedy laid.1 next)
  Code.Keeps code larger ∧ Code.Closed larger ∧ laid.1 < larger.size ∧ code.size < larger.size
  := by
  intro laid larger
  have adds : Adds (code.push .accept) laid :=
    lays _ _ (by simp) (closed.push (by simp [Instruction.successors]))
  have size := adds.keeps.size_le
  have entry := adds.entry
  rw [Array.size_push] at size
  refine ⟨((Code.keeps_push code _).trans adds.keeps).set (Nat.le_refl _) _, ?_, ?_, ?_⟩
  · refine adds.closed.set fun address named => ?_
    rcases mem_successors_forkRound_iff.mp named with rfl | rfl <;> omega
  · simpa [larger] using entry
  · simpa [larger] using Nat.lt_of_succ_le size

theorem LaysOut.oneOrMore (lays : LaysOut layout) (greedy : Bool) :
  LaysOut (oneOrMore greedy layout)
  := by
  intro next code within closed
  obtain ⟨keeps, larger_closed, entry, -⟩ := lays.round greedy within closed
  exact ⟨keeps, larger_closed, entry⟩

theorem LaysOut.zeroOrMore (lays : LaysOut layout) (greedy : Bool) :
  LaysOut (zeroOrMore greedy layout)
  := by
  intro next code within closed
  obtain ⟨keeps, larger_closed, -, round⟩ := lays.round greedy within closed
  exact ⟨keeps, larger_closed, round⟩

end Layout

/-- Expressions are laid out. -/
theorem Expr.laysOut_layout (e : Expr) :
  e.layout.LaysOut
  := by
  induction e with
  | empty => exact Layout.laysOut_nothing
  | char set => exact Layout.laysOut_one fun _ => rfl
  | look condition => exact Layout.laysOut_one fun _ => rfl
  | group capturing body ih => exact ih
  | cat first second first_ih second_ih => exact first_ih.seq second_ih
  | alt left right left_ih right_ih =>
    intro next code within closed
    have second := right_ih next code within closed
    have first := left_ih next _ (Nat.lt_of_lt_of_le within second.keeps.size_le) second.closed
    refine ⟨(second.keeps.trans first.keeps).trans (Code.keeps_push _ _), first.closed.push ?_,
      by simp [layout]⟩
    have first_entry := first.entry
    have second_entry := second.entry
    have size := first.keeps.size_le
    simp only [Instruction.successors, List.mem_cons, List.not_mem_nil, or_false,
      forall_eq_or_imp, forall_eq]
    omega
  | loop least most greedy body ih =>
    cases most with
    | some most => exact (ih.times least).seq (ih.upTo greedy (most - least))
    | none =>
      cases least with
      | zero =>
        intro next code within closed
        rw [layout]
        split
        · exact ih.zeroOrMore greedy next code within closed
        · exact (ih.oneOrMore greedy).optional greedy next code within closed
      | succ least => exact (ih.times least).seq (ih.oneOrMore greedy)

/-! ### Threads among the earlier instructions -/

namespace Program

variable {smaller larger : Code} {before after : Option Char} {t : Text} {address next : Nat}

theorem kept (keeps : smaller.Keeps larger) {instruction : Instruction}
    (found : smaller[address]? = some instruction) :
  larger[address]? = some instruction
  := by
  rw [keeps.same address (Array.getElem?_eq_some_iff.mp found).1, found]

/-- A thread that accepts in a code accepts in a larger one. -/
theorem Accepts.of_smaller (keeps : smaller.Keeps larger)
    (accepts : Accepts smaller before t address) :
  Accepts larger before t address
  := by
  induction accepts with
  | accept found => exact .accept (kept keeps found)
  | char found contains _ ih => exact .char (kept keeps found) contains ih
  | passes goes _ ih =>
    refine .passes ?_ ih
    cases goes with
    | look found holds => exact .look (kept keeps found) holds
    | preferred found => exact .preferred (kept keeps found)
    | other found => exact .other (kept keeps found)

/-- A thread among the instructions of a closed code accepts there if it does in a larger code. -/
theorem Accepts.of_larger (keeps : smaller.Keeps larger) (closed : smaller.Closed)
    (accepts : Accepts larger before t address) (within : address < smaller.size) :
  Accepts smaller before t address
  := by
  have found_iff {address : Nat} (within : address < smaller.size) {instruction : Instruction}
      (found : larger[address]? = some instruction) : smaller[address]? = some instruction := by
    rw [← keeps.same address within, found]
  induction accepts with
  | accept found => exact .accept (found_iff within found)
  | char found contains _ ih =>
    have here := found_iff within found
    exact .char here contains (ih (closed _ _ here _ (by simp [Instruction.successors])))
  | passes goes _ ih =>
    cases goes with
    | look found holds =>
      have here := found_iff within found
      exact .passes (.look here holds) (ih (closed _ _ here _ (by simp [Instruction.successors])))
    | preferred found =>
      have here := found_iff within found
      exact .passes (.preferred here) (ih (closed _ _ here _ (by simp [Instruction.successors])))
    | other found =>
      have here := found_iff within found
      exact .passes (.other here) (ih (closed _ _ here _ (by simp [Instruction.successors])))

/-- A thread at a fork that was laid out last accepts when one of those that go on does. -/
theorem accepts_push_fork_iff {code : Code} {first second : Nat} :
  Accepts (code.push (.fork first second)) before t code.size
    ↔ Accepts (code.push (.fork first second)) before t first
      ∨ Accepts (code.push (.fork first second)) before t second
  := by
  have here : (code.push (.fork first second))[code.size]? = some (.fork first second) := by simp
  constructor
  · intro accepts
    cases accepts with
    | accept found => simp at found
    | char found => simp at found
    | passes goes later =>
      cases goes with
      | look found => simp at found
      | preferred found =>
        obtain ⟨rfl, -⟩ := by simpa using found
        exact .inl later
      | other found =>
        obtain ⟨-, rfl⟩ := by simpa using found
        exact .inr later
  · rintro (accepts | accepts)
    · exact .passes (.preferred here) accepts
    · exact .passes (.other here) accepts

end Program

/-! ### Asking for the start of the text -/

/--
An expression and the same with the first branch asking, before all else, for the start of the
text.
-/
inductive Expr.AsksFirst : Expr → Expr → Prop where
  | intro (items others : List Expr) :
    AsksFirst (alts (cats items :: others)) (alts (cats (look .textStart :: items) :: others))

theorem Expr.layout_cats_look (condition : Look) (items : List Expr) (next : Nat) (code : Code) :
  (cats (.look condition :: items)).layout next code
    = (((cats items).layout next code).2.size,
      ((cats items).layout next code).2.push
        (.look condition ((cats items).layout next code).1))
  := by
  cases items <;> rfl

theorem Code.closed_accept :
  Closed #[.accept]
  := by
  have nothing : Closed #[] := by simp [Closed]
  exact nothing.push (by simp [Instruction.successors])

namespace Program

/--
A sequence that accepts where nothing stands before does so with the condition that this be the
start of the text in front of it, whatever is laid out besides.
-/
theorem Accepts.tied {items : List Expr} {next : Nat} {behind larger other : Code}
    (within : next < behind.size) (closed : Code.Closed behind)
    (keeps : Code.Keeps ((Expr.cats items).layout next behind).2 larger)
    (keeps_tied : Code.Keeps ((Expr.cats (.look .textStart :: items)).layout next behind).2 other)
    (accepts : Accepts larger none t ((Expr.cats items).layout next behind).1) :
  Accepts other none t ((Expr.cats (.look .textStart :: items)).layout next behind).1
  := by
  rw [Expr.layout_cats_look] at keeps_tied ⊢
  have adds := (Expr.cats items).laysOut_layout next behind within closed
  have alone := accepts.of_larger keeps adds.closed adds.entry
  have later := alone.of_smaller ((Code.keeps_push _ _).trans keeps_tied)
  exact .passes (.look (kept keeps_tied Array.getElem?_push_size) rfl) later

/-- Where an expression accepts, it does at a start of the text with its first branch tied to it. -/
theorem accepts_ofExpr {e tied : Expr} (asks : Expr.AsksFirst e tied)
    (accepts : Accepts (ofExpr e).code none t (ofExpr e).start) :
  Accepts (ofExpr tied).code none t (ofExpr tied).start
  := by
  obtain ⟨items, others⟩ := asks
  cases others with
  | nil => exact accepts.tied (by simp) Code.closed_accept (.refl _) (.refl _)
  | cons other others =>
    change Accepts (Array.push _ (.fork _ _)) none t (Array.size _) at accepts
    change Accepts (Array.push _ (.fork _ _)) none t (Array.size _)
    have adds := (Expr.alts (other :: others)).laysOut_layout 0 #[.accept] (by simp)
      Code.closed_accept
    have within := Nat.lt_of_lt_of_le (show 0 < 1 by omega) adds.keeps.size_le
    have first := (Expr.cats items).laysOut_layout 0 _ within adds.closed
    have first_tied := (Expr.cats (.look .textStart :: items)).laysOut_layout 0 _ within adds.closed
    rw [accepts_push_fork_iff] at accepts ⊢
    rcases accepts with accepts | accepts
    · exact .inl (accepts.tied within adds.closed (Code.keeps_push _ _) (Code.keeps_push _ _))
    · refine .inr (.of_smaller (first_tied.keeps.trans (Code.keeps_push _ _)) ?_)
      exact accepts.of_larger (first.keeps.trans (Code.keeps_push _ _)) adds.closed adds.entry

end Program

end EditorModes.Regex
