import EditorModes.Regex.Match
import Mathlib.Logic.Basic
import Mathlib.Logic.Relation

/-!
# The threads of a program

A program accepts before a text when one of its threads gets to the instruction that accepts.
Following all threads at once, and each instruction once, misses none of them: there is a match at
a place exactly when the program accepts there (`Program.isSome_matchLength?_iff`), and a match
that is found starts at a place where the program accepts (`Program.accepts_of_find?`).
-/

namespace EditorModes.Regex

namespace Program

/-! ### Threads -/

/-- A thread goes on to another instruction without a character. -/
inductive Passes (code : Code) (before after : Option Char) (address : Nat) : Nat → Prop where
  | look {next : Nat} {condition : Look} (found : code[address]? = some (.look condition next))
      (holds : condition.holds before after) : Passes code before after address next
  | preferred {first second : Nat} (found : code[address]? = some (.fork first second)) :
      Passes code before after address first
  | other {first second : Nat} (found : code[address]? = some (.fork first second)) :
      Passes code before after address second

/-- A thread gets to an instruction without a character. -/
def Gets (code : Code) (before after : Option Char) (address : Nat) (instruction : Instruction) :
    Prop :=
  ∃ last, Relation.ReflTransGen (Passes code before after) address last
    ∧ code[last]? = some instruction

/-- A thread may come to accept, before a text that stands after `before`. -/
inductive Accepts (code : Code) : Option Char → Text → Nat → Prop where
  | accept {before : Option Char} {t : Text} {address : Nat}
      (found : code[address]? = some .accept) : Accepts code before t address
  | char {before : Option Char} {c : Char} {t : Text} {address next : Nat} {set : CharSet}
      (found : code[address]? = some (.char set next)) (contains : set.contains c)
      (later : Accepts code (some c) t next) : Accepts code before (c :: t) address
  | passes {before : Option Char} {t : Text} {address next : Nat}
      (passes : Passes code before t.head? address next)
      (later : Accepts code before t next) : Accepts code before t address

variable {code : Code} {before after : Option Char} {t : Text} {address next : Nat}
  {instruction : Instruction} {seen : Array Bool} {threads : List Nat}
  {waiting : List (CharSet × Nat)} {accepted : Bool} {steps : Nat}

theorem Gets.here (found : code[address]? = some instruction) :
  Gets code before after address instruction
  := ⟨address, .refl, found⟩

theorem Gets.head (passes : Passes code before after address next)
    (gets : Gets code before after next instruction) :
  Gets code before after address instruction
  := by
  obtain ⟨last, way, found⟩ := gets
  exact ⟨last, .head passes way, found⟩

/-- A thread accepts when it gets to accept, or to a character of the text after which it does. -/
theorem accepts_iff :
  Accepts code before t address
    ↔ Gets code before t.head? address .accept
      ∨ ∃ c later set next, t = c :: later ∧ Gets code before t.head? address (.char set next)
        ∧ set.contains c ∧ Accepts code (some c) later next
  := by
  constructor
  · intro accepts
    induction accepts with
    | accept found => exact .inl (.here found)
    | char found contains later =>
      exact .inr ⟨_, _, _, _, rfl, .here found, contains, later⟩
    | passes passes _ ih =>
      rcases ih with gets | ⟨c, later, set, next, split, gets, contains, accepts⟩
      · exact .inl (.head passes gets)
      · exact .inr ⟨c, later, set, next, split, .head passes gets, contains, accepts⟩
  · have go_on {last : Nat}
        (way : Relation.ReflTransGen (Passes code before t.head?) address last)
        (accepts : Accepts code before t last) : Accepts code before t address := by
      induction way using Relation.ReflTransGen.head_induction_on with
      | refl => exact accepts
      | head passes _ ih => exact .passes passes ih
    rintro (⟨last, way, found⟩ | ⟨c, later, set, next, rfl, ⟨last, way, found⟩, contains, accepts⟩)
    · exact go_on way (.accept found)
    · exact go_on way (.char found contains accepts)

theorem accepts_nil_iff :
  Accepts code before [] address ↔ Gets code before none address .accept
  := by
  rw [accepts_iff]
  simp

/-- Before a character a thread accepts when it gets to accept or accepts behind the character. -/
theorem accepts_cons_iff {c : Char} :
  Accepts code before (c :: t) address
    ↔ Gets code before (some c) address .accept
      ∨ ∃ set next, Gets code before (some c) address (.char set next) ∧ set.contains c
        ∧ Accepts code (some c) t next
  := by
  rw [accepts_iff, List.head?_cons]
  constructor
  · rintro (gets | ⟨_, _, set, next, split, later⟩)
    · exact .inl gets
    · cases split
      exact .inr ⟨set, next, later⟩
  · rintro (gets | ⟨set, next, later⟩)
    · exact .inl gets
    · exact .inr ⟨c, t, set, next, rfl, later⟩

/-! ### Following all threads -/

/-- An instruction that was not visited is marked when it is. -/
theorem advance_fresh (fresh : seen[address]? = some false)
    (found : code[address]? = some instruction) :
  advance code before after (steps + 1) seen (address :: threads)
    = match instruction with
      | .accept => ([], true)
      | .char set next =>
        let (waiting, accepted) :=
          advance code before after steps (seen.setIfInBounds address true) threads
        ((set, next) :: waiting, accepted)
      | .look condition next =>
        advance code before after steps (seen.setIfInBounds address true)
          (if condition.holds before after then next :: threads else threads)
      | .fork preferred other =>
        advance code before after steps (seen.setIfInBounds address true)
          (preferred :: other :: threads)
  := by
  have unmarked : seen.getD address true = false := by
    rw [Array.getD_eq_getD_getElem?, fresh, Option.getD_some]
  have here : code.getD address .accept = instruction := by
    rw [Array.getD_eq_getD_getElem?, found, Option.getD_some]
  rw [advance, if_neg (by simp [unmarked]), here]
  cases instruction <;> rfl

/-- A thread at an instruction that was visited, or at none, is dropped. -/
theorem advance_stale (stale : seen[address]? ≠ some false) :
  advance code before after (steps + 1) seen (address :: threads)
    = advance code before after steps seen threads
  := by
  have marked : seen.getD address true = true := by
    rw [Array.getD_eq_getD_getElem?]
    cases mark : seen[address]? with
    | none => rfl
    | some visited =>
      rw [mark, ne_eq, Option.some.injEq, Bool.not_eq_false] at stale
      rw [stale, Option.getD_some]
  rw [advance, if_pos marked]

theorem exists_of_fresh (marks : seen.size = code.size) (fresh : seen[address]? = some false) :
  ∃ instruction, code[address]? = some instruction
  := by
  obtain ⟨within, -⟩ := Array.getElem?_eq_some_iff.mp fresh
  exact ⟨code[address], Array.getElem?_eq_getElem (marks ▸ within)⟩

/-- What following all threads has found: that one accepts, or that one asks for a character. -/
def Found (result : List (CharSet × Nat) × Bool) : Instruction → Prop
  | .accept => result.2
  | .char set next => (set, next) ∈ result.1
  | .look .. | .fork .. => False

theorem not_found_nil :
  ¬ Found ([], false) instruction
  := by
  cases instruction <;> simp [Found]

theorem found_cons_iff {set : CharSet} {result : List (CharSet × Nat) × Bool} :
  Found ((set, next) :: result.1, result.2) instruction
    ↔ instruction = .char set next ∨ Found result instruction
  := by
  cases instruction <;> simp [Found]

/-- Threads get to the instructions that are found for them. -/
theorem advance_sound (marks : seen.size = code.size)
    (among : Found (advance code before after steps seen threads) instruction) :
  ∃ first ∈ threads, Gets code before after first instruction
  := by
  induction steps generalizing seen threads with
  | zero => exact absurd among not_found_nil
  | succ steps ih =>
    rcases threads with _ | ⟨address, threads⟩
    · exact absurd among not_found_nil
    by_cases fresh : seen[address]? = some false
    · have marks_set : (seen.setIfInBounds address true).size = code.size := by simpa using marks
      obtain ⟨visited, found⟩ := exists_of_fresh marks fresh
      rw [advance_fresh fresh found] at among
      cases visited with
      | accept =>
        cases instruction with
        | accept => exact ⟨address, List.mem_cons_self, .here found⟩
        | char => simp [Found] at among
        | look | fork => exact among.elim
      | char set next =>
        rcases found_cons_iff.mp among with rfl | among
        · exact ⟨address, List.mem_cons_self, .here found⟩
        · obtain ⟨first, listed, gets⟩ := ih marks_set among
          exact ⟨first, List.mem_cons_of_mem _ listed, gets⟩
      | look condition next =>
        obtain ⟨first, listed, gets⟩ := ih marks_set among
        split at listed
        · next holds =>
          rcases List.mem_cons.mp listed with rfl | listed
          · exact ⟨address, List.mem_cons_self, .head (.look found holds) gets⟩
          · exact ⟨first, List.mem_cons_of_mem _ listed, gets⟩
        · exact ⟨first, List.mem_cons_of_mem _ listed, gets⟩
      | fork preferred other =>
        obtain ⟨first, listed, gets⟩ := ih marks_set among
        rcases List.mem_cons.mp listed with rfl | listed
        · exact ⟨address, List.mem_cons_self, .head (.preferred found) gets⟩
        · rcases List.mem_cons.mp listed with rfl | listed
          · exact ⟨address, List.mem_cons_self, .head (.other found) gets⟩
          · exact ⟨first, List.mem_cons_of_mem _ listed, gets⟩
    · rw [advance_stale fresh] at among
      obtain ⟨first, listed, gets⟩ := ih marks among
      exact ⟨first, List.mem_cons_of_mem _ listed, gets⟩

/-- A visit leaves one instruction fewer that was not visited. -/
theorem count_visit (fresh : seen[address]? = some false) :
  (seen.setIfInBounds address true).count false + 1 = seen.count false
  := by
  obtain ⟨within, unmarked⟩ := Array.getElem?_eq_some_iff.mp fresh
  have among : 0 < seen.count false := by
    rw [Array.count_pos_iff, ← unmarked]
    apply Array.getElem_mem
  rw [Array.setIfInBounds, dif_pos within, Array.count_set, unmarked]
  simp
  omega

/--
The instructions visited by the end, when no thread accepted: those marked before, and what threads
get to from the others; what is found there was noted.
-/
structure Explored (code : Code) (before after : Option Char) (seen : Array Bool)
    (asked : List (CharSet × Nat)) (visited : Nat → Prop) : Prop where
  marked : ∀ address, seen[address]? = some true → visited address
  passes : ∀ address next, visited address → seen[address]? = some false →
    Passes code before after address next → next < code.size → visited next
  unaccepted : ∀ address, visited address → seen[address]? = some false →
    code[address]? ≠ some .accept
  noted : ∀ address set next, visited address → seen[address]? = some false →
    code[address]? = some (.char set next) → (set, next) ∈ asked

theorem explored_marked {asked : List (CharSet × Nat)} :
  Explored code before after seen asked fun address => seen[address]? = some true
  := by
  constructor <;> intros <;> simp_all

/--
What is explored once an instruction is marked is explored from it, if the threads that go on from
it, or the character it asks for, are taken along.
-/
theorem Explored.of_visit {asked later : List (CharSet × Nat)} {visited : Nat → Prop}
    (fresh : seen[address]? = some false) (found : code[address]? = some instruction)
    (explored : Explored code before after (seen.setIfInBounds address true) later visited)
    (kept : ∀ waiting ∈ later, waiting ∈ asked)
    (passes : ∀ next, Passes code before after address next → next < code.size → visited next)
    (unaccepted : instruction ≠ .accept)
    (noted : ∀ set next, instruction = .char set next → (set, next) ∈ asked) :
  Explored code before after seen asked visited ∧ visited address
  := by
  obtain ⟨within, -⟩ := Array.getElem?_eq_some_iff.mp fresh
  have elsewhere {other : Nat} (apart : other ≠ address) (unseen : seen[other]? = some false) :
      (seen.setIfInBounds address true)[other]? = some false := by
    rw [Array.getElem?_setIfInBounds_ne (Ne.symm apart), unseen]
  have here : visited address := explored.marked address (by simp [within])
  refine ⟨⟨fun other marked => ?_, fun other next among unseen goes => ?_,
    fun other among unseen => ?_, fun other set next among unseen asks => ?_⟩, here⟩
  · rcases eq_or_ne other address with rfl | apart
    · exact here
    · exact explored.marked other (by rw [Array.getElem?_setIfInBounds_ne apart.symm, marked])
  · rcases eq_or_ne other address with rfl | apart
    · exact passes next goes
    · exact explored.passes other next among (elsewhere apart unseen) goes
  · rcases eq_or_ne other address with rfl | apart
    · rw [found]
      simpa using unaccepted
    · exact explored.unaccepted other among (elsewhere apart unseen)
  · rcases eq_or_ne other address with rfl | apart
    · rw [found] at asks
      exact noted set next (Option.some.inj asks)
    · exact kept _ (explored.noted other set next among (elsewhere apart unseen) asks)

/-- With steps for all instructions that were not visited, all that threads get to are visited. -/
theorem exists_explored (marks : seen.size = code.size)
    (enough : threads.length + 2 * seen.count false ≤ steps)
    (unaccepted : (advance code before after steps seen threads).2 = false) :
  ∃ visited,
    Explored code before after seen (advance code before after steps seen threads).1 visited
    ∧ ∀ address ∈ threads, address < code.size → visited address
  := by
  induction steps generalizing seen threads with
  | zero =>
    obtain rfl : threads = [] := List.length_eq_zero_iff.mp (by omega)
    exact ⟨_, explored_marked, by simp⟩
  | succ steps ih =>
    rcases threads with _ | ⟨address, threads⟩
    · exact ⟨_, explored_marked, by simp⟩
    rw [List.length_cons] at enough
    by_cases fresh : seen[address]? = some false
    · have marks_set : (seen.setIfInBounds address true).size = code.size := by simpa using marks
      have fewer := count_visit fresh
      obtain ⟨visit, found⟩ := exists_of_fresh marks fresh
      rw [advance_fresh fresh found] at unaccepted ⊢
      cases visit with
      | accept => cases unaccepted
      | char set next =>
        obtain ⟨visited, explored, all⟩ := ih marks_set (by omega) unaccepted
        obtain ⟨more, here⟩ := explored.of_visit fresh found
          (fun _ among => List.mem_cons_of_mem (set, next) among)
          (fun _ goes => by cases goes <;> simp_all) (by simp)
          (fun _ _ same => by cases same; apply List.mem_cons_self)
        exact ⟨visited, more, List.forall_mem_cons.mpr ⟨fun _ => here, all⟩⟩
      | look condition next =>
        obtain ⟨visited, explored, all⟩ :=
          ih marks_set (by split <;> (try rw [List.length_cons]) <;> omega) unaccepted
        have more := explored.of_visit fresh found (fun _ among => among)
          (fun other goes within => by
            cases goes <;> simp_all)
          (by simp) (by simp)
        refine ⟨visited, more.1, List.forall_mem_cons.mpr ⟨fun _ => more.2, fun other among => ?_⟩⟩
        apply all
        split
        · exact List.mem_cons_of_mem _ among
        · exact among
      | fork preferred other =>
        obtain ⟨visited, explored, all⟩ :=
          ih marks_set (by simp only [List.length_cons]; omega) unaccepted
        obtain ⟨first, second, all⟩ := by simpa only [List.forall_mem_cons] using all
        have more := explored.of_visit fresh found (fun _ among => among)
          (fun next goes within => by
            cases goes <;> simp_all)
          (by simp) (by simp)
        exact ⟨visited, more.1, List.forall_mem_cons.mpr ⟨fun _ => more.2, all⟩⟩
    · rw [advance_stale fresh] at unaccepted ⊢
      obtain ⟨visited, explored, all⟩ := ih marks (by omega) unaccepted
      refine ⟨visited, explored, List.forall_mem_cons.mpr ⟨fun within => ?_, all⟩⟩
      apply explored.marked
      cases mark : seen[address]? with
      | none => exact absurd (Array.getElem?_eq_none_iff.mp mark) (by omega)
      | some visited => cases visited <;> simp_all

/-- A thread gets to something from an instruction of the program only. -/
theorem Gets.within (gets : Gets code before after address instruction) :
  address < code.size
  := by
  obtain ⟨last, way, found⟩ := gets
  rcases Relation.ReflTransGen.cases_head way with rfl | ⟨_, passes, -⟩
  · exact (Array.getElem?_eq_some_iff.mp found).1
  · cases passes with
    | look found | preferred found | other found => exact (Array.getElem?_eq_some_iff.mp found).1

/--
What comes of following all threads, up to where each needs a character, when no instruction was
visited before.
-/
def advanceAll (code : Code) (before after : Option Char) (threads : List Nat) :
    List (CharSet × Nat) × Bool :=
  advance code before after (threads.length + 2 * code.size + 1) (Array.replicate code.size false)
    threads

/-- Where no thread accepts, what threads get to is explored. -/
theorem exists_visited_of_gets (unaccepted : (advanceAll code before after threads).2 = false)
    (among : address ∈ threads) (gets : Gets code before after address instruction) :
  ∃ visited last, Explored code before after (Array.replicate code.size false)
      (advanceAll code before after threads).1 visited
    ∧ visited last ∧ last < code.size ∧ code[last]? = some instruction
  := by
  obtain ⟨visited, explored, all⟩ := exists_explored (by simp) (by simp) unaccepted
  have here := all address among gets.within
  clear among
  obtain ⟨last, way, found⟩ := gets
  refine ⟨visited, last, explored, ?_, (Array.getElem?_eq_some_iff.mp found).1, found⟩
  induction way using Relation.ReflTransGen.head_induction_on with
  | refl => exact here
  | @head middle next passes way ih =>
    have goes : Gets code before after next instruction := ⟨last, way, found⟩
    have unseen : (Array.replicate code.size false)[middle]? = some false := by
      simp [(Gets.head passes goes).within]
    exact ih (explored.passes middle next here unseen passes goes.within)

/-- A thread is found to accept when one gets to accept. -/
theorem advanceAll_accepted_iff (code : Code) (before after : Option Char) (threads : List Nat) :
  (advanceAll code before after threads).2 = true
    ↔ ∃ address ∈ threads, Gets code before after address .accept
  := by
  constructor
  · intro accepted
    have found : Found (advanceAll code before after threads) .accept := accepted
    exact advance_sound (by simp) found
  · rintro ⟨address, among, gets⟩
    rw [← Bool.not_eq_false]
    intro unaccepted
    obtain ⟨visited, last, explored, reached, within, found⟩ :=
      exists_visited_of_gets unaccepted among gets
    exact explored.unaccepted last reached (by simp [within]) found

/-- Where no thread accepts, a character is asked for when a thread gets to ask for it. -/
theorem mem_advanceAll_iff (unaccepted : (advanceAll code before after threads).2 = false)
    (set : CharSet) (next : Nat) :
  (set, next) ∈ (advanceAll code before after threads).1
    ↔ ∃ address ∈ threads, Gets code before after address (.char set next)
  := by
  constructor
  · intro asked
    have found : Found (advanceAll code before after threads) (.char set next) := asked
    exact advance_sound (by simp) found
  · rintro ⟨address, among, gets⟩
    obtain ⟨visited, last, explored, reached, within, found⟩ :=
      exists_visited_of_gets unaccepted among gets
    exact explored.noted last set next reached (by simp [within]) found

/-! ### Matches -/

variable {p : Program} {consumed : Nat} {best : Option Nat}

/-- The threads that a character lets go on are those that ask for a set with it. -/
theorem mem_resumed_iff {c : Char} :
  next ∈ (waiting.filterMap fun (set, next) => if set.contains c then some next else none)
    ↔ ∃ set, (set, next) ∈ waiting ∧ set.contains c
  := by
  simp only [List.mem_filterMap, Prod.exists, Option.ite_none_right_eq_some, Option.some.injEq]
  constructor
  · rintro ⟨set, _, among, contains, rfl⟩
    exact ⟨set, among, contains⟩
  · rintro ⟨set, among, contains⟩
    exact ⟨set, next, among, contains, rfl⟩

theorem run_nil :
  p.run before threads consumed best []
    = if (advanceAll p.code before none threads).2 then some consumed else best
  := rfl

theorem run_cons {c : Char} :
  p.run before threads consumed best (c :: t)
    = match (advanceAll p.code before (some c) threads).1.filterMap
          fun (set, next) => if set.contains c then some next else none with
      | [] => if (advanceAll p.code before (some c) threads).2 then some consumed else best
      | threads' =>
        p.run (some c) threads' (consumed + 1)
          (if (advanceAll p.code before (some c) threads).2 then some consumed else best) t
  := rfl

/--
Where no thread accepts before a character, one may accept behind it when one does of those that the
character lets go on.
-/
theorem exists_accepts_cons_iff {c : Char}
    (unaccepted : (advanceAll code before (some c) threads).2 = false) :
  (∃ address ∈ threads, Accepts code before (c :: t) address)
    ↔ ∃ next ∈ (advanceAll code before (some c) threads).1.filterMap
        (fun (set, next) => if set.contains c then some next else none),
      Accepts code (some c) t next
  := by
  simp only [accepts_cons_iff, mem_resumed_iff, mem_advanceAll_iff unaccepted]
  constructor
  · rintro ⟨address, among, gets | ⟨set, next, gets, contains, accepts⟩⟩
    · have accepted := (advanceAll_accepted_iff code before (some c) threads).mpr
        ⟨address, among, gets⟩
      simp [unaccepted] at accepted
    · exact ⟨next, ⟨set, ⟨address, among, gets⟩, contains⟩, accepts⟩
  · rintro ⟨next, ⟨set, ⟨address, among, gets⟩, contains⟩, accepts⟩
    exact ⟨address, among, .inr ⟨set, next, gets, contains, accepts⟩⟩

/-- A run gives a match when it had one before or one of its threads accepts. -/
theorem isSome_run_iff :
  (p.run before threads consumed best t).isSome
    ↔ best.isSome ∨ ∃ address ∈ threads, Accepts p.code before t address
  := by
  induction t generalizing before threads consumed best with
  | nil =>
    simp only [run_nil, accepts_nil_iff, ← advanceAll_accepted_iff]
    split <;> simp_all
  | cons c t ih =>
    rw [run_cons]
    cases accepted : (advanceAll p.code before (some c) threads).2 with
    | true =>
      obtain ⟨address, among, gets⟩ := (advanceAll_accepted_iff _ _ _ _).mp accepted
      have accepts : Accepts p.code before (c :: t) address := accepts_cons_iff.mpr (.inl gets)
      refine iff_of_true ?_ (.inr ⟨address, among, accepts⟩)
      split
      · rfl
      · exact ih.mpr (.inl rfl)
    | false =>
      rw [exists_accepts_cons_iff accepted]
      split
      · next none_left =>
        rw [none_left]
        simp
      · next some_left =>
        rw [ih]
        simp

theorem isSome_matchLength?_iff :
  (p.matchLength? before t).isSome ↔ Accepts p.code before t p.start
  := by
  simp [matchLength?, isSome_run_iff]

theorem isSome_find?_of_accepts (accepts : Accepts p.code before t p.start) :
  (p.find? before t).isSome
  := by
  obtain ⟨n, found⟩ := Option.isSome_iff_exists.mp (isSome_matchLength?_iff.mpr accepts)
  cases t <;> simp [find?, found]

/-- A match that is found starts at a place where the program accepts. -/
theorem accepts_of_find? {m : Match} (found : p.find? before t = some m) :
  ∃ before', Accepts p.code before' (t.drop m.skipped) p.start
  := by
  induction t generalizing before m with
  | nil =>
    obtain ⟨n, length, rfl⟩ := Option.map_eq_some_iff.mp found
    exact ⟨before, isSome_matchLength?_iff.mp (by simp [length])⟩
  | cons c t ih =>
    rw [find?] at found
    split at found
    · next n length =>
      obtain rfl := Option.some.inj found
      exact ⟨before, isSome_matchLength?_iff.mp (by simp [length])⟩
    · split at found
      · cases found
      · obtain ⟨later, among, rfl⟩ := Option.map_eq_some_iff.mp found
        exact ih among

/-- A program that is tied to the start finds matches at the start only. -/
theorem skipped_eq_zero_of_anchored (anchored : p.anchored) {m : Match}
    (found : p.find? before t = some m) :
  m.skipped = 0
  := by
  cases t with
  | nil =>
    obtain ⟨n, -, rfl⟩ := Option.map_eq_some_iff.mp found
    rfl
  | cons c t =>
    rw [find?, if_pos anchored] at found
    split at found
    · obtain rfl := Option.some.inj found
      rfl
    · cases found

end Program

/-! ### The character before -/

/-- Whether a condition may hold after a character though it does not where there is none. -/
def Look.asksBefore : Look → Bool
  | .boundary _ | .notBoundary _ | .wordEnd _ => true
  | _ => false

/-- A condition that does not ask for the character before holds where there is none. -/
theorem Look.holds_none {before after : Option Char} {condition : Look}
    (asks : condition.asksBefore = false) (holds : condition.holds before after) :
  condition.holds none after
  := by
  cases condition with
  | lineEndCRLF =>
    refine Option.all_eq_true _ _ |>.mpr fun c present => ?_
    have at_end := (Option.all_eq_true _ _).mp holds c present
    simp only [Bool.or_eq_true, beq_iff_eq, Bool.and_eq_true] at at_end ⊢
    exact at_end.imp_right fun feed => ⟨feed.1, by simp⟩
  | _ => simp_all [Look.holds, Look.asksBefore]

/-- Whether an instruction of the program asks for the character before. -/
def Program.asksBefore (p : Program) : Bool :=
  p.code.any fun
    | .look condition _ => condition.asksBefore
    | _ => false

namespace Program

/-- A program that does not ask for the character before accepts where there is none. -/
theorem Accepts.of_none {p : Program} {before : Option Char} {t : Text} {address : Nat}
    (asks : p.asksBefore = false) (accepts : Accepts p.code before t address) :
  Accepts p.code none t address
  := by
  induction accepts with
  | accept found => exact .accept found
  | char found contains later => exact .char found contains later
  | passes goes _ ih =>
    refine .passes ?_ ih
    cases goes with
    | look found holds =>
      refine .look found (Look.holds_none ?_ holds)
      rw [asksBefore, Array.any_eq_false] at asks
      obtain ⟨within, here⟩ := Array.getElem?_eq_some_iff.mp found
      simpa [here] using asks _ within
    | preferred found => exact .preferred found
    | other found => exact .other found

end Program

end EditorModes.Regex
