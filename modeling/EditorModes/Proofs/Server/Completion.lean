import EditorModes.Server.Batch
import Mathlib.Data.List.Basic

/-!
# Handling a notification to its end

A message that comes alone is handled turn by turn until nothing is left to do.  What its first
turn leads to in the end (`Turn.Ends`) does not depend on where the handler waits, and the rounds
of `Server.handle?` are enough to get there.
-/

namespace EditorModes

/-! ### Turns to the end -/

/-- What a turn leads to: all that is sent until nothing is left to do, and the server then. -/
inductive Turn.Ends : Turn → List Outgoing → Server → Prop
  | done {t : Turn} (finished : t.progress.job? = none) : t.Ends t.sent t.server
  | more {t : Turn} {job : Job} {sent : List Outgoing} {last : Server}
      (left : t.progress.job? = some job) (rest : (t.server.step job).Ends sent last) :
      t.Ends (t.sent ++ sent) last

namespace Turn

variable {t : Turn} {sent : List Outgoing} {last : Server} {job : Job}

/-- When nothing is left to do, a turn is the end. -/
theorem ends_of_done (finished : t.progress.job? = none) :
  t.Ends sent last ↔ sent = t.sent ∧ last = t.server
  := by
  constructor
  · intro ends
    cases ends with
    | done => exact ⟨rfl, rfl⟩
    | more left => simp [finished] at left
  · rintro ⟨rfl, rfl⟩
    exact .done finished

/-- When a job is left, it goes on with the next step of the job. -/
theorem ends_of_left (left : t.progress.job? = some job) :
  t.Ends sent last ↔ ∃ later, sent = t.sent ++ later ∧ (t.server.step job).Ends later last
  := by
  constructor
  · intro ends
    cases ends with
    | done finished => simp [finished] at left
    | more other rest =>
      obtain rfl := Option.some.inj (left.symm.trans other)
      exact ⟨_, rfl, rest⟩
  · rintro ⟨later, rfl, rest⟩
    exact .more left rest

/-- What was sent before is sent first. -/
theorem ends_prepend (before : List Outgoing) :
  ({ t with sent := before ++ t.sent } : Turn).Ends sent last
    ↔ ∃ later, sent = before ++ later ∧ t.Ends later last
  := by
  cases left : t.progress.job? with
  | none =>
    rw [ends_of_done (by exact left)]
    constructor
    · rintro ⟨rfl, rfl⟩
      exact ⟨_, rfl, .done left⟩
    · rintro ⟨later, rfl, ends⟩
      obtain ⟨rfl, rfl⟩ := (ends_of_done left).mp ends
      exact ⟨rfl, rfl⟩
  | some job =>
    rw [ends_of_left (by exact left)]
    constructor
    · rintro ⟨later, rfl, rest⟩
      exact ⟨_, List.append_assoc .., .more left rest⟩
    · rintro ⟨later, rfl, ends⟩
      obtain ⟨later, rfl, rest⟩ := (ends_of_left left).mp ends
      exact ⟨later, (List.append_assoc ..).symm, rest⟩

/-- A turn leads to one end. -/
theorem Ends.unique {other : List Outgoing} {final : Server} (ends : t.Ends sent last)
    (also : t.Ends other final) :
  other = sent ∧ final = last
  := by
  induction ends generalizing other with
  | done finished => exact (ends_of_done finished).mp also
  | more left rest ih =>
    obtain ⟨later, rfl, again⟩ := (ends_of_left left).mp also
    obtain ⟨rfl, rfl⟩ := ih again
    exact ⟨rfl, rfl⟩

/-- A turn from which another one leads to the same end, with no more left to do. -/
structure Advances (t next : Turn) : Prop where
  ends_iff : ∀ sent last, t.Ends sent last ↔ next.Ends sent last
  documents_eq : next.server.documents = t.server.documents
  size_le : ∀ job, next.progress.job? = some job → ∃ before, t.progress.job? = some before
    ∧ job.size t.server.documents.documents.length
      ≤ before.size t.server.documents.documents.length

end Turn

namespace Server

variable {s last : Server} {sent : List Outgoing}

/-! ### Handlers that run alone -/

/-- Steps up to a wait lead to the same end. -/
theorem ends_stepsWithin (s : Server) (n : Nat) (job : Job) :
  (s.stepsWithin n job).Ends sent last ↔ (s.step job).Ends sent last
  := by
  induction n generalizing s job sent with
  | zero =>
    rw [stepsWithin, Turn.ends_of_left rfl]
    simp
  | succ n ih =>
    rw [stepsWithin]
    split
    · next job left =>
      rw [Turn.ends_prepend, Turn.ends_of_left (by rw [left]; rfl)]
      simp only [ih]
    · rfl

/-- Steps up to a wait open and close no documents. -/
theorem documents_stepsWithin (s : Server) (n : Nat) (job : Job) :
  (s.stepsWithin n job).server.documents = s.documents
  := by
  induction n generalizing s job with
  | zero => rfl
  | succ n ih =>
    rw [stepsWithin]
    split
    · exact (ih _ _).trans (documents_step s job)
    · apply documents_step

/-- Steps up to a wait leave a shorter job. -/
theorem size_lt_of_stepsWithin {n : Nat} {job next : Job}
    (enough : job.size s.documents.documents.length ≤ n)
    (left : (s.stepsWithin n job).progress.job? = some next) :
  next.size s.documents.documents.length < job.size s.documents.documents.length
  := by
  induction n generalizing s job with
  | zero => cases job <;> simp [Job.size] at enough
  | succ n ih =>
    rw [stepsWithin] at left
    split at left
    · next following ready =>
      have shorter : following.size _ < _ := size_lt_of_step (by rw [ready]; rfl)
      have documents_eq := documents_step s job
      rw [← documents_eq] at shorter enough ⊢
      have later := ih (by omega) left
      omega
    · exact size_lt_of_step left

/-- A handler of a notification that has had a turn runs on towards the same end. -/
theorem exists_runTurn (turn : Turn) :
  ∃ next : Turn, turn.Advances next
    ∧ runTurn none turn = (next.server, next.sent, ⟨none, next.progress⟩)
  := by
  cases ready : turn.progress with
  | ready job =>
    let last := turn.server.steps job
    refine ⟨{ last with sent := turn.sent ++ last.sent }, ⟨?_, ?_, ?_⟩, ?_⟩
    · intro sent final
      rw [Turn.ends_prepend, Turn.ends_of_left (by rw [ready]; rfl)]
      simp only [last, steps, ends_stepsWithin]
    · apply documents_stepsWithin
    · intro next left
      have shorter := size_lt_of_stepsWithin (Nat.le_refl _) left
      exact ⟨job, by rw [ready]; rfl, Nat.le_of_lt shorter⟩
    · simp only [runTurn, ready]
      rfl
  | done response =>
    refine ⟨turn, ⟨fun _ _ => Iff.rfl, rfl, ?_⟩, ?_⟩
    · simp [ready, Progress.job?]
    · simp only [runTurn, ready, List.append_nil]
      rfl
  | waiting job =>
    refine ⟨turn, ⟨fun _ _ => Iff.rfl, rfl, fun job left => ⟨job, left, Nat.le_refl _⟩⟩, ?_⟩
    simp only [runTurn, ready, List.append_nil]
    rfl

/-- Rounds with one handler of a notification bring it to its end, when there are enough of them. -/
theorem exists_rounds {n : Nat} {progress : Progress}
    (enough : ∀ job, progress.job? = some job → job.size s.documents.documents.length ≤ n) :
  ∃ sent last response, ({ server := s, progress := progress } : Turn).Ends sent last
    ∧ s.rounds n [⟨none, progress⟩] = (last, sent, [⟨none, .done response⟩])
  := by
  induction n generalizing s progress with
  | zero =>
    cases progress with
    | done response => exact ⟨[], s, response, .done rfl, rfl⟩
    | ready job | waiting job =>
      have := enough job rfl
      cases job <;> simp [Job.size] at this
  | succ n ih =>
    cases left : progress.job? with
    | none =>
      have nothing : ∀ job, progress.job? = some job →
          job.size s.documents.documents.length ≤ n := by simp [left]
      obtain ⟨sent, last, response, ends, ran⟩ := ih nothing
      use sent, last, response, ends
      have unchanged : s.proceed ⟨none, progress⟩ = (s, [], ⟨none, progress⟩) := by
        cases progress with
        | done => rfl
        | ready job | waiting job => cases left
      simp [rounds, round, unchanged, ran]
    | some job =>
      obtain ⟨next, advances, turned⟩ := exists_runTurn (s.step job)
      have proceeds : s.proceed ⟨none, progress⟩
          = (next.server, next.sent, ⟨none, next.progress⟩) := by
        rw [← turned]
        cases progress with
        | done => cases left
        | ready job | waiting job =>
          obtain rfl := Option.some.inj left
          rfl
      have shorter : ∀ job, next.progress.job? = some job →
          job.size next.server.documents.documents.length ≤ n := by
        intro job found
        obtain ⟨before, stepped, size_le⟩ := advances.size_le job found
        have := size_lt_of_step stepped
        have := enough _ left
        rw [documents_step] at size_le
        rw [advances.documents_eq, documents_step]
        omega
      obtain ⟨later, last, response, ends, ran⟩ := ih shorter
      refine ⟨next.sent ++ later, last, response, ?_, ?_⟩
      · refine .more left ((advances.ends_iff ..).mpr ?_)
        have sent_first := (Turn.ends_prepend next.sent).mpr ⟨later, rfl, ends⟩
        rwa [List.append_nil] at sent_first
      · simp [rounds, round, proceeds, ran]

end Server

/-! ### Notifications -/

namespace Message

/-- What a notification that the server heeds tells, when its parameters can be read. -/
def event? (m : Message) : Option Event :=
  match m.id, Method.ofName? m.method with
  | none, some (.event read) => m.parameters.bind read
  | _, _ => none

/-- A notification that the server heeds, with parameters that can be read or not. -/
def IsNotice (m : Message) : Prop :=
  m.id = none ∧ ∃ read, Method.ofName? m.method = some (.event read)

theorem isNotice_of_event? {m : Message} {e : Event} (told : m.event? = some e) :
  m.IsNotice
  := by
  rw [event?] at told
  split at told
  · next read no_id method_eq => exact ⟨no_id, read, method_eq⟩
  · cases told

end Message

namespace Server

variable {s last : Server} {sent : List Outgoing} {m : Message}

/-- While a server is initialized, a notification is handled, or ignored if it cannot be read. -/
theorem arrive_of_isNotice (phase_eq : s.phase = .initialized)
    (notice : m.IsNotice) :
  s.arrive m = (s, (m.event?.map Task.notice).getD .ignore)
  := by
  obtain ⟨no_id, read, method_eq⟩ := notice
  have running : s.phase ≠ .exited := by simp [phase_eq]
  rw [arrive, if_neg running, method_eq]
  simp only [arriveMethod, phase_eq, arriveInitialized, no_id, Message.event?, method_eq,
    Message.read]
  cases m.parameters.bind read <;> rfl

theorem handle?_of_unread (phase_eq : s.phase = .initialized)
    (notice : m.IsNotice) (unread : m.event? = none) :
  s.handle? [m] = some ([none], [], s)
  := by
  have arrived := arrive_of_isNotice phase_eq notice
  rw [unread] at arrived
  simp [handle?, arriveAll, arrived, beginAll?, begin?, Handler.size, rounds, Handler.response]

/-- A notification that comes alone is handled to the end that its first turn leads to. -/
theorem handle?_of_event {e : Event} (phase_eq : s.phase = .initialized)
    (notice : m.IsNotice) (told : m.event? = some e) :
  (s.notice? e = none ∧ s.handle? [m] = none)
    ∨ ∃ turn sent last response, s.notice? e = some turn ∧ turn.Ends sent last
      ∧ s.handle? [m] = some ([response], if last.connected then sent else [], last)
  := by
  have arrived := arrive_of_isNotice phase_eq notice
  rw [told] at arrived
  cases first : s.notice? e with
  | none =>
    left
    simp [handle?, arriveAll, arrived, beginAll?, begin?, first]
  | some turn =>
    right
    obtain ⟨next, advances, ran⟩ := exists_runTurn turn
    have enough : ∀ job, next.progress.job? = some job →
        job.size next.server.documents.documents.length
          ≤ Handler.size next.server.documents.documents.length ⟨none, next.progress⟩ := by
      intro job left
      cases found : next.progress with
      | done => simp [found, Progress.job?] at left
      | ready other | waiting other =>
        rw [found] at left
        obtain rfl := Option.some.inj left
        apply Nat.le_refl
    obtain ⟨later, last, response, ends, rest⟩ := exists_rounds enough
    refine ⟨turn, next.sent ++ later, last, response, rfl, ?_, ?_⟩
    · have sent_first := (Turn.ends_prepend next.sent).mpr ⟨later, rfl, ends⟩
      rw [List.append_nil] at sent_first
      exact (advances.ends_iff ..).mpr sent_first
    · simp [handle?, arriveAll, arrived, beginAll?, begin?, first, ran, rest, Handler.response]

end Server

end EditorModes
