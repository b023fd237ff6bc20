import EditorModes.Proofs.Server.Interleaving

/-!
# Batches as interleavings

A server that handles notifications that come at the same time lets each handler run up to its first
wait and then goes through those that wait in rounds.  This is one of the ways in which handlers can
interleave (`Server.exists_leads_of_handle?`), so what holds of all of them holds of it.
-/

namespace EditorModes

/-- What starts by a choice. -/
def Choice.event? : Choice → Option Event
  | .start e => some e
  | .resume _ => none

/-- The notification that a task is to handle. -/
def Task.event? : Task → Option Event
  | .notice e => some e
  | _ => none

/-- The jobs that are left to handlers, in their order. -/
def Handler.jobs (handlers : List Handler) : List Job :=
  handlers.flatMap (·.progress.job?.toList)

namespace Interleaving

variable {c next last : Interleaving} {choice : Choice} {choices more : List Choice}
  {sent later : List Outgoing}

/-- Choices lead to an end, and these messages are sent meanwhile. -/
def Leads (c : Interleaving) (choices : List Choice) (sent : List Outgoing)
    (last : Interleaving) : Prop :=
  ∃ moments, c.run? choices = some (moments, last) ∧ moments.flatMap (·.turn.sent) = sent

theorem Leads.nil (c : Interleaving) :
  c.Leads [] [] c
  := ⟨[], rfl, rfl⟩

/-- Choices lead on from where the first of them leads. -/
theorem leads_cons_iff :
  c.Leads (choice :: choices) sent last
    ↔ ∃ m next later, c.moment? choice = some (m, next) ∧ sent = m.turn.sent ++ later
      ∧ next.Leads choices later last
  := by
  constructor
  · rintro ⟨moments, ran, rfl⟩
    obtain ⟨⟨m, next⟩, chosen, rest⟩ := Option.bind_eq_some_iff.mp ran
    obtain ⟨⟨moments, _⟩, ran', made⟩ := Option.bind_eq_some_iff.mp rest
    obtain ⟨rfl, rfl⟩ := Prod.mk.inj (Option.some.inj made)
    exact ⟨m, next, _, chosen, List.flatMap_cons, moments, ran', rfl⟩
  · rintro ⟨m, next, _, chosen, rfl, moments, ran, rfl⟩
    refine ⟨m :: moments, ?_, List.flatMap_cons⟩
    rw [run?, chosen]
    simp [ran]

/-- The choices behind one lead on from where it leads. -/
theorem leads_iff_of_moment? {m : Moment} (chosen : c.moment? choice = some (m, next)) :
  c.Leads (choice :: choices) sent last
    ↔ ∃ later, sent = m.turn.sent ++ later ∧ next.Leads choices later last
  := by
  rw [leads_cons_iff, chosen]
  constructor
  · rintro ⟨m, next, later, made, rfl, leads⟩
    obtain ⟨rfl, rfl⟩ := Prod.mk.inj (Option.some.inj made)
    exact ⟨later, rfl, leads⟩
  · rintro ⟨later, rfl, leads⟩
    exact ⟨_, _, later, rfl, rfl, leads⟩

/-- Choices behind others lead on. -/
theorem Leads.append (leads : c.Leads choices sent next) (further : next.Leads more later last) :
  c.Leads (choices ++ more) (sent ++ later) last
  := by
  induction choices generalizing c sent with
  | nil =>
    obtain ⟨moments, ran, rfl⟩ := leads
    obtain ⟨rfl, rfl⟩ := Prod.mk.inj (Option.some.inj ran)
    exact further
  | cons choice choices ih =>
    obtain ⟨m, middle, rest, chosen, rfl, leads'⟩ := leads_cons_iff.mp leads
    exact leads_cons_iff.mpr ⟨m, middle, _, chosen, List.append_assoc .., ih leads'⟩

/-- The choices behind that of a suspended handler lead on from where it is suspended again. -/
theorem leads_resume_iff {s : Server} {before after : List Job} {job : Job} :
  ({ server := s, suspended := before ++ job :: after } : Interleaving).Leads
      (.resume before.length :: choices) sent last
    ↔ ∃ later, sent = (s.goOn job).sent ++ later
      ∧ ({ server := (s.goOn job).server
           suspended := before ++ (s.goOn job).progress.job?.toList ++ after } :
          Interleaving).Leads choices later last
  := by
  have chosen :
      ({ server := s, suspended := before ++ job :: after } : Interleaving).moment?
          (.resume before.length)
        = some (⟨s, .resumes job, s.goOn job⟩,
          ⟨(s.goOn job).server, before ++ (s.goOn job).progress.job?.toList ++ after⟩) := by
    simp [moment?]
  exact leads_iff_of_moment? chosen

/-- The choices behind that of a notification lead on from where its handler is suspended. -/
theorem leads_start_iff {s : Server} {suspended : List Job} {e : Event} {turn : Turn}
    (started : s.start? e = some turn) :
  ({ server := s, suspended := suspended } : Interleaving).Leads (.start e :: choices) sent last
    ↔ ∃ later, sent = turn.sent ++ later
      ∧ ({ server := turn.server, suspended := suspended ++ turn.progress.job?.toList } :
          Interleaving).Leads choices later last
  := by
  have chosen :
      ({ server := s, suspended := suspended } : Interleaving).moment? (.start e)
        = some (⟨s, .starts e, turn⟩,
          ⟨turn.server, suspended ++ turn.progress.job?.toList⟩) := by
    simp [moment?, started]
  exact leads_iff_of_moment? chosen

end Interleaving

namespace Server

open Interleaving

variable {s last : Server} {job : Job} {e : Event} {turn : Turn}

/-- What a handler does up to its next wait, it does by going on as often as it takes. -/
theorem exists_leads_stepsWithin {n : Nat} (before after : List Job)
    (stops : ∀ next, (s.stepsWithin n job).progress ≠ .ready next) :
  ∃ more, more.filterMap Choice.event? = []
    ∧ ({ server := s, suspended := before ++ job :: after } : Interleaving).Leads
      (.resume before.length :: more) (s.stepsWithin n job).sent
      ⟨(s.stepsWithin n job).server,
        before ++ (s.stepsWithin n job).progress.job?.toList ++ after⟩
  := by
  induction n generalizing s job with
  | zero => exact absurd rfl (stops job)
  | succ n ih =>
    by_cases configured : job = .configure []
    · subst configured
      have validates : s.stepsWithin (n + 1) (.configure [])
          = s.stepsWithin n (.validate s.openDocuments) := rfl
      rw [validates] at stops ⊢
      obtain ⟨more, silent, leads⟩ := ih stops
      obtain ⟨later, sent_eq, rest⟩ := leads_resume_iff.mp leads
      exact ⟨more, silent, leads_resume_iff.mpr ⟨later, sent_eq, rest⟩⟩
    · have same : s.goOn job = s.step job := by
        cases job with
        | configure options =>
          cases options with
          | nil => exact absurd rfl configured
          | cons => rfl
        | _ => rfl
      rw [stepsWithin] at stops ⊢
      cases left : (s.step job).progress with
      | ready next =>
        simp only [left] at stops ⊢
        obtain ⟨more, silent, leads⟩ := ih stops
        refine ⟨.resume before.length :: more, silent, leads_resume_iff.mpr ?_⟩
        rw [same, left]
        refine ⟨_, rfl, ?_⟩
        rwa [Progress.job?, Option.toList_some, List.append_assoc, List.singleton_append]
      | done response | waiting next =>
        simp only [left] at stops ⊢
        refine ⟨[], rfl, leads_resume_iff.mpr ?_⟩
        rw [same, left]
        exact ⟨[], (List.append_nil _).symm, .nil _⟩

/-- A handler that waits goes on up to its next wait as in a run of choices. -/
theorem exists_leads_runTurn (s : Server) (before after : List Job) (job : Job) :
  ∃ choices last sent progress, runTurn none (s.step job) = (last, sent, ⟨none, progress⟩)
    ∧ choices.filterMap Choice.event? = []
    ∧ ({ server := s, suspended := before ++ job :: after } : Interleaving).Leads choices sent
      ⟨last, before ++ progress.job?.toList ++ after⟩
  := by
  let n := Handler.size (s.step job).server.documents.documents.length
    ⟨none, (s.step job).progress⟩
  have turned : runTurn none (s.step job)
      = ((s.stepsWithin (n + 1) job).server, (s.stepsWithin (n + 1) job).sent,
        ⟨none, (s.stepsWithin (n + 1) job).progress⟩) := by
    cases left : (s.step job).progress <;>
      simp [runTurn, stepsWithin, steps, settle, Handler.size, n, left]
  have stops : ∀ next, (s.stepsWithin (n + 1) job).progress ≠ .ready next := by
    intro next
    cases left : (s.step job).progress with
    | ready following =>
      simp only [stepsWithin, n, Handler.size, left]
      exact stepsWithin_not_ready (Nat.le_refl _) next
    | done | waiting => simp [stepsWithin, left]
  obtain ⟨more, silent, leads⟩ := exists_leads_stepsWithin before after stops
  exact ⟨_, _, _, _, turned, by simpa [Choice.event?] using silent, leads⟩

/-- The first step of handling a notification leads to no wait. -/
theorem notice?_not_waiting (first : s.notice? e = some turn) (job : Job) :
  turn.progress ≠ .waiting job
  := by
  cases e with
  | initialized | closed | cancelled =>
    obtain rfl := Option.some.inj first
    simp
  | opened d =>
    obtain ⟨_, -, made⟩ := Option.bind_eq_some_iff.mp first
    obtain rfl := Option.some.inj made
    simp
  | changed uri version texts =>
    cases texts with
    | nil =>
      obtain rfl := Option.some.inj first
      simp
    | cons text further =>
      obtain ⟨_, -, made⟩ := Option.bind_eq_some_iff.mp first
      obtain rfl := Option.some.inj made
      simp
  | configured settings =>
    cases told : settings.object? with
    | none | some options =>
      rw [notice?, told] at first
      obtain rfl := Option.some.inj first
      simp

/-- The handler of a notification starts and runs up to its first wait as in a run of choices. -/
theorem exists_leads_notice? (first : s.notice? e = some turn) (suspended : List Job) :
  ∃ choices last sent progress, runTurn none turn = (last, sent, ⟨none, progress⟩)
    ∧ choices.filterMap Choice.event? = [e]
    ∧ ({ server := s, suspended := suspended } : Interleaving).Leads choices sent
      ⟨last, suspended ++ progress.job?.toList⟩
  := by
  cases left : turn.progress with
  | waiting job => exact absurd left (notice?_not_waiting first job)
  | done response =>
    have turned : runTurn none turn = (turn.server, turn.sent, ⟨none, .done response⟩) := by
      simp [runTurn, left, settle]
    have started : s.start? e = some turn := by
      simp [start?, first, left, Progress.job?]
    refine ⟨[.start e], _, _, _, turned, rfl, (leads_start_iff started).mpr ⟨[], ?_, ?_⟩⟩
    · rw [List.append_nil]
    · rw [left]
      exact .nil _
  | ready job =>
    let last := turn.server.steps job
    have turned : runTurn none turn
        = (last.server, turn.sent ++ last.sent, ⟨none, last.progress⟩) := by
      simp [runTurn, left, settle, last]
    have started : s.start? e = some { turn.server.goOn job with
        sent := turn.sent ++ (turn.server.goOn job).sent } := by
      simp [start?, first, left, Progress.job?]
    have stops : ∀ next, last.progress ≠ .ready next := stepsWithin_not_ready (Nat.le_refl _)
    obtain ⟨more, silent, leads⟩ := exists_leads_stepsWithin suspended [] stops
    obtain ⟨later, sent_eq, rest⟩ := leads_resume_iff.mp leads
    rw [List.append_nil, List.append_nil] at rest
    refine ⟨.start e :: more, _, _, _, turned, by simpa [Choice.event?] using silent,
      (leads_start_iff started).mpr ⟨later, ?_, rest⟩⟩
    rw [List.append_assoc, ← sent_eq]
    rfl

/-! ### Rounds -/

/-- The handlers are those of notifications. -/
def OfNotices (handlers : List Handler) : Prop :=
  ∀ h ∈ handlers, h.id = none

/-- A round is a run of choices. -/
theorem exists_leads_round {handlers : List Handler} (notices : OfNotices handlers)
    (before : List Job) :
  ∃ choices last sent next, s.round handlers = (last, sent, next) ∧ OfNotices next
    ∧ choices.filterMap Choice.event? = []
    ∧ ({ server := s, suspended := before ++ Handler.jobs handlers } : Interleaving).Leads choices
      sent ⟨last, before ++ Handler.jobs next⟩
  := by
  induction handlers generalizing s before with
  | nil => exact ⟨[], s, [], [], rfl, notices, rfl, .nil _⟩
  | cons h handlers ih =>
    obtain ⟨notice, others⟩ := List.forall_mem_cons.mp notices
    obtain ⟨id, progress⟩ := h
    obtain rfl : id = none := notice
    have proceeds : ∃ choices t sent left, s.proceed ⟨none, progress⟩ = (t, sent, ⟨none, left⟩)
        ∧ choices.filterMap Choice.event? = []
        ∧ ({ server := s, suspended := before ++ progress.job?.toList ++ Handler.jobs handlers } :
            Interleaving).Leads choices sent
          ⟨t, before ++ left.job?.toList ++ Handler.jobs handlers⟩ := by
      cases progress with
      | done response => exact ⟨[], s, [], .done response, rfl, rfl, .nil _⟩
      | ready job | waiting job =>
        rw [Progress.job?, Option.toList_some, List.append_assoc, List.singleton_append]
        exact exists_leads_runTurn s before _ job
    obtain ⟨choices, t, sent, left, proceeded, silent, leads⟩ := proceeds
    obtain ⟨more, last, later, next, ran, still, quiet, rest⟩ :=
      ih (s := t) others (before ++ left.job?.toList)
    refine ⟨choices ++ more, last, sent ++ later, ⟨none, left⟩ :: next, ?_, ?_, ?_, ?_⟩
    · rw [round, proceeded]
      simp only [ran]
    · exact List.forall_mem_cons.mpr ⟨rfl, still⟩
    · rw [List.filterMap_append, silent, quiet]
      rfl
    · simp only [Handler.jobs, List.flatMap_cons, ← List.append_assoc]
      exact leads.append rest

/-- Rounds are a run of choices. -/
theorem exists_leads_rounds (n : Nat) {handlers : List Handler} (notices : OfNotices handlers) :
  ∃ choices last sent next, s.rounds n handlers = (last, sent, next)
    ∧ choices.filterMap Choice.event? = []
    ∧ ({ server := s, suspended := Handler.jobs handlers } : Interleaving).Leads choices
      sent ⟨last, Handler.jobs next⟩
  := by
  induction n generalizing s handlers with
  | zero => exact ⟨[], s, [], handlers, rfl, rfl, .nil _⟩
  | succ n ih =>
    obtain ⟨choices, t, sent, middle, ran, still, silent, leads⟩ :=
      exists_leads_round (s := s) notices []
    obtain ⟨more, last, later, next, ran', quiet, rest⟩ := ih (s := t) still
    refine ⟨choices ++ more, last, sent ++ later, next, ?_, ?_, leads.append rest⟩
    · rw [rounds, ran]
      simp only [ran']
    · rw [List.filterMap_append, silent, quiet]
      rfl

/-! ### Batches -/

/-- The handlers of notifications start one after the other as in a run of choices. -/
theorem exists_leads_beginAll? {tasks : List Task} {sent : List Outgoing} {handlers : List Handler}
    (only : ∀ task ∈ tasks, task = .ignore ∨ ∃ e, task = .notice e)
    (began : s.beginAll? tasks = some (last, sent, handlers)) (before : List Job) :
  OfNotices handlers ∧ ∃ choices,
    choices.filterMap Choice.event? = tasks.filterMap Task.event?
    ∧ ({ server := s, suspended := before } : Interleaving).Leads choices sent
      ⟨last, before ++ Handler.jobs handlers⟩
  := by
  induction tasks generalizing s before sent handlers with
  | nil =>
    obtain ⟨rfl, rfl, rfl⟩ : s = last ∧ [] = sent ∧ [] = handlers := by
      simpa [beginAll?] using began
    refine ⟨List.forall_mem_nil _, [], rfl, ?_⟩
    rw [Handler.jobs, List.flatMap_nil, List.append_nil]
    exact .nil _
  | cons task tasks ih =>
    obtain ⟨which, others⟩ := List.forall_mem_cons.mp only
    obtain ⟨⟨t, first, h⟩, begins, rest⟩ := Option.bind_eq_some_iff.mp began
    obtain ⟨⟨_, later, handlers⟩, begins', made⟩ := Option.bind_eq_some_iff.mp rest
    obtain ⟨rfl, rfl, rfl⟩ := by simpa using made
    have starts : ∃ choices progress, h = ⟨none, progress⟩
        ∧ choices.filterMap Choice.event? = task.event?.toList
        ∧ ({ server := s, suspended := before } : Interleaving).Leads choices first
          ⟨t, before ++ progress.job?.toList⟩ := by
      rcases which with rfl | ⟨e, rfl⟩
      · obtain ⟨rfl, rfl, rfl⟩ := by simpa [begin?] using begins
        refine ⟨[], .done none, rfl, rfl, ?_⟩
        rw [Progress.job?, Option.toList_none, List.append_nil]
        exact .nil _
      · obtain ⟨turn, noticed, turned⟩ := Option.bind_eq_some_iff.mp begins
        obtain ⟨choices, _, _, progress, ran, told, leads⟩ := exists_leads_notice? noticed before
        rw [ran] at turned
        obtain ⟨rfl, rfl, rfl⟩ := by simpa using turned
        exact ⟨choices, progress, rfl, told, leads⟩
    obtain ⟨choices, progress, rfl, told, leads⟩ := starts
    obtain ⟨notices, more, told', leads'⟩ := ih others begins' (before ++ progress.job?.toList)
    refine ⟨List.forall_mem_cons.mpr ⟨rfl, notices⟩, choices ++ more, ?_, ?_⟩
    · rw [List.filterMap_append, told, told']
      cases told : task.event? <;> simp [told]
    · simp only [Handler.jobs, List.flatMap_cons, ← List.append_assoc]
      exact leads.append leads'

/-- Notifications arrive as what is to be handled of them, in their order. -/
theorem arriveAll_of_isNotice (phase_eq : s.phase = .initialized) {messages : List Message}
    (notices : ∀ m ∈ messages, m.IsNotice) :
  s.arriveAll messages = (s, messages.map fun m => (m.event?.map Task.notice).getD .ignore)
  := by
  induction messages with
  | nil => rfl
  | cons m messages ih =>
    obtain ⟨notice, others⟩ := List.forall_mem_cons.mp notices
    simp [arriveAll, arrive_of_isNotice phase_eq notice, ih others]

/--
What an initialized server does about notifications that come at the same time is what it does in
a run of choices in which they start in their order.
-/
theorem exists_leads_of_handle? (phase_eq : s.phase = .initialized) {messages : List Message}
    (notices : ∀ m ∈ messages, m.IsNotice) {responses : List Response} {sent : List Outgoing}
    (handled : s.handle? messages = some (responses, sent, last)) :
  ∃ choices told left, choices.filterMap Choice.event? = messages.filterMap (·.event?)
    ∧ ({ server := s } : Interleaving).Leads choices told ⟨last, left⟩
    ∧ sent = if last.connected then told else []
  := by
  rw [handle?, arriveAll_of_isNotice phase_eq notices] at handled
  obtain ⟨⟨t, first, handlers⟩, began, made⟩ := Option.bind_eq_some_iff.mp handled
  obtain ⟨still, choices, told, leads⟩ := exists_leads_beginAll? (by
    intro task among
    obtain ⟨m, -, rfl⟩ := List.mem_map.mp among
    cases m.event? with
    | none => exact .inl rfl
    | some e => exact .inr ⟨e, rfl⟩) began []
  obtain ⟨more, final, later, next, ran, quiet, rest⟩ := exists_leads_rounds (s := t)
    ((handlers.map (·.size t.documents.documents.length)).max?.getD 0) still
  simp only [ran] at made
  obtain ⟨-, rfl, rfl⟩ := by simpa using made
  refine ⟨choices ++ more, first ++ later, Handler.jobs next, ?_, leads.append rest, rfl⟩
  rw [List.filterMap_append, told, quiet, List.append_nil, List.filterMap_map]
  congr 1
  funext m
  simp only [Function.comp_apply]
  cases m.event? <;> rfl

end Server

end EditorModes
