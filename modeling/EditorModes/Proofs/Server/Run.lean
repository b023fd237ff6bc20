import EditorModes.Proofs.Server.Effects
import Mathlib.Data.List.Induction

/-!
# Runs of notifications

After a server is initialized, notifications come one after another, each of which is handled to
its end (`Server.handleEach?`).  All the while the server is steady (`Server.Steady`): its workers
have the same options, and the mode of each open document is active when there is one.
-/

namespace EditorModes

/-- The document of a name after a notification, if it is open. -/
def Event.revise (uri : String) (before : Option Document) : Event → Option Document
  | .opened d => if d.uri = uri then some d else before
  | .changed name version (text :: _) =>
    if name = uri then before.map (·.withText version text) else before
  | .closed name => if name = uri then none else before
  | _ => before

/-- Only a notification that opens a document makes it open. -/
theorem Event.eq_opened_of_revise_none {e : Event} {uri : String} {d : Document}
    (revised : e.revise uri none = some d) :
  e = .opened d ∧ d.uri = uri
  := by
  cases e with
  | opened first =>
    rw [Event.revise] at revised
    split at revised
    · next same =>
      obtain rfl := Option.some.inj revised
      exact ⟨rfl, same⟩
    · cases revised
  | changed name version texts => cases texts <;> simp [Event.revise] at revised
  | initialized | closed | configured | cancelled => simp [Event.revise] at revised

namespace Server

/-- What does not change while notifications are handled. -/
structure Steady (s : Server) (o : Less.Options) : Prop where
  phase_eq : s.phase = .initialized
  connected : s.connected = true
  holds : Less.Holds s.workspace.workers o
  orderly : s.workspace.modes.Orderly
  distinct : s.documents.Distinct
  settled : ∀ uri opened, s.documents.read? uri = some opened →
    s.workspace.modes.isActive opened.document.language
      ∨ s.workspace.modes.find? opened.document.language = none

variable {s last : Server} {o new : Less.Options} {e : Event} {m : Message}
  {sent : List Outgoing}

/-- The mode of a language stays active, or unknown, when modes are started. -/
theorem settled_of_starts {modes next : ModeSet} {allowed : String → Prop}
    (started : Relation.ReflTransGen (ModeSet.Starts allowed) modes next) {language : String}
    (settled : modes.isActive language ∨ modes.find? language = none) :
  next.isActive language ∨ next.find? language = none
  := by
  rcases settled with active | unknown
  · exact .inl (ModeSet.isActive_of_starts started active)
  · right
    rw [ModeSet.find?, ModeSet.known_of_starts started]
    exact unknown

/-- The mode of a document that is opened is active afterwards, unless there is none. -/
theorem settled_of_activate? {w next : Workspace} {id : String} {elect activated : Bool}
    (activates : w.activate? id elect = some (activated, next)) :
  next.modes.isActive id ∨ next.modes.find? id = none
  := by
  rw [Workspace.activate?] at activates
  simp only [Option.bind_eq_bind, Option.bind_eq_some_iff, Option.pure_def,
    Option.some.injEq] at activates
  obtain ⟨⟨_, modes⟩, started, same⟩ := activates
  obtain ⟨-, rfl⟩ := Prod.mk.inj same
  exact (ModeSet.exists_starts (ModeSet.dependsWithin_all _) trivial started).2

theorem Reacts.holds (reacts : s.Reacts o e sent last new)
    (holds : Less.Holds s.workspace.workers o) :
  Less.Holds last.workspace.workers new
  := by
  cases reacts with
  | passes | closes => exact holds
  | opens _ _ _ holds | changes _ _ _ _ holds | configures _ _ _ holds => exact holds

/-- Documents have different names after a notification. -/
theorem Reacts.distinct (reacts : s.Reacts o e sent last new) (distinct : s.documents.Distinct) :
  last.documents.Distinct
  := by
  cases reacts with
  | passes => exact distinct
  | closes uri => exact distinct.close uri
  | @opens d _ _ lines _ _ _ works =>
    rw [works.same.1]
    exact distinct.insert d lines
  | changes _ is_open _ works =>
    rw [works.same.1]
    apply distinct.replace
    exact DocumentStore.uri_withText is_open _ _
  | configures _ _ works =>
    rw [works.same.1]
    exact distinct

/-- An open document is as before a notification, or was opened by it, or changed. -/
theorem Reacts.cases_of_read? (reacts : s.Reacts o e sent last new) {uri : String}
    {opened : OpenDocument} (is_open : last.documents.read? uri = some opened) :
  s.documents.read? uri = some opened
    ∨ e = .opened opened.document ∧ opened.document.uri = uri
    ∨ last.workspace.modes = s.workspace.modes ∧ ∃ before version text touched,
      s.documents.read? uri = some before
        ∧ opened.document = before.document.withText version text
        ∧ DocumentStore.retokenize? before.lines
            (s.workspace.tokenizer? before.document.language) text
          = some (opened.lines, touched)
  := by
  cases reacts with
  | passes => exact .inl is_open
  | @opens d _ _ lines _ _ _ works =>
    rw [works.same.1] at is_open
    by_cases same : uri = d.uri
    · subst same
      rw [DocumentStore.read?_insert] at is_open
      obtain rfl := Option.some.inj is_open
      exact .inr (.inl ⟨rfl, rfl⟩)
    · rw [DocumentStore.read?_insert_of_ne _ _ same] at is_open
      exact .inl is_open
  | @changes name version text _ before lines touched _ was_open tokenized works =>
    obtain ⟨documents_eq, modes_eq⟩ := works.same
    rw [documents_eq, DocumentStore.read?_withText was_open] at is_open
    split at is_open
    · next same =>
      subst same
      obtain rfl := Option.some.inj is_open
      exact .inr (.inr ⟨modes_eq, before, version, text, touched, was_open, rfl, tokenized⟩)
    · exact .inl is_open
  | closes closed =>
    by_cases same : uri = closed
    · rw [same, Server.close, DocumentStore.read?_close] at is_open
      cases is_open
    · rw [Server.close, DocumentStore.read?_close_of_ne _ same] at is_open
      exact .inl is_open
  | configures _ _ works =>
    rw [works.same.1] at is_open
    exact .inl is_open

/-- The mode of each open document is active after a notification, when there is one. -/
theorem Reacts.settled (reacts : s.Reacts o e sent last new) (steady : s.Steady o)
    {uri : String} {opened : OpenDocument} (is_open : last.documents.read? uri = some opened) :
  last.workspace.modes.isActive opened.document.language
    ∨ last.workspace.modes.find? opened.document.language = none
  := by
  have kept {before : OpenDocument} (was_open : s.documents.read? uri = some before) :=
    settled_of_starts reacts.starts_any (steady.settled uri before was_open)
  rcases reacts.cases_of_read? is_open with
    was_open | ⟨rfl, -⟩ | ⟨-, before, version, text, _, was_open, document_eq, -⟩
  · exact kept was_open
  · cases reacts with
    | passes idle => exact idle.elim
    | opens activates _ works =>
      rw [works.same.2]
      exact settled_of_activate? activates
  · rw [document_eq]
    exact kept was_open

/-- A steady server stays so. -/
theorem Reacts.steady (reacts : s.Reacts o e sent last new) (steady : s.Steady o) :
  last.Steady new
  := by
  obtain ⟨phase_eq, connected_eq, -⟩ := reacts.keeps
  have started := reacts.starts_any
  constructor
  · exact phase_eq.trans steady.phase_eq
  · exact connected_eq.trans steady.connected
  · exact reacts.holds steady.holds
  · exact steady.orderly.of_starts started
  · exact reacts.distinct steady.distinct
  · intro uri opened is_open
    exact reacts.settled steady is_open

/-- The open documents are those that the notification says. -/
theorem Reacts.get?_documents (reacts : s.Reacts o e sent last new) (uri : String) :
  last.documents.get? uri = e.revise uri (s.documents.get? uri)
  := by
  cases reacts with
  | @passes e _ idle =>
    cases e with
    | initialized | configured | cancelled => rfl
    | opened | closed => exact idle.elim
    | changed name version texts =>
      rcases texts with _ | ⟨text, further⟩
      · rfl
      · rw [Event.revise]
        split
        · next same =>
          have closed := idle.resolve_left (by simp)
          rw [← same, DocumentStore.get?, closed]
          rfl
        · rfl
  | @opens d _ _ lines _ _ _ works =>
    rw [works.same.1, Event.revise, DocumentStore.get?]
    split
    · next same => rw [← same, DocumentStore.read?_insert, Option.map_some]
    · next other =>
      rw [DocumentStore.read?_insert_of_ne _ _ (Ne.symm other)]
      rfl
  | @changes name version text _ opened lines _ _ was_open _ works =>
    rw [works.same.1, Event.revise, DocumentStore.get?, DocumentStore.read?_withText was_open]
    by_cases same : name = uri
    · subst same
      simp [DocumentStore.get?, was_open]
    · simp [DocumentStore.get?, same, Ne.symm same]
  | closes name =>
    rw [Server.close, Event.revise, DocumentStore.get?]
    split
    · next same => rw [same, DocumentStore.read?_close, Option.map_none]
    · next other =>
      rw [DocumentStore.read?_close_of_ne _ (Ne.symm other)]
      rfl
  | configures _ _ works =>
    rw [works.same.1]
    rfl

/-! ### Runs -/

/-- What is sent and the server after messages that come alone, one after another. -/
def handleEach? (s : Server) : List Message → Option (List Outgoing × Server)
  | [] => some ([], s)
  | m :: messages => do
    let (_, sent, s) ← s.handle? [m]
    let (later, s) ← s.handleEach? messages
    return (sent ++ later, s)

/-- Messages in a row are handled one part after the other. -/
theorem handleEach?_append (messages further : List Message) :
  s.handleEach? (messages ++ further)
    = (s.handleEach? messages).bind fun (sent, t) =>
        (t.handleEach? further).map fun (later, last) => (sent ++ later, last)
  := by
  induction messages generalizing s with
  | nil =>
    simp only [List.nil_append, handleEach?, Option.bind_some]
    cases s.handleEach? further <;> rfl
  | cons m messages ih =>
    simp only [List.cons_append, handleEach?, ih, Option.bind_eq_bind]
    cases s.handle? [m] with
    | none => rfl
    | some handled =>
      obtain ⟨_, sent, t⟩ := handled
      simp only [Option.bind_some]
      cases t.handleEach? messages with
      | none => rfl
      | some handled =>
        obtain ⟨later, u⟩ := handled
        simp only [Option.bind_some, Option.pure_def]
        cases u.handleEach? further with
        | none => rfl
        | some handled => simp [List.append_assoc]

/-- Messages behind others are handled after them. -/
theorem handleEach?_append_eq_some_iff {messages further : List Message} :
  s.handleEach? (messages ++ further) = some (sent, last)
    ↔ ∃ before t later, s.handleEach? messages = some (before, t)
      ∧ t.handleEach? further = some (later, last) ∧ sent = before ++ later
  := by
  simp only [handleEach?_append, Option.bind_eq_some_iff, Option.map_eq_some_iff, Prod.exists,
    Prod.mk.injEq]
  constructor
  · rintro ⟨before, t, first, later, _, next, rfl, rfl⟩
    exact ⟨before, t, later, first, next, rfl⟩
  · rintro ⟨before, t, later, first, next, rfl⟩
    exact ⟨before, t, first, later, last, next, rfl, rfl⟩

/-- A message behind others is handled last. -/
theorem handleEach?_concat_eq_some_iff {messages : List Message} :
  s.handleEach? (messages ++ [m]) = some (sent, last)
    ↔ ∃ before t responses later, s.handleEach? messages = some (before, t)
      ∧ t.handle? [m] = some (responses, later, last) ∧ sent = before ++ later
  := by
  simp only [handleEach?_append_eq_some_iff, handleEach?, Option.bind_eq_bind,
    Option.bind_eq_some_iff, Option.pure_def, Option.some.injEq, Prod.exists, Prod.mk.injEq]
  constructor
  · rintro ⟨before, t, _, first, ⟨responses, later, _, ran, _, _, ⟨rfl, rfl⟩, rfl, rfl⟩, rfl⟩
    exact ⟨before, t, responses, later, first, ran, by simp⟩
  · rintro ⟨before, t, responses, later, first, ran, rfl⟩
    exact ⟨before, t, later, first, ⟨responses, later, last, ran, [], last, by simp⟩, rfl⟩

/-- A notification leaves a steady server steady; one that cannot be read does nothing. -/
theorem Steady.of_handle? (steady : s.Steady o) (notice : m.IsNotice)
    {responses : List Response} (handled : s.handle? [m] = some (responses, sent, last)) :
  (m.event? = none ∧ sent = [] ∧ last = s)
    ∨ ∃ e new, m.event? = some e ∧ s.Reacts o e sent last new ∧ last.Steady new
  := by
  cases told : m.event? with
  | none =>
    rw [handle?_of_unread steady.phase_eq notice told, Option.some.injEq, Prod.mk.injEq,
      Prod.mk.injEq] at handled
    obtain ⟨-, rfl, rfl⟩ := handled
    exact .inl ⟨rfl, rfl, rfl⟩
  | some e =>
    right
    rcases handle?_of_event steady.phase_eq notice told with ⟨-, stuck⟩ | found
    · rw [stuck] at handled
      cases handled
    · obtain ⟨turn, all, final, response, first, ends, ran⟩ := found
      rw [ran, Option.some.injEq, Prod.mk.injEq, Prod.mk.injEq] at handled
      obtain ⟨-, sent_eq, rfl⟩ := handled
      obtain ⟨new, reacts⟩ := exists_reacts steady.holds ⟨turn, first, ends⟩
      have steady := reacts.steady steady
      rw [steady.connected, if_pos rfl] at sent_eq
      rw [sent_eq] at reacts
      exact ⟨e, new, rfl, reacts, steady⟩

/-- A notification that can be read is handled to its end when it has a first step. -/
theorem Steady.exists_handle? (steady : s.Steady o) (read : m.event? = some e) {turn : Turn}
    (first : s.notice? e = some turn) :
  ∃ responses sent last, s.handle? [m] = some (responses, sent, last)
  := by
  rcases handle?_of_event steady.phase_eq (Message.isNotice_of_event? read) read with
    ⟨stuck, -⟩ | found
  · rw [stuck] at first
    cases first
  · obtain ⟨_, _, _, _, -, -, ran⟩ := found
    exact ⟨_, _, _, ran⟩

/-- A server that has handled a notification has reacted to it. -/
theorem Steady.reacts_of_handle? (steady : s.Steady o) (read : m.event? = some e)
    {responses : List Response} (handled : s.handle? [m] = some (responses, sent, last)) :
  ∃ new, s.Reacts o e sent last new ∧ last.Steady new
  := by
  rcases steady.of_handle? (Message.isNotice_of_event? read) handled with
    ⟨unread, -, -⟩ | ⟨_, new, same, reacts, last_steady⟩
  · rw [unread] at read
    cases read
  · obtain rfl := Option.some.inj (same.symm.trans read)
    exact ⟨new, reacts, last_steady⟩

/--
Induction over the notifications of a run: what holds of the notifications that were read, what was
sent, the server and the options of its workers holds after all messages, when it holds in the
beginning and is kept by what each notification does.
-/
theorem Steady.run_induction
    {motive : List Event → List Outgoing → Server → Less.Options → Prop} {messages : List Message}
    (steady : s.Steady o) (start : motive [] [] s o)
    (step : ∀ {events before t o e later next new}, t.Steady o → t.Reacts o e later next new →
      motive events before t o → motive (events ++ [e]) (before ++ later) next new)
    (notices : ∀ m ∈ messages, m.IsNotice) (ran : s.handleEach? messages = some (sent, last)) :
  ∃ new, last.Steady new ∧ motive (messages.filterMap (·.event?)) sent last new
  := by
  induction messages using List.reverseRecOn generalizing sent last with
  | nil =>
    obtain ⟨rfl, rfl⟩ := Prod.mk.inj (Option.some.inj ran)
    exact ⟨o, steady, start⟩
  | append_singleton messages m ih =>
    obtain ⟨before, t, responses, later, first, handled, rfl⟩ :=
      handleEach?_concat_eq_some_iff.mp ran
    obtain ⟨o, steady, holds⟩ := ih (fun m among => notices m (by simp [among])) first
    rw [List.filterMap_append]
    rcases steady.of_handle? (notices m (by simp)) handled with
      ⟨unread, rfl, rfl⟩ | ⟨e, new, read, reacts, last_steady⟩
    · refine ⟨o, steady, ?_⟩
      simpa [unread] using holds
    · refine ⟨new, last_steady, ?_⟩
      simpa [read] using step steady reacts holds

/-- After notifications the open documents are those that they say. -/
theorem Steady.get?_documents {messages : List Message} (steady : s.Steady o)
    (notices : ∀ m ∈ messages, m.IsNotice) (ran : s.handleEach? messages = some (sent, last))
    (uri : String) :
  last.documents.get? uri
    = (messages.filterMap (·.event?)).foldl (Event.revise uri) (s.documents.get? uri)
  := by
  have kept := steady.run_induction
    (motive := fun events _ t _ => t.documents.get? uri
      = events.foldl (Event.revise uri) (s.documents.get? uri))
    rfl ?_ notices ran
  · obtain ⟨_, -, documents_eq⟩ := kept
    exact documents_eq
  · intro events before t o e later next new _ reacts documents_eq
    rw [List.foldl_append, ← documents_eq]
    exact reacts.get?_documents uri

/-! ### The start of a run -/

/-- A server that has settings and the modes of some grammars, and no documents yet. -/
structure Started (s : Server) (settings : Settings) (grammars : List Grammar) : Prop where
  phase_eq : s.phase = .initialized
  connected : s.connected = true
  settings_eq : s.settings = some settings
  workspace_eq : s.workspace = ⟨(Mode.builtin s.bundle grammars).foldl ModeSet.add {},
    Less.workers settings.workerCount settings.less⟩
  documents_eq : s.documents = {}

/-- A new server that is initialized works for the directory that the client opens. -/
theorem handle?_initialization {files : FileTree} {bundle : Bundle} {listings : Nat → Listing}
    {init : Message} {id : RequestId} {root : Option Path} (named : init.method = "initialize")
    (id_eq : init.id = some id)
    (read : init.read Parameters.root? = .ok root) :
  ({ files, bundle, listings } : Server).handle? [init]
    = some ([some (.ok capabilities)], [],
        { ({ files, bundle, listings } : Server).inDirectory root with
          phase := .initialized })
  := by
  have method_eq : Method.ofName? init.method = some .initialization := by
    rw [named]
    rfl
  simp [handle?, arriveAll, arrive, method_eq, arriveMethod, id_eq, read, expect, beginAll?,
    begin?, Handler.response, Handler.size, rounds, Bind.bind, Except.bind, Pure.pure,
    Except.pure, runTurn, perform, settle]
  cases root <;> simp [inDirectory, withSettings]

theorem started_inDirectory (files : FileTree) (bundle : Bundle) (listings : Nat → Listing)
    (root : Path) :
  { ({ files, bundle, listings } : Server).inDirectory (some root) with
    phase := .initialized }.Started
    (files.discoverSettings root).1
    (files.loadGrammars (files.discoverSettings root).2 (files.discoverSettings root).1)
  := ⟨rfl, rfl, rfl, rfl, rfl⟩

/-- A server that was initialized without trouble has started. -/
theorem exists_started {files : FileTree} {bundle : Bundle} {listings : Nat → Listing}
    {init : Message} {answer : Json} (named : init.method = "initialize")
    (handled : ({ files, bundle, listings } : Server).handle? [init]
      = some ([some (.ok answer)], sent, s)) :
  ∃ settings grammars, s.Started settings grammars
  := by
  have method_eq : Method.ofName? init.method = some .initialization := by
    rw [named]
    rfl
  cases id_eq : init.id with
  | none =>
    simp [handle?, arriveAll, arrive, method_eq, arriveMethod, id_eq, beginAll?, begin?,
      Handler.response, Handler.size, rounds] at handled
  | some id =>
    cases read : init.read Parameters.root? with
    | error fault =>
      simp [handle?, arriveAll, arrive, method_eq, arriveMethod, id_eq, read, expect, beginAll?,
        begin?, fail, Handler.response, Handler.size, rounds, Bind.bind, Except.bind] at handled
    | ok root =>
      rw [handle?_initialization named id_eq read] at handled
      simp only [Option.some.injEq, Prod.mk.injEq] at handled
      obtain ⟨-, -, rfl⟩ := handled
      cases root with
      | none => exact ⟨_, _, rfl, rfl, rfl, rfl, rfl⟩
      | some root => exact ⟨_, _, started_inDirectory files bundle listings root⟩

theorem Started.inactive {settings : Settings} {grammars : List Grammar}
    (started : s.Started settings grammars) :
  s.workspace.modes.features = {} ∧ s.workspace.modes.active = []
  := by
  rw [started.workspace_eq]
  apply ModeSet.features_foldl_add

/-- A server that has started is steady, with the options of its settings. -/
theorem Started.steady {settings : Settings} {grammars : List Grammar}
    (started : s.Started settings grammars) :
  s.Steady settings.less
  := by
  constructor
  · exact started.phase_eq
  · exact started.connected
  · rw [started.workspace_eq]
    apply Less.holds_workers
  · rw [started.workspace_eq]
    apply Mode.orderly_builtin
  · simp [started.documents_eq, DocumentStore.Distinct]
  · simp [started.documents_eq, DocumentStore.read?]

/-! ### Messages of clients -/

/-- A client says hello. -/
def greeting : Message where
  method := "initialize"
  parameters := some (.object [("capabilities", .object [])])
  id := some (.number 0)

/-- A document is opened. -/
def opening (uri language text : String) : Message where
  method := "textDocument/didOpen"
  parameters := some (.object [("textDocument", .object [("uri", .text uri),
    ("languageId", .text language), ("version", .number 1 0), ("text", .text text)])])
  id := none

end Server

end EditorModes
