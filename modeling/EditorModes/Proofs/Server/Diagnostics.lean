import EditorModes.Proofs.Server.Run

/-!
# Published diagnostics

After every notification, what was last published about a document agrees with the documents that
are open (`Server.standing`): about an open one, its problems under the options that the workers
have now, and about one that was closed, none.
-/

namespace EditorModes

/-- The version and the problems that a message publishes about the document of a name. -/
def Outgoing.told? (uri : String) : Outgoing → Option (Option Int × List Diagnostic)
  | .diagnostics name version problems => if name = uri then some (version, problems) else none
  | _ => none

namespace Server

variable {s last : Server} {o new : Less.Options} {e : Event} {m : Message}
  {sent : List Outgoing} {uri : String}

/-- What is to be published last about the document of a name. -/
def standing (s : Server) (o : Less.Options) (uri : String) : Option Int × List Diagnostic :=
  match s.documents.get? uri with
  | some d => (some d.version, s.workspace.modes.diagnosis o d)
  | none => (none, [])

/-! ### Publications -/

/-- Where nothing is published, there is no last publication. -/
theorem latest?_told_of_unpublished (unpublished : Unpublished sent) :
  latest? (·.told? uri) sent = none
  := by
  rw [latest?, List.filterMap_eq_nil_iff.mpr]
  · rfl
  · intro message among
    cases message with
    | diagnostics name version problems => exact absurd rfl (unpublished _ among _ _ _)
    | log | warning => rfl

/-- A report about one document is the last publication about it, and none about the others. -/
theorem latest?_told_report (s : Server) (o : Less.Options) (d : Document) :
  latest? (·.told? uri) [s.report o d]
    = if d.uri = uri then some (some d.version, s.workspace.modes.diagnosis o d) else none
  := by
  by_cases same : d.uri = uri <;> simp [latest?, report, Outgoing.told?, same]

/-- Reports about all open documents tell where each of them stands, and nothing else. -/
theorem latest?_told_reports (distinct : s.documents.Distinct) :
  latest? (·.told? uri) (s.openDocuments.map (s.report o))
    = (s.documents.get? uri).map fun _ => s.standing o uri
  := by
  have about {d : Document} (among : d ∈ s.openDocuments) (same : d.uri = uri) :
      s.documents.get? uri = some d := same ▸ distinct.mem_all_iff.mp among
  cases found : latest? (·.told? uri) (s.openDocuments.map (s.report o)) with
  | some told =>
    obtain ⟨message, among, told_eq⟩ := exists_of_latest? found
    obtain ⟨d, d_among, rfl⟩ := List.mem_map.mp among
    obtain ⟨same, told_eq⟩ := Option.ite_none_right_eq_some.mp told_eq
    have is_open := about d_among same
    rw [is_open, Option.map_some, standing, is_open]
    exact told_eq.symm
  | none =>
    cases is_open : s.documents.get? uri with
    | none => rfl
    | some d =>
      obtain ⟨opened, was_read, rfl⟩ := Option.map_eq_some_iff.mp is_open
      obtain rfl := DocumentStore.uri_of_read? was_read
      have listed : opened.document ∈ s.openDocuments := distinct.mem_all_iff.mpr is_open
      have among := List.mem_map_of_mem (f := s.report o) listed
      have silent := List.filterMap_eq_nil_iff.mp (List.getLast?_eq_none_iff.mp found) _ among
      simp [report, Outgoing.told?] at silent

/-! ### Standings -/

theorem standing_of_open {opened : OpenDocument} (is_open : s.documents.read? uri = some opened) :
  s.standing o uri = (some opened.document.version, s.workspace.modes.diagnosis o opened.document)
  := by
  rw [standing, DocumentStore.get?, is_open]
  rfl

theorem standing_of_closed (closed : s.documents.read? uri = none) :
  s.standing o uri = (none, [])
  := by
  rw [standing, DocumentStore.get?, closed]
  rfl

/-- Validating a document gives its problems under the options of the workers. -/
theorem Steady.answer_diagnostics (steady : s.Steady o) (d : Document) :
  ((Workspace.diagnostics d false).run s.workspace).1.answer = s.workspace.modes.diagnosis o d
  := by
  obtain ⟨_, _, -, answer_eq, validated⟩ := Workspace.exists_diagnostics steady.holds d
  rw [validated, answer_eq]

theorem diagnosis_of_starts {modes next : ModeSet} {allowed : String → Prop}
    (orderly : modes.Orderly)
    (started : Relation.ReflTransGen (ModeSet.Starts allowed) modes next) {d : Document}
    (settled : modes.isActive d.language ∨ modes.find? d.language = none) :
  next.diagnosis o d = modes.diagnosis o d
  := by
  rw [ModeSet.diagnosis, (orderly.of_starts started).ordered_eq,
    ModeSet.servicesFor_of_starts started settled, ModeSet.diagnosis, orderly.ordered_eq]

/-- Where a document stands does not change as long as it and the options stay the same. -/
theorem standing_of_same {allowed : String → Prop} (steady : s.Steady o)
    (started : Relation.ReflTransGen (ModeSet.Starts allowed) s.workspace.modes
      last.workspace.modes)
    (same : last.documents.read? uri = s.documents.read? uri) :
  last.standing o uri = s.standing o uri
  := by
  cases is_open : s.documents.read? uri with
  | none => rw [standing_of_closed is_open, standing_of_closed (same.trans is_open)]
  | some opened =>
    have settled := steady.settled uri opened is_open
    rw [standing_of_open is_open, standing_of_open (same.trans is_open),
      diagnosis_of_starts steady.orderly started settled]

/-! ### One notification -/

/--
A notification publishes where the document of a name stands now, unless that is where it stood
before, and the notification did not open it.
-/
theorem Reacts.told (reacts : s.Reacts o e sent last new) (steady : s.Steady o) (uri : String) :
  latest? (·.told? uri) sent = some (last.standing new uri)
    ∨ latest? (·.told? uri) sent = none ∧ last.standing new uri = s.standing o uri
      ∧ ∀ d, e = .opened d → d.uri ≠ uri
  := by
  have started := reacts.starts_any
  cases reacts with
  | @passes _ _ idle unpublished =>
    right
    refine ⟨latest?_told_of_unpublished unpublished, standing_of_same steady started rfl, ?_⟩
    rintro d rfl
    exact idle.elim
  | @opens d _ _ lines _ _ _ works =>
    rw [latest?_told_report]
    by_cases same : d.uri = uri
    · left
      subst same
      have is_open : last.documents.read? d.uri = some ⟨d, lines⟩ := by
        rw [works.same.1, DocumentStore.read?_insert]
      rw [if_pos rfl, standing_of_open is_open]
    · right
      have kept : last.documents.read? uri = s.documents.read? uri := by
        rw [works.same.1, DocumentStore.read?_insert_of_ne _ _ (Ne.symm same)]
      refine ⟨if_neg same, standing_of_same steady started kept, ?_⟩
      rintro _ ⟨⟩
      exact same
  | @changes name version text _ opened lines _ _ was_open _ works =>
    rw [latest?_told_report]
    let after : OpenDocument := ⟨opened.document.withText version text, lines⟩
    have was_named := DocumentStore.uri_of_read? was_open
    have named : after.document.uri = name := was_named
    by_cases same : name = uri
    · left
      subst same
      have is_open : last.documents.read? name = some after := by
        rw [works.same.1]
        exact DocumentStore.read?_replace was_open named
      rw [standing_of_open is_open]
      exact if_pos named
    · right
      have kept : last.documents.read? uri = s.documents.read? uri := by
        rw [works.same.1]
        exact DocumentStore.read?_replace_of_ne named (Ne.symm same)
      refine ⟨if_neg ?_, standing_of_same steady started kept, by simp⟩
      rw [← named] at same
      exact same
  | closes closed =>
    by_cases same : closed = uri
    · left
      subst same
      rw [standing_of_closed (DocumentStore.read?_close s.documents closed)]
      simp [latest?, Outgoing.told?]
    · right
      have kept := DocumentStore.read?_close_of_ne s.documents (Ne.symm same)
      refine ⟨?_, standing_of_same steady started kept, by simp⟩
      simp [latest?, Outgoing.told?, same]
  | configures _ unpublished works =>
    rw [latest?_append, latest?_told_reports steady.distinct,
      latest?_told_of_unpublished unpublished, Option.or_none]
    have kept : last.documents.read? uri = s.documents.read? uri := by rw [works.same.1]
    cases is_open : s.documents.read? uri with
    | none =>
      right
      rw [standing_of_closed (o := o) is_open, standing_of_closed (kept.trans is_open),
        DocumentStore.get?, is_open]
      simp
    | some opened =>
      left
      rw [standing_of_open is_open, standing_of_open (kept.trans is_open), works.same.2,
        DocumentStore.get?, is_open]
      rfl

/-- A change of a document that is not open does nothing. -/
theorem handle?_changed_of_closed (phase_eq : s.phase = .initialized) (notice : m.IsNotice)
    {version : Int} {texts : List Text} (changes : m.event? = some (.changed uri version texts))
    (closed : s.documents.get? uri = none) :
  s.handle? [m] = some ([none], [], s)
  := by
  have arrived := arrive_of_isNotice phase_eq notice
  rw [changes, Option.map_some, Option.getD_some] at arrived
  have turned : ∃ turn, s.notice? (.changed uri version texts) = some turn
      ∧ runTurn none turn = (s, [], ⟨none, .done none⟩) := by
    cases texts with
    | nil => exact ⟨_, rfl, rfl⟩
    | cons text further =>
      rw [notice?, change?_of_closed (Option.map_eq_none_iff.mp closed)]
      exact ⟨_, rfl, rfl⟩
  obtain ⟨turn, first, ran⟩ := turned
  simp [handle?, arriveAll, arrived, beginAll?, begin?, first, ran, Handler.size, rounds,
    Handler.response]

/-! ### Runs -/

/--
What was published last about the document of a name is where it stands; about a document that was
never opened, nothing may have been published.
-/
theorem Started.told {settings : Settings} {grammars : List Grammar}
    (started : s.Started settings grammars) {messages : List Message}
    (notices : ∀ m ∈ messages, m.IsNotice) (ran : s.handleEach? messages = some (sent, last)) :
  ∃ o, last.Steady o ∧ ∀ uri,
    latest? (·.told? uri) sent = some (last.standing o uri)
      ∨ latest? (·.told? uri) sent = none ∧ last.standing o uri = (none, [])
        ∧ ∀ d, .opened d ∈ messages.filterMap (·.event?) → d.uri ≠ uri
  := by
  refine started.steady.run_induction (motive := fun events sent t o => ∀ uri,
    latest? (·.told? uri) sent = some (t.standing o uri)
      ∨ latest? (·.told? uri) sent = none ∧ t.standing o uri = (none, [])
        ∧ ∀ d, .opened d ∈ events → d.uri ≠ uri) ?_ ?_ notices ran
  · intro uri
    right
    refine ⟨rfl, ?_, by simp⟩
    apply standing_of_closed
    simp [started.documents_eq, DocumentStore.read?]
  · intro events before t o e later next new steady reacts told uri
    rw [latest?_append]
    rcases reacts.told steady uri with now | ⟨silent, same, not_opened⟩
    · left
      rw [now, Option.some_or]
    · rw [silent, Option.none_or, same]
      rcases told uri with now | ⟨silent, nowhere, unopened⟩
      · exact .inl now
      right
      refine ⟨silent, nowhere, ?_⟩
      intro d among
      rcases List.mem_append.mp among with earlier | latest
      · exact unopened d earlier
      · exact not_opened d (List.mem_singleton.mp latest).symm

/-- What was published last about an open document is what validating it finds. -/
theorem Started.told_of_open {settings : Settings} {grammars : List Grammar}
    (started : s.Started settings grammars) {messages : List Message}
    (notices : ∀ m ∈ messages, m.IsNotice) (ran : s.handleEach? messages = some (sent, last))
    {d : Document} (is_open : last.documents.get? uri = some d) :
  latest? (·.told? uri) sent
    = some (some d.version, ((Workspace.diagnostics d false).run last.workspace).1.answer)
  := by
  obtain ⟨o, steady, told⟩ := started.told notices ran
  have standing_eq : last.standing o uri
      = (some d.version, last.workspace.modes.diagnosis o d) := by rw [standing, is_open]
  rcases told uri with now | ⟨-, nowhere, -⟩
  · rw [now, standing_eq, steady.answer_diagnostics]
  · rw [standing_eq] at nowhere
    cases nowhere

/--
After a server was initialized and has handled any notifications, each to its end, what it
published last about an open document is the version of the document with the problems that
validating it finds with the workers as they are, and about a document that was opened and is
closed again it is that there are no problems.  A change of a document that is not open does
nothing.
-/
theorem publications_follow_documents {files : FileTree} {bundle : Bundle}
    {listings : Nat → Listing} {init : Message} {answer : Json} {greeting : List Outgoing}
    (named : init.method = "initialize")
    (initialized : ({ files, bundle, listings } : Server).handle? [init]
      = some ([some (.ok answer)], greeting, s))
    {messages : List Message} (notices : ∀ m ∈ messages, m.IsNotice)
    (ran : s.handleEach? messages = some (sent, last)) (uri : String) :
  (∀ d, last.documents.get? uri = some d →
      latest? (·.told? uri) sent
        = some (some d.version, ((Workspace.diagnostics d false).run last.workspace).1.answer))
    ∧ (last.documents.get? uri = none →
        (∃ m ∈ messages, ∃ d, m.event? = some (.opened d) ∧ d.uri = uri) →
        latest? (·.told? uri) sent = some (none, []))
    ∧ (last.documents.get? uri = none → ∀ m : Message, m.IsNotice →
        (∃ version texts, m.event? = some (.changed uri version texts)) →
        last.handle? [m] = some ([none], [], last))
  := by
  obtain ⟨settings, grammars, started⟩ := exists_started named initialized
  obtain ⟨o, steady, told⟩ := started.told notices ran
  refine ⟨?_, ?_, ?_⟩
  · intro d is_open
    exact started.told_of_open notices ran is_open
  · rintro closed ⟨m, among, d, opens, same⟩
    rcases told uri with now | ⟨-, -, unopened⟩
    · rw [now, standing, closed]
    · exact absurd same (unopened d (List.mem_filterMap.mpr ⟨m, among, opens⟩))
  · rintro closed m notice ⟨version, texts, changes⟩
    exact handle?_changed_of_closed steady.phase_eq notice changes closed

/-! ### Two stylesheets -/

/-- A document gets another text. -/
def changing (uri text : String) : Message where
  method := "textDocument/didChange"
  parameters := some (.object [
    ("textDocument", .object [("uri", .text uri), ("version", .number 2 0)]),
    ("contentChanges", .list [.object [("text", .text text)]])])
  id := none

/-- A document is closed. -/
def closing (uri : String) : Message where
  method := "textDocument/didClose"
  parameters := some (.object [("textDocument", .object [("uri", .text uri)])])
  id := none

/-- A client tells a severity for braces without a partner in stylesheets. -/
def telling (severity : String) : Message where
  method := "workspace/didChangeConfiguration"
  parameters := some (.object [("settings", .object [("less", .object [("lint",
    .object [("unbalanced_braces", .text severity)])])])])
  id := none

/-- Grammars of words, in the place of those that come with the server. -/
def words : Bundle where
  javaScript :=
    { name := "javascript"
      states := [("root", [.own { pattern := "[a-z]+", token := some "identifier" }])] }
  less :=
    { name := "less"
      states := [("root", [.own { pattern := "[a-z]+", token := some "tag" }])] }

/-- A server with these grammars that lists its documents backwards, and whose client said hello. -/
def greeted : Server :=
  { ({ bundle := words, listings := fun _ => ⟨List.reverse, List.reverse_perm⟩ } :
      Server).inDirectory none with
    phase := .initialized }

/-- A server whose client says hello works for no directory. -/
theorem handle?_greeting (files : FileTree) (bundle : Bundle) (listings : Nat → Listing) :
  ({ files, bundle, listings } : Server).handle? [greeting]
    = some ([some (.ok capabilities)], [],
        { ({ files, bundle, listings } : Server).inDirectory none with phase := .initialized })
  := handle?_initialization rfl rfl rfl

/-- An open document and what validating it finds. -/
def validated? (s : Server) (uri : String) : Option (Document × List Diagnostic) :=
  (s.documents.get? uri).map fun d =>
    (d, ((Workspace.diagnostics d false).run s.workspace).1.answer)

/-- A server with a new worker that warns of braces without a partner. -/
def warned (s : Server) : Server :=
  { s with workspace.workers := Less.workers 1 { unbalancedBraces := .warning } }

/-- What is found about a brace without a partner in the first line. -/
def loneBrace (message : String) (column : Nat) (severity : Less.Severity) : Diagnostic where
  range := ⟨⟨0, column⟩, ⟨0, column + 1⟩⟩
  message := message
  severity := some severity.number
  source := some "less"

/-- A client tells to ignore braces without a partner, and then opens a stylesheet with one. -/
def tellingEarly : List Message :=
  [telling "ignore", opening "file:///x/../a.less" "less" "a \x7b"]

/--
After that it opens a second stylesheet and asks to be warned.  The first one gets another text and
the second one is closed, both under names that are spelled otherwise.
-/
def editing : List Message :=
  [opening "file:///b.less" "less" "\x7d", telling "warning",
    changing "file:///a.less" "a \x7b \x7d\x7d", closing "file:///./b.less"]

/-- All these messages are notifications. -/
theorem isNotice_of_mem_editing :
  ∀ m ∈ tellingEarly ++ editing, m.IsNotice
  := by
  simp only [tellingEarly, editing, List.cons_append, List.nil_append, List.forall_mem_cons]
  exact ⟨⟨rfl, _, rfl⟩, ⟨rfl, _, rfl⟩, ⟨rfl, _, rfl⟩, ⟨rfl, _, rfl⟩, ⟨rfl, _, rfl⟩,
    ⟨rfl, _, rfl⟩, by simp⟩

/--
What comes of them: the brace that is missing at first is an error, and the one that is too much in
the end is a warning, also for workers that start with the options told last.
-/
theorem exists_edited :
  ∃ early mid later last, greeted.handleEach? tellingEarly = some (early, mid)
    ∧ mid.handleEach? editing = some (later, last)
    ∧ (mid.documents.get? "file:///a.less").isSome
    ∧ latest? (·.told? "file:///a.less") early
      = some (some 1, [loneBrace "missing '\x7d'" 2 .error])
    ∧ last.validated? "file:///a.less"
      = some (⟨"file:///a.less", "less", 2, "a \x7b \x7d\x7d".toList⟩,
          [loneBrace "unexpected '\x7d'" 5 .warning])
    ∧ last.warned.validated? "file:///a.less" = last.validated? "file:///a.less"
    ∧ last.documents.get? "file:///b.less" = none
  := by
  have seen : ((greeted.handleEach? tellingEarly).any fun before =>
      (before.2.handleEach? editing).any fun after =>
        (before.2.documents.get? "file:///a.less").isSome
          ∧ latest? (Outgoing.told? "file:///a.less") before.1
            = some (some 1, [loneBrace "missing '\x7d'" 2 .error])
          ∧ after.2.validated? "file:///a.less"
            = some (⟨"file:///a.less", "less", 2, "a \x7b \x7d\x7d".toList⟩,
                [loneBrace "unexpected '\x7d'" 5 .warning])
          ∧ after.2.warned.validated? "file:///a.less" = after.2.validated? "file:///a.less"
          ∧ (after.2.documents.get? "file:///b.less").isNone) = true := by
    decide +kernel
  obtain ⟨⟨early, mid⟩, first, seen⟩ := (Option.any_eq_true _ _).mp seen
  obtain ⟨⟨later, last⟩, next, seen⟩ := (Option.any_eq_true _ _).mp seen
  have results := of_decide_eq_true seen
  rw [Option.isNone_iff_eq_none] at results
  exact ⟨early, mid, later, last, first, next, results⟩

/--
The first stylesheet is published with the brace that its new text has too many, the second with
nothing, and that one does not change any more.
-/
theorem publications_follow_documents_sheets :
  ({ bundle := words, listings := fun _ => ⟨List.reverse, List.reverse_perm⟩ } : Server).handle?
      [greeting]
    = some ([some (.ok capabilities)], [], greeted)
  ∧ ∃ sent last, greeted.handleEach? (tellingEarly ++ editing) = some (sent, last)
    ∧ latest? (·.told? "file:///a.less") sent
      = some (some 2, [loneBrace "unexpected '\x7d'" 5 .warning])
    ∧ latest? (·.told? "file:///b.less") sent = some (none, [])
    ∧ last.handle? [changing "file:///b.less" "\x7d"] = some ([none], [], last)
  := by
  obtain ⟨early, mid, later, last, first, next, -, -, found, -, b_closed⟩ := exists_edited
  have ran := handleEach?_append_eq_some_iff.mpr ⟨early, mid, later, first, next, rfl⟩
  obtain ⟨d, a_open, found⟩ := Option.map_eq_some_iff.mp found
  obtain ⟨rfl, problems_eq⟩ := Prod.mk.inj found
  have follow :=
    publications_follow_documents rfl (handle?_greeting _ _ _) isNotice_of_mem_editing ran
  refine ⟨handle?_greeting _ _ _, early ++ later, last, ran, ?_, ?_, ?_⟩
  · rw [(follow "file:///a.less").1 _ a_open, problems_eq]
  · apply (follow "file:///b.less").2.1 b_closed
    exact ⟨opening "file:///b.less" "less" "\x7d", by simp [editing], _, rfl, rfl⟩
  · exact (follow "file:///b.less").2.2 b_closed _ ⟨rfl, _, rfl⟩ ⟨2, ["\x7d".toList], rfl⟩

end Server

end EditorModes
