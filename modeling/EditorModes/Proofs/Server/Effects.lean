import EditorModes.Proofs.Document.Store
import EditorModes.Proofs.Mode.Activation
import EditorModes.Proofs.Mode.Validation
import EditorModes.Proofs.Server.Completion

/-!
# What notifications do

A job only puts the workers to work and starts validations (`Server.Works`).  Validating documents
publishes their problems under the options of the workers, one document after the other, and
passing on options ends in validating all documents that are open.
-/

namespace EditorModes

/-- The options of the workers after options of languages were passed on to services. -/
def ModeSet.optionsAfter (modes : ModeSet) (o : Less.Options)
    (options : List (String × Json)) : Less.Options :=
  options.foldl (fun o (language, options) =>
    ((modes.features.services .configuration).ordered language none).foldl
      (Service.optionsAfter options) o) o

namespace Server

/-! ### Jobs -/

/-- A server after its workers did some work and validations were started. -/
def Works (s t : Server) : Prop :=
  ∃ workers validations,
    t = { s with workspace := { s.workspace with workers := workers }, validations := validations }

theorem Works.trans {s t u : Server} (first : s.Works t) (next : t.Works u) :
  s.Works u
  := by
  obtain ⟨_, _, rfl⟩ := first
  obtain ⟨workers, validations, rfl⟩ := next
  exact ⟨workers, validations, rfl⟩

variable {s last : Server} {sent : List Outgoing} {o : Less.Options}

/-- What is published about a document. -/
def report (s : Server) (o : Less.Options) (d : Document) : Outgoing :=
  .diagnostics d.uri (some d.version) (s.workspace.modes.diagnosis o d)

theorem Works.same {t : Server} (works : s.Works t) :
  t.documents = s.documents ∧ t.workspace.modes = s.workspace.modes
  := by
  obtain ⟨_, _, rfl⟩ := works
  exact ⟨rfl, rfl⟩

theorem Works.report_eq {t : Server} (works : s.Works t) :
  t.report = s.report
  := by
  obtain ⟨_, _, rfl⟩ := works
  rfl

/-- Validating documents publishes the problems of each under the options of the workers. -/
theorem ends_validate (holds : Less.Holds s.workspace.workers o) {documents : List Document}
    (ends : (s.step (.validate documents)).Ends sent last) :
  s.Works last ∧ Less.Holds last.workspace.workers o ∧ sent = documents.map (s.report o)
  := by
  induction documents generalizing s sent with
  | nil =>
    obtain ⟨rfl, rfl⟩ := (Turn.ends_of_done rfl).mp ends
    exact ⟨⟨_, _, rfl⟩, holds, rfl⟩
  | cons d documents ih =>
    obtain ⟨found, workers, holds, answer_eq, ran⟩ := Workspace.exists_diagnostics holds d
    let validations := s.validations.start d.uri
    let t : Server := { s with
      workspace := { s.workspace with workers := workers }, validations := validations.2 }
    have turned : s.step (.validate (d :: documents)) = {
        server := t
        progress := .afterWait (!(s.workspace.services .validation d).isEmpty)
          (.publish d found.answer validations.1 documents) } := by
      simp only [step, validateDocument, ran]
      rfl
    rw [turned, Turn.ends_of_left (Progress.job?_afterWait ..)] at ends
    obtain ⟨later, rfl, publishing⟩ := ends
    obtain ⟨later, rfl, further⟩ := (Turn.ends_of_left rfl).mp publishing
    obtain ⟨works, holds, rfl⟩ := ih (s := t) holds further
    have started : s.Works t := ⟨_, _, rfl⟩
    refine ⟨started.trans works, holds, ?_⟩
    have current : t.validations.isCurrent d.uri validations.1 :=
      (Validations.isCurrent_start s.validations d.uri _).mpr rfl
    simp only [step, current, if_true, answer_eq]
    rfl

/-- Nothing is published about documents. -/
def Unpublished (sent : List Outgoing) : Prop :=
  ∀ message ∈ sent, ∀ uri version problems, message ≠ .diagnostics uri version problems

/-- Passing on options sends warnings at most. -/
theorem unpublished_configureLanguage (s : Server) (language : String) (options : Json)
    (further : List (String × Json)) :
  Unpublished (s.configureLanguage language options further).sent
  := by
  intro message among uri version problems
  obtain ⟨result, -, refused⟩ := List.mem_filterMap.mp among
  split at refused
  · cases refused
  · obtain rfl := Option.some.inj refused
    simp

/-- Passing on options ends in publishing the problems of all documents under the new ones. -/
theorem ends_configure (holds : Less.Holds s.workspace.workers o)
    {options : List (String × Json)} (ends : (s.step (.configure options)).Ends sent last) :
  let new := s.workspace.modes.optionsAfter o options
  s.Works last ∧ Less.Holds last.workspace.workers new
    ∧ ∃ warnings, Unpublished warnings ∧ sent = warnings ++ s.openDocuments.map (s.report new)
  := by
  induction options generalizing s sent o with
  | nil =>
    obtain ⟨later, rfl, ends⟩ := (Turn.ends_of_left rfl).mp ends
    obtain ⟨works, holds, rfl⟩ := ends_validate holds ends
    refine ⟨works, holds, [], ?_, rfl⟩
    simp [Unpublished]
  | cons option options ih =>
    obtain ⟨language, passed⟩ := option
    obtain ⟨results, workers, holds, ran⟩ :=
      Workspace.exists_configure holds passed (s.workspace.configurable language)
    let t : Server := { s with workspace := { s.workspace with workers := workers } }
    have server_eq : (s.configureLanguage language passed options).server = t := by
      simp only [configureLanguage, ran]
      rfl
    have left := job?_configureLanguage s language passed options
    obtain ⟨later, rfl, further⟩ := (Turn.ends_of_left left).mp ends
    rw [server_eq] at further
    obtain ⟨works, holds, warnings, unpublished, rfl⟩ := ih (s := t) holds further
    have started : s.Works t := ⟨_, _, rfl⟩
    refine ⟨started.trans works, holds, _ ++ warnings, ?_, (List.append_assoc ..).symm⟩
    intro message among
    rcases List.mem_append.mp among with first | later
    · apply unpublished_configureLanguage s language passed options message first
    · apply unpublished message later

/-! ### Notifications -/

/-- What a notification leads to when it is handled to the end. -/
def Next (s : Server) (e : Event) (sent : List Outgoing) (last : Server) : Prop :=
  ∃ turn, s.notice? e = some turn ∧ turn.Ends sent last

/--
Whether a notification opens and closes nothing, has no other text for an open document and no
options.
-/
def Idle (s : Server) : Event → Prop
  | .initialized | .cancelled _ => True
  | .opened _ | .closed _ => False
  | .changed uri _ texts => texts = [] ∨ s.documents.read? uri = none
  | .configured settings => settings.object? = none

/--
What handling a notification to the end does, when the workers have the options `o` before and
the options `new` afterwards.
-/
inductive Reacts (s : Server) (o : Less.Options) :
    Event → List Outgoing → Server → Less.Options → Prop
  | passes {e : Event} {sent : List Outgoing} (idle : s.Idle e)
      (unpublished : Unpublished sent) (cancelled : List RequestId) :
      Reacts s o e sent { s with cancelled := cancelled } o
  | opens {d : Document} {activated : Bool} {w : Workspace} {lines : Option LineCache}
      {last : Server}
      (activates : s.workspace.activate? d.language true = some (activated, w))
      (tokenized : (w.tokenizer? d.language).mapM (fun t =>
        LineCache.ofText? t (s.settings.getD {}).maxLineLength d.text) = some lines)
      (works : { s with workspace := w, documents := s.documents.insert d lines }.Works last)
      (holds : Less.Holds last.workspace.workers o) :
      Reacts s o (.opened d) [last.report o d] last o
  | changes {uri : String} {version : Int} {text : Text} (further : List Text)
      {opened : OpenDocument} {lines : Option LineCache} {touched : LineRange} {last : Server}
      (is_open : s.documents.read? uri = some opened)
      (tokenized : DocumentStore.retokenize? opened.lines
        (s.workspace.tokenizer? opened.document.language) text = some (lines, touched))
      (works : { s with documents :=
        s.documents.replace uri ⟨opened.document.withText version text, lines⟩ }.Works last)
      (holds : Less.Holds last.workspace.workers o) :
      Reacts s o (.changed uri version (text :: further))
        [last.report o (opened.document.withText version text)] last o
  | closes (uri : String) :
      Reacts s o (.closed uri) [.diagnostics uri none []] (s.close uri) o
  | configures {settings : Json} {options : List (String × Json)} {warnings : List Outgoing}
      {last : Server} (told : settings.object? = some options)
      (unpublished : Unpublished warnings)
      (works : s.Works last)
      (holds : Less.Holds last.workspace.workers (s.workspace.modes.optionsAfter o
        (options.mergeSort fun a b => !(b.1 < a.1)))) :
      Reacts s o (.configured settings)
        (warnings ++ s.openDocuments.map (s.report (s.workspace.modes.optionsAfter o
          (options.mergeSort fun a b => !(b.1 < a.1)))))
        last (s.workspace.modes.optionsAfter o (options.mergeSort fun a b => !(b.1 < a.1)))

/-- Activating a mode leaves the workers their options. -/
theorem holds_of_activate? {w next : Workspace} {id : String} {elect activated : Bool}
    (holds : Less.Holds w.workers o)
    (activates : w.activate? id elect = some (activated, next)) :
  Less.Holds next.workers o
  := by
  rw [Workspace.activate?] at activates
  simp only [Option.bind_eq_bind, Option.bind_eq_some_iff, Option.pure_def,
    Option.some.injEq] at activates
  obtain ⟨⟨_, modes⟩, -, same⟩ := activates
  obtain ⟨-, rfl⟩ := Prod.mk.inj same
  dsimp only
  split
  · obtain ⟨_, pool, elected, -, holds, -⟩ := holds.exists_electValidator
    rw [elected]
    exact holds
  · exact holds

theorem change?_of_closed {uri : String} (closed : s.documents.read? uri = none) (version : Int)
    (text : Text) :
  s.change? uri version text = some (none, s)
  := by
  simp only [change?, DocumentStore.update?_of_closed closed]
  rfl

/-- An open document gets the other text, with its lines tokenized by what its language has. -/
theorem change?_of_open {uri : String} {opened : OpenDocument}
    (is_open : s.documents.read? uri = some opened) (version : Int) (text : Text) :
  s.change? uri version text
    = (DocumentStore.retokenize? opened.lines
        (s.workspace.tokenizer? opened.document.language) text).map fun (lines, _) =>
          let document := opened.document.withText version text
          (some document,
            { s with documents := s.documents.replace uri ⟨document, lines⟩ })
  := by
  simp only [change?, DocumentStore.get?, is_open, Option.map_some, Option.bind_some,
    DocumentStore.update?_of_open is_open]
  cases DocumentStore.retokenize? opened.lines
    (s.workspace.tokenizer? opened.document.language) text <;> rfl

/-- Handling a notification to the end does one of these things. -/
theorem exists_reacts {e : Event} (holds : Less.Holds s.workspace.workers o)
    (next : s.Next e sent last) :
  ∃ new, s.Reacts o e sent last new
  := by
  obtain ⟨turn, first, ends⟩ := next
  cases e with
  | initialized =>
    obtain rfl := Option.some.inj first
    obtain ⟨rfl, rfl⟩ := (Turn.ends_of_done rfl).mp ends
    refine ⟨o, .passes ?_ ?_ last.cancelled⟩
    · trivial
    · simp [Unpublished]
  | opened d =>
    simp only [notice?, open?, Option.bind_eq_bind, Option.bind_eq_some_iff, Option.pure_def,
      Option.some.injEq, Prod.exists] at first
    obtain ⟨t, ⟨activated, w, activates, lines, tokenized, rfl⟩, rfl⟩ := first
    obtain ⟨later, rfl, validating⟩ := (Turn.ends_of_left rfl).mp ends
    obtain ⟨works, holds, rfl⟩ := ends_validate (holds_of_activate? holds activates) validating
    have reacts := Reacts.opens activates tokenized works holds
    rw [works.report_eq] at reacts
    exact ⟨o, reacts⟩
  | changed uri version texts =>
    cases texts with
    | nil =>
      obtain rfl := Option.some.inj first
      obtain ⟨rfl, rfl⟩ := (Turn.ends_of_done rfl).mp ends
      refine ⟨o, .passes ?_ ?_ last.cancelled⟩
      · exact .inl rfl
      · simp [Unpublished]
    | cons text further =>
      cases is_open : s.documents.read? uri with
      | none =>
        rw [notice?, change?_of_closed is_open] at first
        obtain rfl := Option.some.inj first
        obtain ⟨later, rfl, validating⟩ := (Turn.ends_of_left rfl).mp ends
        obtain ⟨rfl, rfl⟩ := (Turn.ends_of_done rfl).mp validating
        refine ⟨o, .passes ?_ ?_ last.cancelled⟩
        · exact .inr is_open
        · simp [Unpublished, step]
      | some opened =>
        simp only [notice?, change?_of_open is_open, Option.bind_eq_bind, Option.bind_eq_some_iff,
          Option.map_eq_some_iff, Option.pure_def, Option.some.injEq, Prod.exists,
          Prod.mk.injEq] at first
        obtain ⟨_, _, ⟨lines, touched, tokenized, rfl, rfl⟩, rfl⟩ := first
        obtain ⟨later, rfl, validating⟩ := (Turn.ends_of_left rfl).mp ends
        let after : OpenDocument := ⟨opened.document.withText version text, lines⟩
        let t : Server := { s with documents := s.documents.replace uri after }
        obtain ⟨works, holds, rfl⟩ := ends_validate (s := t) holds validating
        have reacts := Reacts.changes further is_open tokenized works holds
        rw [works.report_eq] at reacts
        exact ⟨o, reacts⟩
  | closed uri =>
    obtain rfl := Option.some.inj first
    obtain ⟨rfl, rfl⟩ := (Turn.ends_of_done rfl).mp ends
    exact ⟨o, .closes uri⟩
  | configured settings =>
    cases told : settings.object? with
    | none =>
      rw [notice?, told] at first
      obtain rfl := Option.some.inj first
      obtain ⟨rfl, rfl⟩ := (Turn.ends_of_done rfl).mp ends
      refine ⟨o, .passes ?_ ?_ last.cancelled⟩
      · exact told
      · simp [Unpublished]
    | some options =>
      rw [notice?, told] at first
      obtain rfl := Option.some.inj first
      obtain ⟨later, rfl, configuring⟩ := (Turn.ends_of_left rfl).mp ends
      obtain ⟨works, holds, warnings, unpublished, rfl⟩ := ends_configure holds configuring
      exact ⟨_, .configures told unpublished works holds⟩
  | cancelled request =>
    obtain rfl := Option.some.inj first
    obtain ⟨rfl, rfl⟩ := (Turn.ends_of_done rfl).mp ends
    refine ⟨o, .passes ?_ ?_ _⟩
    · trivial
    · simp [Unpublished]

/-- Notifications leave a server initialized, connected and with its settings. -/
theorem Reacts.keeps {e : Event} {new : Less.Options} (reacts : s.Reacts o e sent last new) :
  last.phase = s.phase ∧ last.connected = s.connected ∧ last.settings = s.settings
  := by
  cases reacts with
  | passes | closes => exact ⟨rfl, rfl, rfl⟩
  | opens _ _ works | changes _ _ _ works | configures _ _ works =>
    obtain ⟨_, _, rfl⟩ := works
    exact ⟨rfl, rfl, rfl⟩

/-- Notifications leave the modes alone, or activate the mode of a document that is opened. -/
theorem Reacts.starts {e : Event} {new : Less.Options} {allowed : String → Prop}
    (reacts : s.Reacts o e sent last new) (within : s.workspace.modes.DependsWithin allowed)
    (opens : ∀ d, e = .opened d → allowed d.language) :
  Relation.ReflTransGen (ModeSet.Starts allowed) s.workspace.modes last.workspace.modes
  := by
  cases reacts with
  | passes | closes => exact .refl
  | @opens d _ _ _ _ activates _ works =>
    obtain ⟨_, _, rfl⟩ := works
    rw [Workspace.activate?] at activates
    simp only [Option.bind_eq_bind, Option.bind_eq_some_iff, Option.pure_def,
      Option.some.injEq] at activates
    obtain ⟨⟨_, modes⟩, started, same⟩ := activates
    obtain ⟨-, rfl⟩ := Prod.mk.inj same
    exact (ModeSet.exists_starts within (opens d rfl) started).1
  | changes _ _ _ works | configures _ _ works =>
    obtain ⟨_, _, rfl⟩ := works
    exact .refl

theorem Reacts.starts_any {e : Event} {new : Less.Options}
    (reacts : s.Reacts o e sent last new) :
  Relation.ReflTransGen (ModeSet.Starts fun _ => True) s.workspace.modes last.workspace.modes
  := reacts.starts (ModeSet.dependsWithin_all _) fun _ _ => trivial

end Server

end EditorModes
