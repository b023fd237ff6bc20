import EditorModes.Proofs.Server.Effects
import EditorModes.Server.Interleaving
import Mathlib.Logic.Function.Basic
import Mathlib.Tactic.Tauto

/-!
# Publications of concurrent handlers

A validation that is on its way fits the server (`Server.Fits`): as long as its ticket is the latest
one for the document, the document is open in the version that is validated.  Each moment keeps
this of all that is suspended (`Interleaving.Sound.moment?`), unless a handler that validates one
document after the other comes to one that has changed since it listed them.  So what is published
has the version in which the document is open, and versions are published in order
(`Interleaving.publishes_in_order`).  Where such a handler does come to one, an outdated version is
published (`Interleaving.publishes_outdated`).
-/

namespace EditorModes

namespace Server

variable {s : Server} {d : Document} {uri other : String} {turn : Turn}

/-! ### Versions of open documents -/

/-- The version in which a document is open. -/
def version? (s : Server) (uri : String) : Option Int :=
  (s.documents.get? uri).map (·.version)

theorem version?_congr {t : Server} (documents_eq : t.documents = s.documents) :
  t.version? = s.version?
  := by
  funext uri
  rw [version?, version?, documents_eq]

/-- Where one document of a store has changed, only its version has. -/
theorem version?_eq_update {t : Server}
    (elsewhere : ∀ other ≠ uri, t.documents.read? other = s.documents.read? other) :
  t.version? = Function.update s.version? uri (t.version? uri)
  := by
  funext other
  by_cases same : other = uri
  · rw [same, Function.update_self]
  · rw [Function.update_of_ne same, version?, version?, DocumentStore.get?, DocumentStore.get?,
      elsewhere other same]

theorem version?_of_read? {opened : OpenDocument} (is_open : s.documents.read? uri = some opened) :
  s.version? uri = some opened.document.version
  := by
  rw [version?, DocumentStore.get?, is_open]
  rfl

/-- A closed document has no version, and the others keep theirs. -/
theorem version?_close :
  (s.close uri).version? = Function.update s.version? uri none
  := by
  have gone : (s.close uri).version? uri = none := by
    rw [version?, close, DocumentStore.get?, DocumentStore.read?_close]
    rfl
  rw [← gone]
  exact version?_eq_update fun other ne => s.documents.read?_close_of_ne ne

/-! ### The first step of a handler -/

/-- A document is open in a version that is to be validated. -/
structure Revises (s : Server) (d : Document) (turn : Turn) : Prop where
  validations_eq : turn.server.validations = s.validations
  distinct : s.documents.Distinct → turn.server.documents.Distinct
  version?_eq : turn.server.version? = Function.update s.version? d.uri (some d.version)
  silent : turn.sent = []
  left : turn.progress.job? = some (.validate [d])

/-- What the first step of handling a notification does. -/
inductive Notices (s : Server) : Event → Turn → Prop where
  | opens {d : Document} {turn : Turn} (revises : s.Revises d turn) : Notices s (.opened d) turn
  | changes {d : Document} {text : Text} (further : List Text) {turn : Turn}
    (is_open : (s.version? d.uri).isSome) (revises : s.Revises d turn) :
    Notices s (.changed d.uri d.version (text :: further)) turn
  | closes (uri : String) :
    Notices s (.closed uri)
      { server := s.close uri, sent := [.diagnostics uri none []], progress := .done none }
  | passes {e : Event} {turn : Turn} (documents_eq : turn.server.documents = s.documents)
    (validations_eq : turn.server.validations = s.validations) (silent : Unpublished turn.sent)
    (left : ∀ job, turn.progress.job? = some job →
      job = .validate [] ∨ ∃ options, job = .configure options) : Notices s e turn

/-- The first step of handling a notification does one of these things. -/
theorem notices_of_notice? {e : Event} (first : s.notice? e = some turn) :
  s.Notices e turn
  := by
  cases e with
  | initialized =>
    obtain rfl := Option.some.inj first
    refine .passes rfl rfl ?_ fun job left => by cases left
    simp [Unpublished]
  | opened d =>
    simp only [notice?, open?, Option.bind_eq_bind, Option.bind_eq_some_iff, Option.pure_def,
      Option.some.injEq, Prod.exists] at first
    obtain ⟨t, ⟨_, w, -, lines, -, rfl⟩, rfl⟩ := first
    let t : Server := { s with workspace := w, documents := s.documents.insert d lines }
    have versions : t.version? = Function.update s.version? d.uri (t.version? d.uri) :=
      version?_eq_update fun other ne => s.documents.read?_insert_of_ne lines ne
    rw [version?_of_read? (s.documents.read?_insert d lines)] at versions
    exact .opens ⟨rfl, fun distinct => distinct.insert d lines, versions, rfl, rfl⟩
  | changed uri version texts =>
    cases texts with
    | nil =>
      obtain rfl := Option.some.inj first
      refine .passes rfl rfl ?_ fun job left => by cases left
      simp [Unpublished]
    | cons text further =>
      cases is_open : s.documents.read? uri with
      | none =>
        rw [notice?, change?_of_closed is_open] at first
        obtain rfl := Option.some.inj first
        refine .passes rfl rfl ?_ fun job left => .inl (Option.some.inj left).symm
        simp [Unpublished]
      | some opened =>
        simp only [notice?, change?_of_open is_open, Option.bind_eq_bind, Option.bind_eq_some_iff,
          Option.map_eq_some_iff, Option.pure_def, Option.some.injEq, Prod.exists,
          Prod.mk.injEq] at first
        obtain ⟨_, _, ⟨lines, touched, -, rfl, rfl⟩, rfl⟩ := first
        obtain rfl := DocumentStore.uri_withText is_open version text
        let after : OpenDocument := ⟨opened.document.withText version text, lines⟩
        let t : Server := { s with documents := s.documents.replace after.document.uri after }
        have versions : t.version? = Function.update s.version? after.document.uri _ :=
          version?_eq_update fun other ne => DocumentStore.read?_replace_of_ne rfl ne
        have here : t.documents.read? after.document.uri = some after :=
          DocumentStore.read?_replace is_open rfl
        rw [version?_of_read? here] at versions
        have has_version : (s.version? after.document.uri).isSome := by
          rw [version?_of_read? is_open]
          rfl
        exact .changes further has_version
          ⟨rfl, fun distinct => distinct.replace rfl, versions, rfl, rfl⟩
  | closed uri =>
    obtain rfl := Option.some.inj first
    exact .closes uri
  | configured settings =>
    cases told : settings.object? with
    | none =>
      rw [notice?, told] at first
      obtain rfl := Option.some.inj first
      refine .passes rfl rfl ?_ fun job left => by cases left
      simp [Unpublished]
    | some options =>
      rw [notice?, told] at first
      obtain rfl := Option.some.inj first
      refine .passes rfl rfl ?_ fun job left => .inr ⟨_, (Option.some.inj left).symm⟩
      simp [Unpublished]
  | cancelled request =>
    obtain rfl := Option.some.inj first
    refine .passes rfl rfl ?_ fun job left => by cases left
    simp [Unpublished]

/-! ### What a handler does before it is suspended -/

/-- What a suspended handler does until it is suspended again. -/
inductive GoesOn (s : Server) : Job → Turn → Prop where
  | validates {job : Job} {d : Document} {problems : List Diagnostic} {further : List Document}
    {turn : Turn}
    (chosen : job = .validate (d :: further) ∨ job = .configure [] ∧ d ∈ s.openDocuments)
    (documents_eq : turn.server.documents = s.documents)
    (started : turn.server.validations = (s.validations.start d.uri).2) (silent : turn.sent = [])
    (left : turn.progress.job? = some (.publish d problems s.validations.issued further)) :
    GoesOn s job turn
  | publishes (d : Document) (problems : List Diagnostic) (ticket : Nat)
    (further : List Document) :
    GoesOn s (.publish d problems ticket further) (s.step (.publish d problems ticket further))
  | passes {job : Job} {turn : Turn} (documents_eq : turn.server.documents = s.documents)
    (validations_eq : turn.server.validations = s.validations) (silent : Unpublished turn.sent)
    (left : ∀ next, turn.progress.job? = some next → ∃ options, next = .configure options) :
    GoesOn s job turn

/-- To validate documents is to start with the first of them. -/
theorem goesOn_validate {job : Job} {documents : List Document}
    (chosen : job = .validate documents ∨ job = .configure [] ∧ documents = s.openDocuments) :
  s.GoesOn job (s.step (.validate documents))
  := by
  cases documents with
  | nil =>
    refine .passes rfl rfl (by simp [Unpublished, step]) fun next left => ?_
    cases left
  | cons d further =>
    refine .validates (d := d) ?_ rfl rfl rfl (Progress.job?_afterWait ..)
    rcases chosen with rfl | ⟨rfl, listed⟩
    · exact .inl rfl
    · exact .inr ⟨rfl, by rw [← listed]; exact List.mem_cons_self⟩

/-- A suspended handler does one of these things. -/
theorem goesOn_goOn (s : Server) (job : Job) :
  s.GoesOn job (s.goOn job)
  := by
  cases job with
  | configure options =>
    cases options with
    | nil => exact goesOn_validate (.inr ⟨rfl, rfl⟩)
    | cons option further =>
      have silent := unpublished_configureLanguage s option.1 option.2 further
      refine .passes rfl rfl silent fun next left => ?_
      have configures := job?_configureLanguage s option.1 option.2 further
      exact ⟨further, Option.some.inj (left.symm.trans configures)⟩
  | validate documents => exact goesOn_validate (.inl rfl)
  | publish d problems ticket further => exact .publishes d problems ticket further
  | reply answer =>
    refine .passes rfl rfl (by simp [Unpublished, goOn, step]) fun next left => ?_
    cases left

/-! ### What is suspended -/

/--
A validation that is on its way has a ticket, and as long as this is the latest one for the
document, the document is open in the version that is validated.
-/
def Fits (s : Server) : Job → Prop
  | .publish d _ ticket _ => ticket < s.validations.issued
    ∧ (s.validations.isCurrent d.uri ticket → s.version? d.uri = some d.version)
  | _ => True

variable {t : Server} {job : Job}

theorem Fits.of_same (fits : s.Fits job) (documents_eq : t.documents = s.documents)
    (validations_eq : t.validations = s.validations) :
  t.Fits job
  := by
  cases job with
  | publish d problems ticket further =>
    rw [Fits, validations_eq, version?_congr documents_eq]
    exact fits
  | _ => trivial

/--
When the validation of a document starts, those of the same document are superseded, so the version
in which it is open does not matter to them.
-/
theorem Fits.of_start (fits : s.Fits job)
    (started : t.validations = (s.validations.start uri).2)
    (elsewhere : ∀ other ≠ uri, t.version? other = s.version? other) :
  t.Fits job
  := by
  cases job with
  | publish d problems ticket further =>
    obtain ⟨issued, current⟩ := fits
    rw [Fits, started]
    refine ⟨Nat.lt_succ_of_lt issued, fun latest => ?_⟩
    by_cases same : d.uri = uri
    · rw [same, Validations.isCurrent_start] at latest
      exact absurd latest (Nat.ne_of_lt issued)
    · rw [Validations.isCurrent_start_of_ne _ same] at latest
      rw [elsewhere _ same]
      exact current latest
  | _ => trivial

/-- When a document is closed, no validation of it has the latest ticket. -/
theorem Fits.close (fits : s.Fits job) (uri : String) :
  (s.close uri).Fits job
  := by
  cases job with
  | publish d problems ticket further =>
    obtain ⟨issued, current⟩ := fits
    refine ⟨issued, fun latest => ?_⟩
    rw [close] at latest
    by_cases same : d.uri = uri
    · rw [same, Validations.isCurrent_stop] at latest
      cases latest
    · rw [Validations.isCurrent_stop_of_ne _ same] at latest
      rw [version?_close, Function.update_of_ne same]
      exact current latest
  | _ => trivial

theorem fits_publish {problems : List Diagnostic} {further : List Document}
    (started : t.validations = (s.validations.start d.uri).2)
    (open_in : t.version? d.uri = some d.version) :
  t.Fits (.publish d problems s.validations.issued further)
  := by
  rw [Fits, started]
  exact ⟨Nat.lt_succ_self _, fun _ => open_in⟩

end Server

/-! ### Moments -/

/--
What is published about a document has the version in which the document is open then; about one
that is closed nothing but a retraction is published.
-/
def Turn.PublishesCurrent (turn : Turn) : Prop :=
  ∀ uri version problems, .diagnostics uri version problems ∈ turn.sent →
    turn.server.version? uri = version ∧ (version = none → problems = [])

namespace Moment

/-- Whether another text of a document that is open has no older version. -/
def increases (m : Moment) : Bool :=
  match m.act with
  | .starts (.changed uri version (_ :: _)) => (m.before.version? uri).all (· ≤ version)
  | _ => true

/--
Whether the validation of a document that a suspended handler comes to is of the version in which
the document is open then.
-/
def validatesCurrent (m : Moment) : Bool :=
  match m.act with
  | .resumes (.validate (d :: _)) => m.before.version? d.uri = some d.version
  | _ => true

/-- Whether a document is opened. -/
def opens (m : Moment) (uri : String) : Bool :=
  match m.act with
  | .starts (.opened d) => d.uri = uri
  | _ => false

end Moment

theorem Turn.publishesCurrent_of_unpublished {turn : Turn}
    (silent : Server.Unpublished turn.sent) :
  turn.PublishesCurrent
  := fun uri version problems among => absurd rfl (silent _ among uri version problems)

namespace Server

variable {s t : Server} {turn : Turn} {job : Job} {d : Document}

/--
Until a handler is suspended, the names of documents stay different, what is on its way
still fits, what is left to the handler does too, and what is published is current.
-/
structure Keeps (s : Server) (turn : Turn) : Prop where
  distinct : turn.server.documents.Distinct
  fits : ∀ job, s.Fits job → turn.server.Fits job
  left : ∀ job, turn.progress.job? = some job → turn.server.Fits job
  current : turn.PublishesCurrent

/-- A step before which changes nothing for what is on its way, and publishes nothing. -/
theorem Keeps.behind (keeps : t.Keeps turn) (documents_eq : t.documents = s.documents)
    (validations_eq : t.validations = s.validations) {sent : List Outgoing}
    (silent : Unpublished sent) :
  s.Keeps { turn with sent := sent ++ turn.sent }
  := by
  refine ⟨keeps.distinct, fun job fits => ?_, keeps.left, fun uri version problems among => ?_⟩
  · exact keeps.fits job (fits.of_same documents_eq validations_eq)
  · rcases List.mem_append.mp among with first | later
    · exact absurd rfl (silent _ first uri version problems)
    · exact keeps.current uri version problems later

theorem keeps_of_start {problems : List Diagnostic} {further : List Document}
    (distinct : turn.server.documents.Distinct) (silent : Unpublished turn.sent)
    (elsewhere : ∀ other ≠ d.uri, turn.server.version? other = s.version? other)
    (open_in : turn.server.version? d.uri = some d.version)
    (started : turn.server.validations = (s.validations.start d.uri).2)
    (left : turn.progress.job? = some (.publish d problems s.validations.issued further)) :
  s.Keeps turn
  := by
  refine ⟨distinct, fun job fits => fits.of_start started elsewhere, fun job left' => ?_,
    turn.publishesCurrent_of_unpublished silent⟩
  obtain rfl := Option.some.inj (left.symm.trans left')
  exact fits_publish started open_in

/-- A suspended handler that fits goes on to one that does, if it validates what is open. -/
theorem GoesOn.keeps (goes : s.GoesOn job turn) (distinct : s.documents.Distinct)
    (fits : s.Fits job)
    (current : ∀ d further, job = .validate (d :: further) → s.version? d.uri = some d.version) :
  s.Keeps turn
  := by
  cases goes with
  | @validates _ d problems further _ chosen documents_eq started silent left =>
    have versions := version?_congr documents_eq
    refine keeps_of_start (documents_eq ▸ distinct) (by simp [silent, Unpublished])
      (fun other _ => by rw [versions]) ?_ started left
    rw [versions]
    rcases chosen with chosen | ⟨-, listed⟩
    · exact current d further chosen
    · rw [version?, (distinct.mem_all_iff).mp listed]
      rfl
  | publishes d problems ticket further =>
    refine ⟨distinct, fun job fits => fits, fun job left => ?_,
      fun uri version problems' among => ?_⟩
    · obtain rfl := Option.some.inj left
      trivial
    · dsimp only [step] at among ⊢
      split at among
      · next latest =>
        obtain ⟨rfl, rfl, rfl⟩ := by simpa using among
        refine ⟨fits.2 latest, fun closed => ?_⟩
        cases closed
      · cases among
  | passes documents_eq validations_eq silent left =>
    refine ⟨documents_eq ▸ distinct, fun job fits => fits.of_same documents_eq validations_eq,
      fun job left' => ?_, turn.publishesCurrent_of_unpublished silent⟩
    obtain ⟨options, rfl⟩ := left job left'
    trivial

/-- A document that is opened or changed is validated at once, in its version. -/
theorem Revises.keeps (revises : s.Revises d turn) (distinct : s.documents.Distinct) :
  s.Keeps (turn.server.goOn (.validate [d]))
  := by
  have silent : (turn.server.goOn (.validate [d])).sent = [] := rfl
  have versions : (turn.server.goOn (.validate [d])).server.version?
      = Function.update s.version? d.uri (some d.version) :=
    (version?_congr rfl).trans revises.version?_eq
  have left : (turn.server.goOn (.validate [d])).progress.job?
      = some (.publish d _ turn.server.validations.issued []) := Progress.job?_afterWait ..
  rw [revises.validations_eq] at left
  refine keeps_of_start (revises.distinct distinct) (by simp [silent, Unpublished])
    (fun other ne => ?_) ?_ ?_ left
  · rw [versions, Function.update_of_ne ne]
  · rw [versions, Function.update_self]
  · rw [← revises.validations_eq]
    rfl

/-- A handler that starts keeps what is on its way fitting, and publishes what is current. -/
theorem keeps_of_start? {e : Event} (started : s.start? e = some turn)
    (distinct : s.documents.Distinct) :
  s.Keeps turn
  := by
  obtain ⟨first, noticed, rest⟩ := Option.bind_eq_some_iff.mp started
  cases notices_of_notice? noticed with
  | opens revises =>
    rw [revises.left] at rest
    obtain rfl := Option.some.inj rest
    exact (revises.keeps distinct).behind rfl rfl (by simp [revises.silent, Unpublished])
  | changes further is_open revises =>
    rw [revises.left] at rest
    obtain rfl := Option.some.inj rest
    exact (revises.keeps distinct).behind rfl rfl (by simp [revises.silent, Unpublished])
  | closes uri =>
    obtain rfl := Option.some.inj rest
    refine ⟨distinct.close uri, fun job fits => fits.close uri, fun job left => ?_, ?_⟩
    · cases left
    · intro _ _ _ among
      obtain ⟨rfl, rfl, rfl⟩ := by simpa using among
      exact ⟨by rw [version?_close, Function.update_self], fun _ => rfl⟩
  | passes documents_eq validations_eq silent left =>
    cases left_eq : first.progress.job? with
    | none =>
      rw [left_eq] at rest
      obtain rfl := Option.some.inj rest
      refine ⟨documents_eq ▸ distinct, fun job fits => fits.of_same documents_eq validations_eq,
        fun job left => ?_, first.publishesCurrent_of_unpublished silent⟩
      rw [left_eq] at left
      cases left
    | some job =>
      rw [left_eq] at rest
      obtain rfl := Option.some.inj rest
      have keeps : first.server.Keeps (first.server.goOn job) := by
        apply (goesOn_goOn first.server job).keeps (documents_eq ▸ distinct)
        · rcases left job left_eq with rfl | ⟨options, rfl⟩ <;> trivial
        · rintro d further rfl
          rcases left _ left_eq with same | ⟨options, same⟩ <;> cases same
      exact keeps.behind documents_eq validations_eq silent

end Server

namespace Interleaving

variable {c next last : Interleaving} {choice : Choice} {choices : List Choice} {m : Moment}
  {moments : List Moment}

/-- The names of documents differ, and what is on its way fits. -/
structure Sound (c : Interleaving) : Prop where
  distinct : c.server.documents.Distinct
  fits : ∀ job ∈ c.suspended, c.server.Fits job

/-- A moment keeps what is on its way fitting, and what is published in it is current. -/
theorem Sound.moment? (sound : c.Sound) (chosen : c.moment? choice = some (m, next))
    (current : m.validatesCurrent) :
  next.Sound ∧ m.turn.PublishesCurrent
  := by
  cases choice with
  | start e =>
    obtain ⟨turn, started, made⟩ := Option.bind_eq_some_iff.mp chosen
    obtain ⟨rfl, rfl⟩ := Prod.mk.inj (Option.some.inj made)
    have keeps := Server.keeps_of_start? started sound.distinct
    refine ⟨⟨keeps.distinct, fun job among => ?_⟩, keeps.current⟩
    rcases List.mem_append.mp among with before | left
    · exact keeps.fits job (sound.fits job before)
    · exact keeps.left job (Option.mem_toList.mp left)
  | resume index =>
    obtain ⟨job, found, made⟩ := Option.bind_eq_some_iff.mp chosen
    obtain ⟨rfl, rfl⟩ := Prod.mk.inj (Option.some.inj made)
    have keeps : c.server.Keeps (c.server.goOn job) := by
      apply (Server.goesOn_goOn c.server job).keeps sound.distinct
      · exact sound.fits job (List.mem_of_getElem? found)
      · rintro d further rfl
        exact of_decide_eq_true current
    refine ⟨⟨keeps.distinct, fun other among => ?_⟩, keeps.current⟩
    simp only [List.mem_append] at among
    rcases among with (before | left) | after
    · exact keeps.fits other (sound.fits other (List.mem_of_mem_take before))
    · exact keeps.left other (Option.mem_toList.mp left)
    · exact keeps.fits other (sound.fits other (List.mem_of_mem_drop after))

theorem server_of_moment? (chosen : c.moment? choice = some (m, next)) :
  next.server = m.turn.server
  := by
  cases choice with
  | start e | resume index =>
    obtain ⟨_, -, made⟩ := Option.bind_eq_some_iff.mp chosen
    obtain ⟨rfl, rfl⟩ := Prod.mk.inj (Option.some.inj made)
    rfl

/-- A suspended handler that goes on does not open or close documents. -/
theorem documents_goOn (s : Server) (job : Job) :
  (s.goOn job).server.documents = s.documents
  := by
  cases Server.goesOn_goOn s job with
  | validates _ documents_eq | passes documents_eq => exact documents_eq
  | publishes => rfl

/--
A notification that does not open a document, nor gives it another text of an older version, leaves
it open in a version that is no older.
-/
theorem exists_version_le_of_notices {s : Server} {e : Event} {turn : Turn}
    (notices : s.Notices e turn) {uri : String}
    (newer : ∀ name version text further, e = .changed name version (text :: further) →
      (s.version? name).all (· ≤ version))
    (unopened : ∀ d, e = .opened d → d.uri ≠ uri) {version : Int}
    (open_in : turn.server.version? uri = some version) :
  ∃ before, s.version? uri = some before ∧ before ≤ version
  := by
  cases notices with
  | @opens d _ revises =>
    rw [revises.version?_eq, Function.update_of_ne (unopened d rfl).symm] at open_in
    exact ⟨version, open_in, Int.le_refl _⟩
  | @changes d text further _ is_open revises =>
    rw [revises.version?_eq] at open_in
    by_cases same : uri = d.uri
    · subst same
      rw [Function.update_self] at open_in
      obtain rfl := Option.some.inj open_in
      obtain ⟨before, open_before⟩ := Option.isSome_iff_exists.mp is_open
      have le := newer d.uri d.version text further rfl
      rw [open_before] at le
      exact ⟨before, open_before, of_decide_eq_true le⟩
    · rw [Function.update_of_ne same] at open_in
      exact ⟨version, open_in, Int.le_refl _⟩
  | closes closed =>
    rw [Server.version?_close] at open_in
    by_cases same : uri = closed
    · rw [same, Function.update_self] at open_in
      cases open_in
    · rw [Function.update_of_ne same] at open_in
      exact ⟨version, open_in, Int.le_refl _⟩
  | passes documents_eq =>
    rw [Server.version?_congr documents_eq] at open_in
    exact ⟨version, open_in, Int.le_refl _⟩

/--
As long as a document is not opened again and other texts of it have no older versions, its version
does not get older.
-/
theorem exists_version_le (chosen : c.moment? choice = some (m, next)) (increases : m.increases)
    {uri : String} (opens : m.opens uri = false) {version : Int}
    (open_in : next.server.version? uri = some version) :
  ∃ before, c.server.version? uri = some before ∧ before ≤ version
  := by
  cases choice with
  | start e =>
    obtain ⟨turn, started, made⟩ := Option.bind_eq_some_iff.mp chosen
    obtain ⟨rfl, rfl⟩ := Prod.mk.inj (Option.some.inj made)
    obtain ⟨first, noticed, rest⟩ := Option.bind_eq_some_iff.mp started
    have versions : turn.server.version? = first.server.version? := by
      split at rest
      · obtain rfl := Option.some.inj rest
        rfl
      · obtain rfl := Option.some.inj rest
        exact Server.version?_congr (documents_goOn first.server _)
    dsimp only at open_in
    rw [versions] at open_in
    refine exists_version_le_of_notices (Server.notices_of_notice? noticed) ?_ ?_ open_in
    · rintro name version text further rfl
      exact increases
    · rintro d rfl
      exact of_decide_eq_false opens
  | resume index =>
    obtain ⟨job, -, made⟩ := Option.bind_eq_some_iff.mp chosen
    obtain ⟨rfl, rfl⟩ := Prod.mk.inj (Option.some.inj made)
    rw [Server.version?_congr (documents_goOn c.server job)] at open_in
    exact ⟨version, open_in, Int.le_refl _⟩

/-! ### Runs -/

/-- The first moment of a run is made by a choice, and the others follow it. -/
theorem exists_of_run?_cons (ran : c.run? choices = some (m :: moments, last)) :
  ∃ choice next later, c.moment? choice = some (m, next) ∧ next.run? later = some (moments, last)
  := by
  cases choices with
  | nil => cases ran
  | cons choice choices =>
    obtain ⟨⟨first, next⟩, chosen, rest⟩ := Option.bind_eq_some_iff.mp ran
    obtain ⟨⟨others, final⟩, later, made⟩ := Option.bind_eq_some_iff.mp rest
    obtain ⟨list_eq, rfl⟩ := Prod.mk.inj (Option.some.inj made)
    obtain ⟨rfl, rfl⟩ := List.cons_eq_cons.mp list_eq
    exact ⟨choice, next, choices, chosen, later⟩

/-- All that is published in a run is current, if the validations that it comes to are. -/
theorem Sound.publishesCurrent (sound : c.Sound) (ran : c.run? choices = some (moments, last))
    (current : ∀ m ∈ moments, m.validatesCurrent) :
  ∀ m ∈ moments, m.turn.PublishesCurrent
  := by
  induction moments generalizing c choices with
  | nil => intro m among; cases among
  | cons first moments ih =>
    obtain ⟨choice, next, later, chosen, rest⟩ := exists_of_run?_cons ran
    obtain ⟨sound, publishes⟩ := sound.moment? chosen (current first List.mem_cons_self)
    intro m among
    rcases List.mem_cons.mp among with rfl | among
    · exact publishes
    · exact ih sound rest (fun m later => current m (List.mem_cons_of_mem _ later)) m among

/-- Behind a moment the run goes on with the server as the moment leaves it. -/
theorem exists_of_run?_append {earlier : List Moment}
    (ran : c.run? choices = some (earlier ++ m :: moments, last)) :
  ∃ (next : Interleaving) (later : List Choice),
    next.server = m.turn.server ∧ next.run? later = some (moments, last)
  := by
  induction earlier generalizing c choices with
  | nil =>
    obtain ⟨choice, next, later, chosen, rest⟩ := exists_of_run?_cons ran
    exact ⟨next, later, server_of_moment? chosen, rest⟩
  | cons first earlier ih =>
    obtain ⟨choice, next, later, chosen, rest⟩ := exists_of_run?_cons ran
    exact ih rest

/--
As long as a document is not opened again and other texts of it have no older versions, a run does
not make its version older.
-/
theorem exists_version_le_of_run? {between later : List Moment} {uri : String} {version : Int}
    (ran : c.run? choices = some (between ++ m :: later, last))
    (increases : ∀ n ∈ between ++ [m], n.increases)
    (opens : ∀ n ∈ between ++ [m], n.opens uri = false)
    (open_in : m.turn.server.version? uri = some version) :
  ∃ before, c.server.version? uri = some before ∧ before ≤ version
  := by
  induction between generalizing c choices with
  | nil =>
    obtain ⟨choice, next, _, chosen, -⟩ := exists_of_run?_cons ran
    rw [← server_of_moment? chosen] at open_in
    exact exists_version_le chosen (increases m List.mem_cons_self) (opens m List.mem_cons_self)
      open_in
  | cons first between ih =>
    obtain ⟨choice, next, _, chosen, rest⟩ := exists_of_run?_cons ran
    obtain ⟨middle, open_in, le⟩ := ih rest
      (fun n among => increases n (List.mem_cons_of_mem _ among))
      (fun n among => opens n (List.mem_cons_of_mem _ among))
    obtain ⟨before, open_before, le'⟩ := exists_version_le chosen
      (increases first List.mem_cons_self) (opens first List.mem_cons_self) open_in
    exact ⟨before, open_before, Int.le_trans le' le⟩

/--
Whatever the handlers of notifications do in turn, from a server without open documents on, nothing
but a retraction is published about a document that is closed, and what is published about an open
one is of no older version than what was published before, since it was last opened.  This is so
as long as other texts of a document have no older versions, and a handler that validates one
document after the other comes to none that was closed or changed since it listed them.
-/
theorem publishes_in_order {s : Server} (none_open : s.documents = {}) {choices : List Choice}
    {moments : List Moment} {final : Interleaving}
    (ran : ({ server := s } : Interleaving).run? choices = some (moments, final))
    (increases : ∀ m ∈ moments, m.increases) (current : ∀ m ∈ moments, m.validatesCurrent) :
  (∀ m ∈ moments, ∀ uri version problems,
      .diagnostics uri version problems ∈ m.turn.sent → problems ≠ [] →
        (m.turn.server.documents.get? uri).isSome)
    ∧ ∀ earlier first between last later,
      moments = earlier ++ first :: (between ++ last :: later) →
      ∀ uri, (∀ m ∈ between ++ [last], m.opens uri = false) →
        ∀ before version problems problems',
          .diagnostics uri (some before) problems ∈ first.turn.sent →
          .diagnostics uri (some version) problems' ∈ last.turn.sent → before ≤ version
  := by
  have sound : ({ server := s } : Interleaving).Sound := by
    refine ⟨?_, fun job among => by cases among⟩
    rw [none_open]
    exact List.nodup_nil
  have publishes := sound.publishesCurrent ran current
  refine ⟨fun m among uri version problems published some_problem => ?_, ?_⟩
  · obtain ⟨open_in, retracts⟩ := publishes m among uri version problems published
    cases version with
    | none => exact absurd (retracts rfl) some_problem
    | some version =>
      obtain ⟨d, is_open, -⟩ := Option.map_eq_some_iff.mp open_in
      rw [is_open]
      rfl
  · rintro earlier first between last later rfl uri opens before version problems problems'
      published published'
    have first_open := (publishes first (by simp) uri _ _ published).1
    have last_open := (publishes last (by simp) uri _ _ published').1
    obtain ⟨next, choices', server_eq, rest⟩ := exists_of_run?_append ran
    obtain ⟨middle, open_in, le⟩ := exists_version_le_of_run? rest
      (fun n among => increases n (by simp at among ⊢; tauto)) opens last_open
    rw [server_eq, first_open] at open_in
    exact Option.some.inj open_in ▸ le

/-! ### Two stylesheets -/

/-- A server that validates stylesheets, in the order in which they were opened. -/
def validatingServer : Server where
  phase := .initialized
  listings := fun _ => ⟨id, List.Perm.refl⟩
  workspace := ⟨({} : ModeSet).start {
      id := "less", provisions := [.service .validation .stylesheets], electsValidator := true },
    (Less.electValidator (Less.workers 1 {})).2⟩

/-- Two stylesheets are opened, and what is found in them is published. -/
def openings : List Choice :=
  [.start (.opened ⟨"a", "less", 1, []⟩), .resume 0, .resume 0,
    .start (.opened ⟨"z", "less", 1, ['\x7d']⟩), .resume 0, .resume 0]

/-- Something happens while both are validated again, the first of them to begin with. -/
def duringValidation (choices : List Choice) : List Choice :=
  openings ++ .start (.configured (.object [])) :: choices

/-- The first gets another text, which is validated before the second is. -/
def revisesFirst : List Choice :=
  duringValidation
    [.start (.changed "a" 2 [['\x7b']]), .resume 1, .resume 0, .resume 0, .resume 0]

/-- The second gets another text, which is validated before its old text is. -/
def revisesSecond : List Choice :=
  duringValidation [.start (.changed "z" 2 [[]]), .resume 1, .resume 0, .resume 0, .resume 0]

/-- The second is closed before it is validated. -/
def closesSecond : List Choice :=
  duringValidation [.start (.closed "z"), .resume 0, .resume 0, .resume 0]

/-- What is seen of a publication: how many problems there are and whether the document is open. -/
structure Publication where
  uri : String
  version : Option Int
  problems : Nat
  isOpen : Bool
  deriving DecidableEq

/-- The publications of a moment. -/
def publications (m : Moment) : List Publication :=
  m.turn.sent.filterMap fun
    | .diagnostics uri version problems =>
      some ⟨uri, version, problems.length, (m.turn.server.documents.get? uri).isSome⟩
    | _ => none

/-- The publications of a run, and whether versions increase and validations are current in it. -/
def publications? (choices : List Choice) : Option (List Publication × Bool × Bool) :=
  (({ server := validatingServer } : Interleaving).run? choices).map fun (moments, _) =>
    (moments.flatMap publications, moments.all (·.increases), moments.all (·.validatesCurrent))

/--
A stylesheet that gets another text while both are validated again is published in its new version
only, behind which the other one follows.
-/
theorem publishes_in_order_revisesFirst :
  publications? revisesFirst
    = some ([⟨"a", some 1, 0, true⟩, ⟨"z", some 1, 1, true⟩, ⟨"a", some 2, 1, true⟩,
        ⟨"z", some 1, 1, true⟩], true, true)
    ∧ ∃ moments last,
      ({ server := validatingServer } : Interleaving).run? revisesFirst = some (moments, last)
      ∧ (∀ m ∈ moments, m.increases) ∧ (∀ m ∈ moments, m.validatesCurrent)
      ∧ ∀ m ∈ moments, ∀ uri version problems,
        .diagnostics uri version problems ∈ m.turn.sent → problems ≠ [] →
          (m.turn.server.documents.get? uri).isSome
  := by
  have seen : publications? revisesFirst
      = some ([⟨"a", some 1, 0, true⟩, ⟨"z", some 1, 1, true⟩, ⟨"a", some 2, 1, true⟩,
        ⟨"z", some 1, 1, true⟩], true, true) := by
    decide +kernel
  obtain ⟨⟨moments, last⟩, ran, made⟩ := Option.map_eq_some_iff.mp seen
  obtain ⟨-, increases, current⟩ := by simpa using made
  exact ⟨seen, moments, last, ran, increases, current,
    (publishes_in_order rfl ran increases current).1⟩

/--
A stylesheet that is closed, or gets another text, while both are validated again is validated all
the same as it was before: its problems are published although it is closed, and behind those of
the newer version.
-/
theorem publishes_outdated :
  publications? closesSecond
    = some ([⟨"a", some 1, 0, true⟩, ⟨"z", some 1, 1, true⟩, ⟨"z", none, 0, false⟩,
        ⟨"a", some 1, 0, true⟩, ⟨"z", some 1, 1, false⟩], true, false)
    ∧ publications? revisesSecond
      = some ([⟨"a", some 1, 0, true⟩, ⟨"z", some 1, 1, true⟩, ⟨"z", some 2, 0, true⟩,
          ⟨"a", some 1, 0, true⟩, ⟨"z", some 1, 1, true⟩], true, false)
  := by
  constructor
  · decide +kernel
  · decide +kernel

end Interleaving

end EditorModes
