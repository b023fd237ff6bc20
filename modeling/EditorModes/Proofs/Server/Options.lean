import EditorModes.Proofs.Server.Diagnostics
import Mathlib.Data.List.TakeWhile

/-!
# Options that reach the workers

A client may tell options for stylesheets at any time, but they are passed on only once the mode of
stylesheets is active, that is from the first stylesheet on that is opened.  Those that were told
before are lost: the problems of a stylesheet are as severe as the last options say that came after
(`Server.heeded`), or else the settings.
-/

namespace EditorModes

/-- The last options for stylesheets among options of languages, of those that can be read. -/
def Less.latestOptions? (options : List (String × Json)) : Option Less.Options :=
  latest? (fun (language, options) =>
    if language = Less.language then Less.Options.ofJson? .json options else none) options

namespace Event

/-- Whether a document in a language is opened. -/
def opens (language : String) : Event → Bool
  | .opened d => d.language = language
  | _ => false

/-- The options for stylesheets that a client tells, if they can be read. -/
def lessOptions? : Event → Option Less.Options
  | .configured settings => settings.object?.bind Less.latestOptions?
  | _ => none

end Event

/-! ### Options of languages -/

section

variable {modes : ModeSet} {o : Less.Options}

/-- Sorting options by their languages leaves those of one language in their order. -/
theorem Less.latestOptions?_mergeSort (options : List (String × Json)) :
  latestOptions? (options.mergeSort fun a b => !(b.1 < a.1)) = latestOptions? options
  := by
  let own (option : String × Json) : Bool := option.1 = Less.language
  have of_own (l : List (String × Json)) :
      latestOptions? l
        = latest? (fun option => Less.Options.ofJson? .json option.2) (l.filter own) := by
    rw [latestOptions?, latest?, latest?, List.filterMap_filter]
    simp [own]
  have kept : (options.filter own).Sublist (options.mergeSort fun a b => !(b.1 < a.1)) := by
    apply List.sublist_mergeSort
    · intro a b c first second
      simp only [Bool.not_eq_true', decide_eq_false_iff_not, String.not_lt] at first second ⊢
      exact String.le_trans first second
    · intro a b
      simp only [Bool.or_eq_true, Bool.not_eq_true', decide_eq_false_iff_not, String.not_lt]
      exact String.le_total a.1 b.1
    · apply List.pairwise_of_forall_mem_list
      intro a first b second
      have a_own : a.1 = Less.language := by simpa [own] using (List.mem_filter.mp first).2
      have b_own : b.1 = Less.language := by simpa [own] using (List.mem_filter.mp second).2
      simp [a_own, b_own]
    · exact List.filter_sublist
  have same := (kept.filter own).eq_of_length
    (by simpa using ((List.mergeSort_perm options _).filter own).length_eq.symm)
  rw [of_own, of_own, ← same, List.filter_filter]
  simp

theorem Less.latestOptions?_concat (options : List (String × Json)) (language : String)
    (further : Json) :
  latestOptions? (options ++ [(language, further)])
    = (if language = Less.language then Options.ofJson? .json further else none).or
        (latestOptions? options)
  := latest?_concat ..

namespace ModeSet

/-- The mode of stylesheets takes options. -/
def TakesOptions (modes : ModeSet) : Prop :=
  ∃ mode, modes.find? Less.language = some mode ∧ mode.services .configuration = [.stylesheets]

/-- Options are passed on for stylesheets only. -/
theorem servicesFor_configuration (takes : modes.TakesOptions) (orderly : modes.Orderly)
    (language : String) :
  modes.servicesFor .configuration language
    = if language = Less.language ∧ modes.isActive Less.language then [.stylesheets] else []
  := by
  obtain ⟨sheets, found, services_eq⟩ := takes
  by_cases own : language = Less.language
  · subst own
    simp [servicesFor, found, services_eq]
  · rw [if_neg (by simp [own]), servicesFor]
    split
    · cases other : modes.find? language with
      | none => rfl
      | some mode =>
        have id_eq := id_of_find? other
        have usual := orderly.usual mode (List.mem_of_find?_eq_some other)
        rcases usual.checks with ⟨sheets, -⟩ | ⟨-, none⟩
        · exact absurd (id_eq.symm.trans sheets) own
        · exact none
    · rfl

/-- Options are passed on to the mode of stylesheets when it is active. -/
theorem optionsAfter_eq (takes : modes.TakesOptions) (orderly : modes.Orderly) (o : Less.Options)
    (options : List (String × Json)) :
  modes.optionsAfter o options
    = if modes.isActive Less.language then (Less.latestOptions? options).getD o else o
  := by
  induction options using List.reverseRecOn with
  | nil => simp [optionsAfter, Less.latestOptions?, latest?]
  | append_singleton options option ih =>
    obtain ⟨language, further⟩ := option
    have last : modes.optionsAfter o (options ++ [(language, further)])
        = (modes.servicesFor .configuration language).foldl (Service.optionsAfter further)
          (modes.optionsAfter o options) := by
      rw [← orderly.ordered_eq .configuration language none]
      simp [optionsAfter]
    rw [last, ih, servicesFor_configuration takes orderly, Less.latestOptions?_concat]
    by_cases active : modes.isActive Less.language
    · by_cases own : language = Less.language
      · simp only [active, own, and_self, if_true]
        change (Less.Options.ofJson? .json further).getD _ = _
        cases Less.Options.ofJson? .json further <;> rfl
      · simp [active, own]
    · simp [active]

/-- Where no mode of stylesheets takes options, stylesheets have no problems. -/
theorem diagnosis_of_not_takesOptions (never : ¬ modes.TakesOptions)
    (orderly : modes.Orderly) {d : Document} (sheet : d.language = Less.language) :
  modes.diagnosis o d = []
  := by
  have silent : modes.servicesFor .validation Less.language = [] := by
    rw [servicesFor]
    split
    · cases found : modes.find? Less.language with
      | none => rfl
      | some mode =>
        have usual := orderly.usual mode (List.mem_of_find?_eq_some found)
        rcases usual.checks with ⟨-, -, takes⟩ | ⟨none, -⟩
        · exact absurd ⟨mode, found, takes⟩ never
        · exact none
    · rfl
  rw [diagnosis, orderly.ordered_eq, sheet, silent]
  rfl

/-- Where the mode of stylesheets is active, their problems are those that its analysis finds. -/
theorem diagnosis_of_takesOptions (takes : modes.TakesOptions) (orderly : modes.Orderly)
    (active : modes.isActive Less.language) {d : Document} (sheet : d.language = Less.language)
    {problems : List Diagnostic} (nonempty : problems ≠ [])
    (found : Less.findings? o d = .ok (some problems)) :
  modes.diagnosis o d = problems
  := by
  obtain ⟨mode, known, takes⟩ := takes
  have services_eq : modes.servicesFor .validation Less.language = [.stylesheets] := by
    rw [servicesFor, if_pos active, known, Option.elim_some]
    have usual := orderly.usual mode (List.mem_of_find?_eq_some known)
    rcases usual.checks with ⟨-, checks, -⟩ | ⟨-, none⟩
    · exact checks
    · simp [takes] at none
  rw [diagnosis, orderly.ordered_eq, sheet, services_eq]
  obtain ⟨first, further, rfl⟩ := List.exists_cons_of_ne_nil nonempty
  simp only [List.map_cons, List.map_nil, Service.findings?, found]
  exact List.append_nil _

end ModeSet

end

namespace Server

/-- The options that count after notifications: the last since a stylesheet was opened. -/
def heeded (settings : Less.Options) (events : List Event) : Less.Options :=
  (latest? (·.lessOptions?) (events.dropWhile fun e => !e.opens Less.language)).getD settings

theorem dropWhile_eq_nil_iff_unopened {events : List Event} :
  (events.dropWhile fun e => !e.opens Less.language) = []
    ↔ events.any (·.opens Less.language) = false
  := by
  rw [List.dropWhile_eq_nil_iff]
  simp

theorem heeded_of_unopened {events : List Event}
    (unopened : events.any (·.opens Less.language) = false) (settings : Less.Options) :
  heeded settings events = settings
  := by
  rw [heeded, dropWhile_eq_nil_iff_unopened.mpr unopened]
  rfl

/-- One more notification counts when a stylesheet was opened before. -/
theorem heeded_concat (settings : Less.Options) (events : List Event) (e : Event) :
  heeded settings (events ++ [e])
    = if events.any (·.opens Less.language) then e.lessOptions?.getD (heeded settings events)
      else heeded settings events
  := by
  by_cases opened : events.any (·.opens Less.language)
  · have nonempty : (events.dropWhile fun e => !e.opens Less.language) ≠ [] := by
      rw [Ne, dropWhile_eq_nil_iff_unopened, opened]
      decide
    rw [if_pos opened, heeded, List.dropWhile_append, if_neg (by simpa using nonempty),
      latest?_concat, heeded]
    cases e.lessOptions? <;> rfl
  · have unopened := Bool.eq_false_iff.mpr opened
    rw [if_neg opened, heeded_of_unopened unopened]
    cases opens : e.opens Less.language with
    | false =>
      apply heeded_of_unopened
      simp [opens, unopened]
    | true =>
      have silent : e.lessOptions? = none := by
        cases e with
        | opened => rfl
        | _ => cases opens
      have empty := dropWhile_eq_nil_iff_unopened.mpr unopened
      simp [heeded, List.dropWhile_append, empty, opens, latest?, silent]

/-- The options that count are the last of all, unless only ones that came too early were told. -/
theorem heeded_eq_latest {events : List Event} (settings : Less.Options)
    (timely : latest? (·.lessOptions?) (events.takeWhile fun e => !e.opens Less.language) = none
      ∨ (latest? (·.lessOptions?)
          (events.dropWhile fun e => !e.opens Less.language)).isSome) :
  heeded settings events = (latest? (·.lessOptions?) events).getD settings
  := by
  rw [heeded]
  conv_rhs =>
    rw [← List.takeWhile_append_dropWhile (p := fun e => !e.opens Less.language) (l := events),
      latest?_append]
  rcases timely with none_before | some_after
  · rw [none_before, Option.or_none]
  · rw [Option.or_of_isSome some_after]

variable {s last : Server} {o new : Less.Options} {e : Event} {sent : List Outgoing}

/-- What a notification makes of the options of the workers. -/
theorem Reacts.options_eq (reacts : s.Reacts o e sent last new) (steady : s.Steady o)
    (takes : s.workspace.modes.TakesOptions) :
  new = if s.workspace.modes.isActive Less.language then e.lessOptions?.getD o else o
  := by
  cases reacts with
  | @passes e _ idle =>
    cases e with
    | configured settings =>
      have none_told : settings.object? = none := idle
      simp [Event.lessOptions?, none_told]
    | _ => simp [Event.lessOptions?]
  | opens | changes | closes => simp [Event.lessOptions?]
  | configures told =>
    rw [ModeSet.optionsAfter_eq takes steady.orderly, Less.latestOptions?_mergeSort,
      Event.lessOptions?, told]
    rfl

/-- The mode of stylesheets becomes active when a stylesheet is opened. -/
theorem Reacts.isActive_less (reacts : s.Reacts o e sent last new) (steady : s.Steady o)
    (takes : last.workspace.modes.TakesOptions) :
  last.workspace.modes.isActive Less.language
    = (s.workspace.modes.isActive Less.language || e.opens Less.language)
  := by
  cases opens : e.opens Less.language with
  | true =>
    rw [Bool.or_true]
    cases e with
    | opened d =>
      have sheet : d.language = Less.language := by simpa [Event.opens] using opens
      obtain ⟨mode, found, -⟩ := takes
      cases reacts with
      | passes idle => exact idle.elim
      | opens activates _ works =>
        rw [works.same.2] at found ⊢
        rw [← sheet] at found ⊢
        rcases settled_of_activate? activates with active | unknown
        · exact active
        · cases unknown.symm.trans found
    | _ => cases opens
  | false =>
    rw [Bool.or_false]
    have within : s.workspace.modes.DependsWithin (· ≠ Less.language) := by
      intro mode known _ dependency needed
      rw [((steady.orderly.usual mode known).depends dependency needed).2]
      decide
    have others : ∀ d, e = .opened d → d.language ≠ Less.language := by
      rintro d rfl
      simpa [Event.opens] using opens
    apply ModeSet.isActive_of_starts_of_not (reacts.starts within others)
    simp

/-- The known modes stay the same while notifications are handled. -/
theorem Steady.find?_modes (steady : s.Steady o) {messages : List Message}
    (notices : ∀ m ∈ messages, m.IsNotice) (ran : s.handleEach? messages = some (sent, last))
    (id : String) :
  last.workspace.modes.find? id = s.workspace.modes.find? id
  := by
  have kept := steady.run_induction (motive := fun _ _ t _ =>
    t.workspace.modes.find? id = s.workspace.modes.find? id) rfl ?_ notices ran
  · obtain ⟨_, -, kept⟩ := kept
    exact kept
  · intro _ _ t _ _ _ next _ _ reacts kept
    rw [ModeSet.find?, ModeSet.known_of_starts reacts.starts_any]
    exact kept

/-- Once a stylesheet was opened, the workers have the options that count. -/
theorem Started.heeded {settings : Settings} {grammars : List Grammar}
    (started : s.Started settings grammars) {messages : List Message}
    (notices : ∀ m ∈ messages, m.IsNotice) (ran : s.handleEach? messages = some (sent, last)) :
  ∃ o, last.Steady o ∧ (last.workspace.modes.TakesOptions →
    o = Server.heeded settings.less (messages.filterMap (·.event?)))
  := by
  have kept := started.steady.run_induction (motive := fun events _ t o =>
    t.workspace.modes.TakesOptions →
      t.workspace.modes.isActive Less.language = events.any (·.opens Less.language)
        ∧ o = Server.heeded settings.less events) ?_ ?_ notices ran
  · obtain ⟨o, steady, options_eq⟩ := kept
    exact ⟨o, steady, fun takes => (options_eq takes).2⟩
  · intro _
    refine ⟨?_, rfl⟩
    simp [ModeSet.isActive, started.inactive.2]
  · intro events before t o e later next new steady reacts kept takes
    have took : t.workspace.modes.TakesOptions := by
      obtain ⟨mode, found, services_eq⟩ := takes
      refine ⟨mode, ?_, services_eq⟩
      rw [ModeSet.find?, ModeSet.known_of_starts reacts.starts_any] at found
      exact found
    obtain ⟨active_eq, rfl⟩ := kept took
    constructor
    · rw [reacts.isActive_less steady takes, active_eq]
      simp
    · rw [reacts.options_eq steady took, active_eq, heeded_concat]

/-- Where stylesheets have a mode, it takes options. -/
theorem Started.takesOptions {settings : Settings} (started : s.Started settings [])
    (sheets : (Mode.less? s.bundle.less).isSome) :
  s.workspace.modes.TakesOptions
  := by
  obtain ⟨mode, made⟩ := Option.isSome_iff_exists.mp sheets
  refine ⟨mode, ?_, ?_⟩
  · have id_eq : mode.id = Less.language := by
      obtain ⟨_, -, rfl⟩ := Option.map_eq_some_iff.mp made
      rfl
    rw [started.workspace_eq, ModeSet.find?_foldl_add, Mode.builtin, made]
    simp [id_eq]
  · obtain ⟨_, -, rfl⟩ := Option.map_eq_some_iff.mp made
    rfl

/-- The brace of a stylesheet is an error when the client told to ignore it before. -/
theorem Started.told_early {settings : Settings} (started : s.Started settings [])
    (usual : settings.less = {}) (sheets : (Mode.less? s.bundle.less).isSome)
    (ran : s.handleEach? tellingEarly = some (sent, last)) :
  latest? (·.told? "file:///a.less") sent
    = some (some 1, [loneBrace "missing '\x7d'" 2 .error])
  := by
  have notices : ∀ m ∈ tellingEarly, m.IsNotice := fun m among =>
    isNotice_of_mem_editing m (List.mem_append_left _ among)
  have is_open : last.documents.get? "file:///a.less"
      = some ⟨"file:///a.less", "less", 1, "a \x7b".toList⟩ := by
    rw [started.steady.get?_documents notices ran]
    rfl
  obtain ⟨o, steady, counts⟩ := started.heeded notices ran
  obtain ⟨mode, known, configures⟩ := started.takesOptions sheets
  rw [← started.steady.find?_modes notices ran] at known
  have takes : last.workspace.modes.TakesOptions := ⟨mode, known, configures⟩
  obtain rfl : o = {} := by
    rw [counts takes, usual]
    rfl
  obtain ⟨opened, read, document_eq⟩ := Option.map_eq_some_iff.mp is_open
  have settled := steady.settled _ _ read
  rw [document_eq] at settled
  have active : last.workspace.modes.isActive Less.language :=
    settled.resolve_right fun unknown => nomatch known.symm.trans unknown
  have found : Less.findings? {} ⟨"file:///a.less", "less", 1, "a \x7b".toList⟩
      = .ok (some [loneBrace "missing '\x7d'" 2 .error]) :=
    toOption_eq_some_iff.mp (by decide +kernel)
  rw [started.told_of_open notices ran is_open, steady.answer_diagnostics,
    ModeSet.diagnosis_of_takesOptions takes steady.orderly active rfl (by simp) found]

/--
After a server was initialized and has handled any notifications, each to its end, what it
published last about an open stylesheet are the problems that workers with the options that count
find: the last ones that the client told after a stylesheet was opened for the first time, or else
those of the settings.  All of them are as severe as these options say.  The options that count are
the last of all that the client told, unless it only told some before the first stylesheet.
-/
theorem published_severity {files : FileTree} {bundle : Bundle} {listings : Nat → Listing}
    {init : Message} {answer : Json} {greeting : List Outgoing}
    (named : init.method = "initialize")
    (initialized : ({ files, bundle, listings } : Server).handle? [init]
      = some ([some (.ok answer)], greeting, s))
    {messages : List Message} (notices : ∀ m ∈ messages, m.IsNotice)
    (ran : s.handleEach? messages = some (sent, last)) {uri : String} {d : Document}
    (is_open : last.documents.get? uri = some d) (sheet : d.language = Less.language) :
  let events := messages.filterMap (·.event?)
  let settings := (s.settings.getD {}).less
  let options := heeded settings events
  (∃ problems, latest? (·.told? uri) sent = some (some d.version, problems)
    ∧ problems = ((Workspace.diagnostics d false).run
        { last.workspace with workers := Less.workers 1 options }).1.answer
    ∧ ∀ p ∈ problems, options.unbalancedBraces ≠ .ignore
        ∧ p.severity = some options.unbalancedBraces.number)
  ∧ ((latest? (·.lessOptions?) (events.takeWhile fun e => !e.opens Less.language) = none
        ∨ (latest? (·.lessOptions?)
            (events.dropWhile fun e => !e.opens Less.language)).isSome) →
      options = (latest? (·.lessOptions?) events).getD settings)
  := by
  intro events settings options
  obtain ⟨found, grammars, started⟩ := exists_started named initialized
  have settings_eq : settings = found.less := by
    simp only [settings, started.settings_eq, Option.getD_some]
  obtain ⟨o, steady, options_eq⟩ := started.heeded notices ran
  rw [← settings_eq] at options_eq
  have published := started.told_of_open notices ran is_open
  have same : last.workspace.modes.diagnosis o d = last.workspace.modes.diagnosis options d := by
    by_cases takes : last.workspace.modes.TakesOptions
    · rw [options_eq takes]
    · rw [ModeSet.diagnosis_of_not_takesOptions takes steady.orderly sheet,
        ModeSet.diagnosis_of_not_takesOptions takes steady.orderly sheet]
  rw [steady.answer_diagnostics, same] at published
  let fresh : Workspace := { last.workspace with workers := Less.workers 1 options }
  obtain ⟨_, _, -, answer_eq, validated⟩ :=
    Workspace.exists_diagnostics (w := fresh) (Less.holds_workers 1 options) d
  refine ⟨⟨_, published, ?_, ?_⟩, heeded_eq_latest settings⟩
  · rw [validated, answer_eq]
  · intro p among
    exact ModeSet.severity_of_mem_diagnosis among

/-- Braces without a partner are warnings when the client asks for that in the end. -/
theorem published_severity_told_twice :
  ({ bundle := words, listings := fun _ => ⟨List.reverse, List.reverse_perm⟩ } : Server).handle?
      [greeting]
    = some ([some (.ok capabilities)], [], greeted)
  ∧ latest? (·.lessOptions?) ((tellingEarly ++ editing).filterMap (·.event?))
    = some { unbalancedBraces := .warning }
  ∧ ∃ sent last, greeted.handleEach? (tellingEarly ++ editing) = some (sent, last)
    ∧ ∃ problems, latest? (·.told? "file:///a.less") sent = some (some 2, problems)
      ∧ problems = [loneBrace "unexpected '\x7d'" 5 .warning]
      ∧ ∀ p ∈ problems, p.severity = some Less.Severity.warning.number
  := by
  have told : latest? (·.lessOptions?) ((tellingEarly ++ editing).filterMap (·.event?))
      = some { unbalancedBraces := .warning } := rfl
  obtain ⟨early, mid, later, last, first, next, -, -, found, found_again, -⟩ := exists_edited
  have ran := handleEach?_append_eq_some_iff.mpr ⟨early, mid, later, first, next, rfl⟩
  obtain ⟨d, is_open, found_now⟩ := Option.map_eq_some_iff.mp (found_again.trans found)
  obtain ⟨rfl, found_now⟩ := Prod.mk.inj found_now
  obtain ⟨⟨problems, published, problems_eq, severe⟩, latest_counts⟩ :=
    published_severity rfl (handle?_greeting _ _ _) isNotice_of_mem_editing ran is_open rfl
  have counts := latest_counts (.inr rfl)
  rw [told, Option.getD_some] at counts
  rw [counts] at problems_eq severe
  refine ⟨handle?_greeting _ _ _, told, early ++ later, last, ran, problems, published, ?_, ?_⟩
  · exact problems_eq.trans found_now
  · intro p among
    exact (severe p among).2

/--
The last options of all are to ignore braces without a partner, but the brace is an error: on every
server with a mode of stylesheets that handles the messages to their ends, and on one that does.
-/
theorem published_severity_told_early :
  latest? (·.lessOptions?) (tellingEarly.filterMap (·.event?))
    = some { unbalancedBraces := .ignore }
  ∧ (∀ (files : FileTree) (bundle : Bundle) (listings : Nat → Listing),
      (Mode.less? bundle.less).isSome →
      ∃ s, ({ files, bundle, listings } : Server).handle? [greeting]
          = some ([some (.ok capabilities)], [], s)
        ∧ ∀ sent last, s.handleEach? tellingEarly = some (sent, last) →
          latest? (·.told? "file:///a.less") sent
            = some (some 1, [loneBrace "missing '\x7d'" 2 .error]))
  ∧ ({ bundle := words, listings := fun _ => ⟨List.reverse, List.reverse_perm⟩ } : Server).handle?
        [greeting]
      = some ([some (.ok capabilities)], [], greeted)
  ∧ ∃ sent last, greeted.handleEach? tellingEarly = some (sent, last)
    ∧ (last.documents.get? "file:///a.less").isSome
    ∧ latest? (·.told? "file:///a.less") sent
      = some (some 1, [loneBrace "missing '\x7d'" 2 .error])
  := by
  refine ⟨rfl, ?_, handle?_greeting _ _ _, ?_⟩
  · intro files bundle listings sheets
    refine ⟨_, handle?_greeting files bundle listings, ?_⟩
    intro sent last ran
    have started : { ({ files, bundle, listings } : Server).inDirectory none with
        phase := .initialized }.Started {} [] := ⟨rfl, rfl, rfl, rfl, rfl⟩
    exact started.told_early rfl sheets ran
  · obtain ⟨early, mid, -, -, ran, -, is_open, published, -⟩ := exists_edited
    exact ⟨early, mid, ran, is_open, published⟩

end Server

end EditorModes
