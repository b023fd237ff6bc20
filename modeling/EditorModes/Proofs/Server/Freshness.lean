import EditorModes.Proofs.Lexer.Agreement
import EditorModes.Proofs.Server.Run

/-!
# Cached lines that are up to date

The lines of a document are tokenized when it is opened and when it is changed, and nothing is
tokenized when a further mode becomes active.  They are those of a fresh cache
(`Server.IsFresh`) as long as the tokenizers that became known since the document was opened are
not for languages that it can come to embed (`TokenizerRegistry.Foresees`).  A document that
embeds a language whose mode becomes active later keeps lines that are out of date.
-/

namespace EditorModes

namespace TokenizerRegistry

/-- What has a tokenizer keeps it. -/
def Extends (earlier later : TokenizerRegistry) : Prop :=
  ∀ language t, earlier.best? language = some t → later.best? language = some t

/-- All languages that can come to be embedded and have a tokenizer later had one before. -/
def Foresees (earlier later : TokenizerRegistry) (root : String) : Prop :=
  ∀ language, later.Reaches root language → (later.best? language).isSome →
    (earlier.best? language).isSome

variable {earlier registry later : TokenizerRegistry} {root : String}

/-- A registry in between agrees with the later one. -/
theorem Foresees.agreesFrom (foresees : earlier.Foresees later root)
    (first : earlier.Extends registry) (second : registry.Extends later) :
  later.AgreesFrom registry root
  := by
  intro language reached
  cases now : later.best? language with
  | none =>
    cases before : registry.best? language with
    | none => rfl
    | some t => cases now.symm.trans (second language t before)
  | some t =>
    obtain ⟨known, before⟩ :=
      Option.isSome_iff_exists.mp (foresees language reached (by simp [now]))
    have same := second language known (first language known before)
    rw [first language known before, ← now, same]

theorem Foresees.of_extends (foresees : earlier.Foresees later root)
    (first : earlier.Extends registry) (second : registry.Extends later) :
  earlier.Foresees registry root
  := by
  intro language reached has
  have agree := foresees.agreesFrom first second
  apply foresees language (agree.reaches reached)
  rw [agree language (agree.reaches reached)]
  exact has

end TokenizerRegistry

namespace Server

/-- The tokenizers of the active modes. -/
def tokenizers (s : Server) : TokenizerRegistry :=
  s.workspace.modes.features.tokenizers

/-- What the lines of documents in a language are tokenized with. -/
def setup? (s : Server) (language : String) : Option LineSetup :=
  (s.workspace.tokenizer? language).map (⟨·, (s.settings.getD {}).maxLineLength⟩)

/-- The cached lines of a document are those that its text has now. -/
def IsFresh (s : Server) (opened : OpenDocument) : Prop :=
  DocumentStore.freshLines? (s.setup? opened.document.language) opened.document.text
    = some opened.lines

variable {s t last : Server} {o new : Less.Options} {e : Event} {sent : List Outgoing}
  {uri language : String} {opened : OpenDocument}

theorem freshLines?_setup? (s : Server) (language : String) (text : Text) :
  DocumentStore.freshLines? (s.setup? language) text
    = match s.tokenizers.best? language with
      | none => some none
      | some t =>
        (LineCache.ofText? (t.onLines s.tokenizers) (s.settings.getD {}).maxLineLength
          text).map some
  := by
  rw [setup?, Workspace.tokenizer?, tokenizers]
  cases s.workspace.modes.features.tokenizers.best? language <;> rfl

/-- The lines of a text are the same when the tokenizers agree. -/
theorem freshLines?_of_agreesFrom (agree : s.tokenizers.AgreesFrom last.tokenizers language)
    (rules : s.tokenizers.followsRules) (last_rules : last.tokenizers.followsRules)
    (settings_eq : last.settings = s.settings) (text : Text) :
  DocumentStore.freshLines? (last.setup? language) text
    = DocumentStore.freshLines? (s.setup? language) text
  := by
  rw [freshLines?_setup?, freshLines?_setup?, ← agree language .refl, settings_eq]
  cases best : s.tokenizers.best? language with
  | none => rfl
  | some t =>
    dsimp only
    rw [agree.ofText?_eq rules last_rules best]

theorem Steady.extends (steady : s.Steady o)
    (started : Relation.ReflTransGen (ModeSet.Starts fun _ => True) s.workspace.modes
      last.workspace.modes) :
  s.tokenizers.Extends last.tokenizers
  := fun _ _ best => (ModeSet.best?_of_starts steady.orderly.unscored started best).2

/-- What the lines of a language are tokenized with is the tokenizer of the language. -/
theorem tokenizer_setup? (s : Server) (language : String) :
  (s.setup? language).map (·.tokenizer) = s.workspace.tokenizer? language
  := by
  rw [setup?, Option.map_map]
  exact Option.map_id'

theorem setup?_congr (modes_eq : last.workspace.modes = s.workspace.modes)
    (settings_eq : last.settings = s.settings) :
  last.setup? language = s.setup? language
  := by
  rw [setup?, setup?, Workspace.tokenizer?, Workspace.tokenizer?, modes_eq, settings_eq]

/-- Fresh lines are those that the tokenizer gives, if there is one. -/
theorem freshLines?_map (tokenizer : Option LineTokenizer) (maxLength : Option Nat)
    (text : Text) :
  DocumentStore.freshLines? (tokenizer.map (⟨·, maxLength⟩)) text
    = tokenizer.mapM (LineCache.ofText? · maxLength text)
  := by
  cases tokenizer with
  | none => rfl
  | some t =>
    rw [Option.map_some, DocumentStore.freshLines?, Option.mapM_some]
    rfl

/-- A document that is opened gets fresh lines. -/
theorem Reacts.exists_isFresh {d : Document} (reacts : s.Reacts o (.opened d) sent last new) :
  ∃ lines, last.documents.read? d.uri = some ⟨d, lines⟩ ∧ last.IsFresh ⟨d, lines⟩
  := by
  have settings_eq := reacts.keeps.2.2
  cases reacts with
  | passes idle => exact idle.elim
  | @opens _ _ w lines _ activates tokenized works =>
    obtain ⟨documents_eq, modes_eq⟩ := works.same
    refine ⟨lines, ?_, ?_⟩
    · rw [documents_eq]
      exact DocumentStore.read?_insert s.documents d lines
    · rw [IsFresh, setup?_congr (s := { s with workspace := w }) modes_eq settings_eq, setup?,
        freshLines?_map, tokenized]

/-- Fresh lines stay fresh when a notification changes no tokenizer that the language reaches. -/
theorem Reacts.isFresh (reacts : s.Reacts o e sent last new) (steady : s.Steady o)
    (not_opened : ∀ d, e = .opened d → d.uri ≠ uri)
    (is_open : last.documents.read? uri = some opened)
    (agree : s.tokenizers.AgreesFrom last.tokenizers opened.document.language)
    (fresh : ∀ before, s.documents.read? uri = some before →
      before.document.language = opened.document.language → s.IsFresh before) :
  last.IsFresh opened
  := by
  have settings_eq := reacts.keeps.2.2
  rcases reacts.cases_of_read? is_open with
    was_open | ⟨opens, named⟩
      | ⟨modes_eq, before, version, text, touched, was_open, document_eq, tokenized⟩
  · rw [IsFresh, freshLines?_of_agreesFrom agree steady.orderly.rules
      (reacts.steady steady).orderly.rules settings_eq]
    apply fresh opened was_open rfl
  · cases not_opened _ opens named
  · have language_eq : before.document.language = opened.document.language := by
      rw [document_eq]
      rfl
    have again := DocumentStore.retokenize?_of_fresh (fresh before was_open language_eq) text
    rw [tokenizer_setup?, tokenized] at again
    rw [IsFresh, setup?_congr modes_eq settings_eq, ← language_eq, document_eq]
    exact again.symm

/--
Fresh lines of a document stay fresh while notifications do not open it again, provided that the
server knew all tokenizers of languages that it can come to embed.
-/
theorem Steady.isFresh {messages : List Message} (steady : t.Steady o)
    (fresh : ∀ before, t.documents.read? uri = some before → t.IsFresh before)
    (notices : ∀ m ∈ messages, m.IsNotice) (ran : t.handleEach? messages = some (sent, last))
    (not_opened : ∀ m ∈ messages, ∀ d, m.event? = some (.opened d) → d.uri ≠ uri)
    (is_open : last.documents.read? uri = some opened)
    (foresees : t.tokenizers.Foresees last.tokenizers opened.document.language) :
  last.IsFresh opened
  := by
  have kept := steady.run_induction (motive := fun events _ s _ =>
    Relation.ReflTransGen (ModeSet.Starts fun _ => True) t.workspace.modes s.workspace.modes
      ∧ ((∀ d, .opened d ∈ events → d.uri ≠ uri) → ∀ opened,
          s.documents.read? uri = some opened →
          t.tokenizers.Foresees s.tokenizers opened.document.language → s.IsFresh opened))
    ?_ ?_ notices ran
  · obtain ⟨_, -, -, kept⟩ := kept
    apply kept ?_ opened is_open foresees
    intro d among
    obtain ⟨m, received, opens⟩ := List.mem_filterMap.mp among
    exact not_opened m received d opens
  · exact ⟨.refl, fun _ opened is_open _ => fresh opened is_open⟩
  · intro events _ s o e _ last _ s_steady reacts kept
    obtain ⟨started, kept⟩ := kept
    have further := reacts.starts_any
    refine ⟨started.trans further, ?_⟩
    intro unopened opened is_open foresees
    have first := steady.extends started
    have second := s_steady.extends further
    apply reacts.isFresh s_steady ?_ is_open (foresees.agreesFrom first second).symm ?_
    · intro d opens
      apply unopened d
      simp [opens]
    · intro before was_open language_eq
      apply kept ?_ before was_open
      · rw [language_eq]
        exact foresees.of_extends first second
      · intro d among
        apply unopened d
        simp [among]

/-! ### Runs -/

/-- A document that the last of some notifications opens has fresh lines. -/
theorem Steady.exists_isFresh {messages : List Message} {m : Message} {d : Document}
    (steady : s.Steady o) (notices : ∀ m ∈ messages, m.IsNotice)
    (ran : s.handleEach? (messages ++ [m]) = some (sent, last))
    (opens : m.event? = some (.opened d)) :
  (∃ o, last.Steady o)
    ∧ ∃ lines, last.documents.read? d.uri = some ⟨d, lines⟩ ∧ last.IsFresh ⟨d, lines⟩
  := by
  obtain ⟨_, t, _, _, first, handled, -⟩ := handleEach?_concat_eq_some_iff.mp ran
  obtain ⟨_, steady, -⟩ := steady.run_induction (motive := fun _ _ _ _ => True) trivial
    (fun _ _ _ => trivial) notices first
  obtain ⟨o, reacts, steady⟩ := steady.reacts_of_handle? opens handled
  exact ⟨⟨o, steady⟩, reacts.exists_isFresh⟩

/-- A document that is open after notifications was opened by one of them for the last time. -/
theorem exists_last_opening {messages : List Message} {d : Document}
    (is_open : (messages.filterMap (·.event?)).foldl (Event.revise uri) none = some d) :
  ∃ before m after, messages = before ++ m :: after
    ∧ (∃ first, m.event? = some (.opened first) ∧ first.uri = uri)
    ∧ ∀ m ∈ after, ∀ again, m.event? = some (.opened again) → again.uri ≠ uri
  := by
  induction messages using List.reverseRecOn generalizing d with
  | nil => cases is_open
  | append_singleton messages m ih =>
    by_cases opens : ∃ first, m.event? = some (.opened first) ∧ first.uri = uri
    · exact ⟨messages, m, [], rfl, opens, by simp⟩
    · have was_open : ∃ before,
          (messages.filterMap (·.event?)).foldl (Event.revise uri) none = some before := by
        rw [List.filterMap_append, List.foldl_append] at is_open
        cases read : m.event? with
        | none =>
          refine ⟨d, ?_⟩
          simpa [read] using is_open
        | some e =>
          simp only [List.filterMap_cons, read, List.filterMap_nil, List.foldl_cons,
            List.foldl_nil] at is_open
          rw [← Option.ne_none_iff_exists']
          intro closed
          rw [closed] at is_open
          obtain ⟨rfl, same⟩ := Event.eq_opened_of_revise_none is_open
          exact opens ⟨d, read, same⟩
      obtain ⟨_, was_open⟩ := was_open
      obtain ⟨before, opening, after, rfl, opened, once⟩ := ih was_open
      refine ⟨before, opening, after ++ [m], by simp, opened, ?_⟩
      intro later among again read
      rcases List.mem_append.mp among with inside | last
      · exact once later inside again read
      · obtain rfl := List.mem_singleton.mp last
        exact fun same => opens ⟨again, read, same⟩

theorem answer_semanticTokens (is_open : s.documents.read? uri = some opened) :
  (s.answer (.semanticTokens uri)).1
    = .ofOption (fun tokens => .object [("data", .ofList .ofNat (tokens.flatMap (·.numbers)))])
        (opened.lines.bind (SemanticToken.ofLines? opened.document.text))
  := by
  rw [answer, Query.uri, is_open]
  rfl

/-- Opening a document starts a mode that depends on no other, and tokenizes the lines after it. -/
theorem Steady.exists_opened {m : Message} {d : Document} {mode : Mode} {lines : Option LineCache}
    (steady : s.Steady o) (opens : m.event? = some (.opened d))
    (known : s.workspace.modes.find? d.language = some mode) (independent : mode.dependencies = [])
    (inactive : s.workspace.modes.isActive d.language = false)
    {registry : TokenizerRegistry}
    (registered : (s.workspace.modes.start mode).features.tokenizers = registry)
    (tokenized : (registry.best? d.language).mapM (fun t => LineCache.ofText? (t.onLines registry)
      (s.settings.getD {}).maxLineLength d.text) = some lines) :
  ∃ sent last, s.handleEach? [m] = some (sent, last) ∧ last.Steady o
    ∧ last.workspace.modes = s.workspace.modes.start mode
    ∧ last.documents = s.documents.insert d lines ∧ last.settings = s.settings
  := by
  have started := ModeSet.activate?_of_independent known independent inactive
  obtain ⟨workers, activates⟩ : ∃ workers, s.workspace.activate? d.language true
      = some (true, ⟨s.workspace.modes.start mode, workers⟩) := by
    rw [Workspace.activate?, started]
    exact ⟨_, rfl⟩
  have found : ((⟨s.workspace.modes.start mode, workers⟩ : Workspace).tokenizer? d.language).mapM
      (fun t => LineCache.ofText? t (s.settings.getD {}).maxLineLength d.text) = some lines := by
    rw [← tokenized, Workspace.tokenizer?, registered]
    cases registry.best? d.language <;> rfl
  obtain ⟨turn, first⟩ : ∃ turn, s.notice? (.opened d) = some turn := by
    simp only [notice?, open?, activates, found, Option.bind_eq_bind, Option.bind_some,
      Option.pure_def]
    exact ⟨_, rfl⟩
  obtain ⟨responses, sent, last, handled⟩ := steady.exists_handle? opens first
  obtain ⟨new, reacts, steady⟩ := steady.reacts_of_handle? opens handled
  refine ⟨sent, last, by simp [handleEach?, handled], ?_⟩
  have settings_eq := reacts.keeps.2.2
  cases reacts with
  | passes idle => exact idle.elim
  | opens same again works =>
    rw [activates] at same
    obtain ⟨-, rfl⟩ := Prod.mk.inj (Option.some.inj same)
    rw [found] at again
    obtain rfl := Option.some.inj again
    exact ⟨steady, works.same.2, works.same.1, settings_eq⟩

/-! ### Two languages, one within the other -/

/-- A grammar that hands what follows an angle bracket to another one. -/
def hostGrammar : Grammar where
  name := "host"
  states := [
    ("root", [.own { pattern := "<", token := some "operator", nextEmbedded := some "guest" }])]

/-- A grammar of words. -/
def guestGrammar : Grammar where
  name := "guest"
  states := [("root", [.own { pattern := "[a-z]+", token := some "keyword" }])]

/-- The mode of the language that embeds the other one. -/
def hostMode : Mode :=
  (Mode.ofGrammar? hostGrammar).get (by decide +kernel)

/-- The mode of the language that is embedded. -/
def guestMode : Mode :=
  (Mode.ofGrammar? guestGrammar).get (by decide +kernel)

/-- A directory with settings that name the two grammars. -/
def nestingFiles : FileTree where
  files := [
    (["settings.toml"],
      some "grammars = [ \x7b path = \"host.toml\" \x7d, \x7b path = \"guest.toml\" \x7d ]".toList),
    (["host.toml"],
      some ("name = \"host\"\n[tokenizer]\nroot = [ \x7b regex = \"<\", token = \"operator\", " ++
        "next_embedded = \"guest\" \x7d ]").toList),
    (["guest.toml"],
      some ("name = \"guest\"\n[tokenizer]\nroot = [ \x7b regex = \"[a-z]+\", " ++
        "token = \"keyword\" \x7d ]").toList)]

/-- A client says hello and opens a directory. -/
def greetingIn (uri : String) : Message where
  method := "initialize"
  parameters := some (.object [("capabilities", .object []), ("rootUri", .text uri)])
  id := some (.number 0)

/-- The tokenizers after modes were started one after another. -/
def tokenizersOf (modes : List Mode) : TokenizerRegistry :=
  (modes.foldl (fun f mode => (f.registerAll mode.id mode.provisions).2) ({} : Features)).tokenizers

theorem nesting_made :
  Mode.ofGrammar? hostGrammar = some hostMode ∧ Mode.ofGrammar? guestGrammar = some guestMode
  := ⟨(Option.some_get _).symm, (Option.some_get _).symm⟩

/--
The modes serve the languages that the grammars name, and the directory has these grammars and no
limit for the length of lines.
-/
theorem nesting_found :
  (hostMode.id = "host" ∧ guestMode.id = "guest")
    ∧ nestingFiles.loadGrammars (nestingFiles.discoverSettings []).2
        (nestingFiles.discoverSettings []).1 = [hostGrammar, guestGrammar]
    ∧ (nestingFiles.discoverSettings []).1.maxLineLength = none
  := by
  decide +kernel

/-- A server for the directory knows both modes and has started none. -/
theorem exists_nesting :
  ∃ s settings, ({ files := nestingFiles } : Server).handle? [greetingIn "file:///"]
      = some ([some (.ok capabilities)], [], s)
    ∧ s.Started settings [hostGrammar, guestGrammar] ∧ settings.maxLineLength = none
    ∧ s.workspace.modes.find? "host" = some hostMode
    ∧ s.workspace.modes.find? "guest" = some guestMode
  := by
  have read : (greetingIn "file:///").read Parameters.root? = .ok (some []) := rfl
  obtain ⟨ids, loaded, unlimited⟩ := nesting_found
  have started := started_inDirectory nestingFiles {} (fun _ => .byName) []
  rw [loaded] at started
  refine ⟨_, _, handle?_initialization rfl rfl read, started, unlimited, ?_, ?_⟩
  · rw [started.workspace_eq]
    apply Mode.find?_builtin
    simp [nesting_made, ids]
  · rw [started.workspace_eq]
    apply Mode.find?_builtin
    simp [nesting_made, ids]

/-- The first two documents of two modes are tokenized with what is there when they are opened. -/
theorem Started.exists_both_opened {settings : Settings} {grammars : List Grammar}
    (started : s.Started settings grammars) {m m' : Message} {d d' : Document} {mode mode' : Mode}
    {lines lines' : Option LineCache} (opens : m.event? = some (.opened d))
    (opens' : m'.event? = some (.opened d')) (different : mode.id ≠ d'.language)
    (known : s.workspace.modes.find? d.language = some mode)
    (known' : s.workspace.modes.find? d'.language = some mode')
    (independent : mode.dependencies = []) (independent' : mode'.dependencies = [])
    (tokenized : ((tokenizersOf [mode]).best? d.language).mapM (fun t =>
      LineCache.ofText? (t.onLines (tokenizersOf [mode])) settings.maxLineLength d.text)
        = some lines)
    (tokenized' : ((tokenizersOf [mode, mode']).best? d'.language).mapM (fun t =>
      LineCache.ofText? (t.onLines (tokenizersOf [mode, mode'])) settings.maxLineLength d'.text)
        = some lines') :
  ∃ sent last, s.handleEach? [m, m'] = some (sent, last)
    ∧ last.tokenizers = tokenizersOf [mode, mode']
    ∧ last.documents = (({} : DocumentStore).insert d lines).insert d' lines'
    ∧ last.settings = some settings
  := by
  obtain ⟨features_eq, active_eq⟩ := started.inactive
  have limit : (s.settings.getD {}).maxLineLength = settings.maxLineLength := by
    rw [started.settings_eq]
    rfl
  have registered : (s.workspace.modes.start mode).features
      = (Features.registerAll {} mode.id mode.provisions).2 := by
    rw [ModeSet.start, features_eq]
  rw [← limit] at tokenized
  obtain ⟨sent, t, first, steady, modes_eq, documents_eq, settings_eq⟩ :=
    started.steady.exists_opened opens known independent
      (by simp [ModeSet.isActive, active_eq]) (congrArg Features.tokenizers registered) tokenized
  have registered' : (t.workspace.modes.start mode').features.tokenizers
      = tokenizersOf [mode, mode'] := by
    rw [modes_eq, ModeSet.start, registered]
    rfl
  have inactive : t.workspace.modes.isActive d'.language = false := by
    rw [modes_eq, ModeSet.isActive_start]
    simp [ModeSet.isActive, active_eq, different]
  have found : t.workspace.modes.find? d'.language = some mode' := by
    rw [modes_eq]
    exact known'
  rw [← limit, ← settings_eq] at tokenized'
  obtain ⟨sent', last, next, -, modes_eq', documents_eq', settings_eq'⟩ :=
    steady.exists_opened opens' found independent' inactive registered' tokenized'
  refine ⟨sent ++ sent', last, ?_, ?_, ?_, ?_⟩
  · exact handleEach?_append_eq_some_iff.mpr ⟨sent, t, sent', first, next, rfl⟩
  · rw [tokenizers, modes_eq', registered']
  · rw [documents_eq', documents_eq, started.documents_eq]
  · rw [settings_eq', settings_eq, started.settings_eq]

/-- A document that embeds a word. -/
def hostDocument : Document :=
  ⟨"file:///a", "host", 1, "<a".toList⟩

/-- A document in the language that is embedded. -/
def guestDocument : Document :=
  ⟨"file:///b", "guest", 1, "b".toList⟩

/-- The semantic tokens of a text that is tokenized with the tokenizers of some modes. -/
def tokensWith? (modes : List Mode) (d : Document) : Option (List SemanticToken) := do
  let t ← (tokenizersOf modes).best? d.language
  let lines ← LineCache.ofText? (t.onLines (tokenizersOf modes)) none d.text
  SemanticToken.ofLines? d.text lines

/-- The word is a token of both documents where the embedded language has a tokenizer. -/
theorem nesting_tokens :
  (tokensWith? [guestMode] guestDocument = some [⟨0, 0, 1, .keyword⟩]
      ∧ tokensWith? [guestMode, hostMode] hostDocument
        = some [⟨0, 0, 1, .operator⟩, ⟨0, 1, 1, .keyword⟩])
    ∧ tokensWith? [hostMode] hostDocument = some [⟨0, 0, 1, .operator⟩]
    ∧ tokensWith? [hostMode, guestMode] guestDocument = some [⟨0, 0, 1, .keyword⟩]
    ∧ tokensWith? [hostMode, guestMode] hostDocument
      = some [⟨0, 0, 1, .operator⟩, ⟨0, 1, 1, .keyword⟩]
  := by
  decide +kernel

/-- Where there are semantic tokens, there are lines. -/
theorem exists_lines {modes : List Mode} {d : Document} {tokens : List SemanticToken}
    (found : tokensWith? modes d = some tokens) :
  ∃ t lines, (tokenizersOf modes).best? d.language = some t
    ∧ LineCache.ofText? (t.onLines (tokenizersOf modes)) none d.text = some lines
    ∧ ((tokenizersOf modes).best? d.language).mapM (fun t =>
        LineCache.ofText? (t.onLines (tokenizersOf modes)) none d.text) = some (some lines)
    ∧ SemanticToken.ofLines? d.text lines = some tokens
  := by
  simp only [tokensWith?, Option.bind_eq_bind, Option.bind_eq_some_iff] at found
  obtain ⟨t, best, lines, made, tokens_eq⟩ := found
  refine ⟨t, lines, best, made, ?_, tokens_eq⟩
  simp [best, made]

/-! ### The tokens of open documents -/

/--
After a server was initialized and has handled any notifications, each to its end, a document
that is open was opened by one of them for the last time.  If its language has a tokenizer, its
semantic tokens are those of the lines that its text has now with the tokenizers that are there
now, provided that every language it can come to embed which has a tokenizer now had one right
after that notification.
-/
theorem semantic_tokens_fresh {files : FileTree} {bundle : Bundle} {listings : Nat → Listing}
    {init : Message} {answer : Json} {greeting : List Outgoing} (named : init.method = "initialize")
    (initialized : ({ files, bundle, listings } : Server).handle? [init]
      = some ([some (.ok answer)], greeting, s))
    {messages : List Message} (notices : ∀ m ∈ messages, m.IsNotice)
    (ran : s.handleEach? messages = some (sent, last)) {d : Document}
    (is_open : last.documents.get? uri = some d) {tokenizer : Tokenizer}
    (best : last.tokenizers.best? d.language = some tokenizer) :
  ∃ before m after early t, messages = before ++ m :: after
    ∧ (∃ first, m.event? = some (.opened first) ∧ first.uri = uri)
    ∧ (∀ m ∈ after, ∀ again, m.event? = some (.opened again) → again.uri ≠ uri)
    ∧ s.handleEach? (before ++ [m]) = some (early, t)
    ∧ (t.tokenizers.Foresees last.tokenizers d.language → ∃ lines,
        LineCache.ofText? (tokenizer.onLines last.tokenizers)
            (last.settings.getD {}).maxLineLength d.text = some lines
          ∧ (last.answer (.semanticTokens uri)).1
            = .ofOption
                (fun tokens => .object [("data", .ofList .ofNat (tokens.flatMap (·.numbers)))])
                (SemanticToken.ofLines? d.text lines))
  := by
  obtain ⟨settings, grammars, started⟩ := exists_started named initialized
  have steady := started.steady
  have revised := steady.get?_documents notices ran uri
  have closed : s.documents.get? uri = none := by
    rw [started.documents_eq]
    rfl
  rw [is_open, closed] at revised
  obtain ⟨before, m, after, rfl, ⟨first, opens, first_uri⟩, once⟩ :=
    exists_last_opening revised.symm
  have earlier_notices : ∀ m ∈ before, m.IsNotice := fun m among => notices m (by simp [among])
  have later_notices : ∀ m ∈ after, m.IsNotice := fun m among => notices m (by simp [among])
  rw [List.append_cons] at ran
  obtain ⟨early, t, later, opening, further, -⟩ := handleEach?_append_eq_some_iff.mp ran
  refine ⟨before, m, after, early, t, rfl, ⟨first, opens, first_uri⟩, once, opening, ?_⟩
  intro foresees
  obtain ⟨⟨_, t_steady⟩, first_lines, first_open, first_fresh⟩ :=
    steady.exists_isFresh earlier_notices opening opens
  obtain ⟨opened, now_open, rfl⟩ := Option.map_eq_some_iff.mp is_open
  have fresh : last.IsFresh opened := by
    apply t_steady.isFresh ?_ later_notices further once now_open foresees
    intro before was_open
    rw [← first_uri, first_open] at was_open
    rw [← Option.some.inj was_open]
    exact first_fresh
  rw [IsFresh, freshLines?_setup?, best] at fresh
  obtain ⟨lines, made, lines_eq⟩ := Option.map_eq_some_iff.mp fresh
  refine ⟨lines, made, ?_⟩
  rw [answer_semanticTokens now_open, ← lines_eq]
  rfl

/-- The word is a token of a document that is opened after one in the embedded language. -/
theorem semantic_tokens_fresh_guest_first :
  ∃ s sent last, ({ files := nestingFiles } : Server).handle? [greetingIn "file:///"]
      = some ([some (.ok capabilities)], [], s)
    ∧ s.handleEach? [opening "file:///b" "guest" "b", opening "file:///a" "host" "<a"]
      = some (sent, last)
    ∧ (last.answer (.semanticTokens "file:///a")).1
      = .object [("data", .ofList .ofNat [0, 0, 1, 3, 0, 0, 1, 1, 0, 0])]
  := by
  have opens_guest : (opening "file:///b" "guest" "b").event? = some (.opened guestDocument) := rfl
  have opens_host : (opening "file:///a" "host" "<a").event? = some (.opened hostDocument) := rfl
  obtain ⟨⟨guest_tokens, host_tokens⟩, -⟩ := nesting_tokens
  obtain ⟨_, _, -, -, guest_made, -⟩ := exists_lines guest_tokens
  obtain ⟨tokenizer, lines, best, made, host_made, lines_tokens⟩ := exists_lines host_tokens
  obtain ⟨s, settings, initialized, started, unlimited, knows_host, knows_guest⟩ := exists_nesting
  rw [← unlimited] at guest_made host_made
  obtain ⟨sent, last, ran, tokenizers_eq, documents_eq, settings_eq⟩ :=
    started.exists_both_opened opens_guest opens_host (by simp [nesting_found.1, hostDocument])
      knows_guest knows_host (Mode.dependencies_of_ofGrammar? nesting_made.2)
      (Mode.dependencies_of_ofGrammar? nesting_made.1) guest_made host_made
  refine ⟨s, sent, last, initialized, ran, ?_⟩
  have is_open : last.documents.get? "file:///a" = some hostDocument := by
    rw [documents_eq]
    rfl
  rw [← tokenizers_eq] at best
  obtain ⟨before, m, after, early, t, split, ⟨first, opened, named⟩, -, opening, fresh⟩ :=
    semantic_tokens_fresh rfl initialized
      (List.forall_mem_cons.mpr ⟨Message.isNotice_of_event? opens_guest,
        List.forall_mem_cons.mpr ⟨Message.isNotice_of_event? opens_host, by simp⟩⟩)
      ran is_open best
  have same_run : t = last := by
    rcases before with _ | ⟨x, _ | ⟨y, before⟩⟩
    · obtain ⟨rfl, -⟩ := List.cons_eq_cons.mp split
      obtain rfl := Event.opened.inj (Option.some.inj (opens_guest.symm.trans opened))
      simp [guestDocument] at named
    · simp only [List.cons_append, List.nil_append, List.cons.injEq] at split
      obtain ⟨rfl, rfl, -⟩ := split
      exact (Prod.mk.inj (Option.some.inj (opening.symm.trans ran))).2
    · simp at split
  rw [same_run, tokenizers_eq, settings_eq, Option.getD_some, unlimited] at fresh
  obtain ⟨fresh_lines, fresh_made, answered⟩ := fresh fun _ _ known => known
  obtain rfl := Option.some.inj (fresh_made.symm.trans made)
  rw [answered, lines_tokens]
  rfl

/--
The word is no token of the same document when it is opened first, although it is one for the
tokenizers that are there when it is asked for.
-/
theorem semantic_tokens_stale :
  ∃ s sent last, ({ files := nestingFiles } : Server).handle? [greetingIn "file:///"]
      = some ([some (.ok capabilities)], [], s)
    ∧ s.handleEach? [opening "file:///a" "host" "<a", opening "file:///b" "guest" "b"]
      = some (sent, last)
    ∧ last.documents.get? "file:///a" = some hostDocument
    ∧ (∃ t lines, last.tokenizers.best? "host" = some t
      ∧ LineCache.ofText? (t.onLines last.tokenizers) (last.settings.getD {}).maxLineLength
          hostDocument.text = some lines
      ∧ SemanticToken.ofLines? hostDocument.text lines
        = some [⟨0, 0, 1, .operator⟩, ⟨0, 1, 1, .keyword⟩])
    ∧ (last.answer (.semanticTokens "file:///a")).1
      = .object [("data", .ofList .ofNat [0, 0, 1, 3, 0])]
  := by
  have opens_guest : (opening "file:///b" "guest" "b").event? = some (.opened guestDocument) := rfl
  have opens_host : (opening "file:///a" "host" "<a").event? = some (.opened hostDocument) := rfl
  obtain ⟨-, host_tokens, guest_tokens, fresh_tokens⟩ := nesting_tokens
  obtain ⟨_, lines, -, -, host_made, lines_tokens⟩ := exists_lines host_tokens
  obtain ⟨_, guest_lines, -, -, guest_made, -⟩ := exists_lines guest_tokens
  obtain ⟨t, fresh_lines, best, made, -, fresh_lines_tokens⟩ := exists_lines fresh_tokens
  obtain ⟨s, settings, initialized, started, unlimited, knows_host, knows_guest⟩ := exists_nesting
  rw [← unlimited] at guest_made host_made made
  obtain ⟨sent, last, ran, tokenizers_eq, documents_eq, settings_eq⟩ :=
    started.exists_both_opened opens_host opens_guest (by simp [nesting_found.1, guestDocument])
      knows_host knows_guest (Mode.dependencies_of_ofGrammar? nesting_made.1)
      (Mode.dependencies_of_ofGrammar? nesting_made.2) host_made guest_made
  have is_open : last.documents.read? "file:///a" = some ⟨hostDocument, some lines⟩ := by
    rw [documents_eq]
    rfl
  refine ⟨s, sent, last, initialized, ran, ?_, ⟨t, fresh_lines, ?_, ?_, fresh_lines_tokens⟩, ?_⟩
  · rw [DocumentStore.get?, is_open]
    rfl
  · rw [tokenizers_eq]
    exact best
  · rw [tokenizers_eq, settings_eq]
    exact made
  · rw [answer_semanticTokens is_open, Option.bind_some, lines_tokens]
    rfl

end Server

end EditorModes
