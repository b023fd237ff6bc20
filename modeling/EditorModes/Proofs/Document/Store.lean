import EditorModes.Document.Store
import EditorModes.Proofs.Document.Incremental
import EditorModes.Proofs.Text.LineStarts
import Mathlib.Data.List.Induction
import Mathlib.Logic.Function.Basic

/-!
# Coherence of the open documents

Text and cached tokens of a document are two structures, brought up to date one after the other.
After any operations on the store they agree (`Session.Tracks`): the cached lines are the
lines of the text, each tokenized by the tokenizer the document was opened with, and the text is
the one that came last.
-/

namespace EditorModes

/-! ### The last answer in a list -/

/-- The last of the answers that the members of a list give. -/
def latest? (answer? : α → Option β) (l : List α) : Option β :=
  (l.filterMap answer?).getLast?

section

variable {answer? : α → Option β}

theorem latest?_append (l m : List α) :
  latest? answer? (l ++ m) = (latest? answer? m).or (latest? answer? l)
  := by
  rw [latest?, List.filterMap_append, List.getLast?_append]
  rfl

theorem latest?_concat (l : List α) (a : α) :
  latest? answer? (l ++ [a]) = (answer? a).or (latest? answer? l)
  := by
  rw [latest?_append]
  cases answered : answer? a <;> simp [latest?, answered]

theorem exists_of_latest? {l : List α} {b : β} (last : latest? answer? l = some b) :
  ∃ a ∈ l, answer? a = some b
  := List.mem_filterMap.mp (List.mem_of_getLast? last)

end

/-- Fresh lines are the lines of the text, tokenized one after another. -/
theorem LineCache.lines_of_ofText? {t : LineTokenizer} {maxLength : Option Nat} {text : Text}
    {c : LineCache} (made : ofText? t maxLength text = some c) :
  c.IsFullPass t maxLength ∧ c.size = text.lineCount
    ∧ ∀ i, c.lines[i]?.map (·.text) = text.lineText? i
  := by
  rw [LineCache.ofText?_eq_fullPass?] at made
  obtain ⟨pass, texts_eq⟩ := LineCache.fullPass?_eq_some_iff.mp made
  refine ⟨pass, ?_, ?_⟩
  · rw [← Text.length_lineContents, ← texts_eq, LineCache.texts, List.length_map]
    rfl
  · intro i
    rw [← Text.lineContents_getElem?, ← texts_eq, LineCache.texts, List.getElem?_map]

/-- What the lines of a document are tokenized with, and the length they are tokenized up to. -/
structure LineSetup where
  tokenizer : LineTokenizer
  maxLength : Option Nat

namespace DocumentStore

/-! ### Reading after a change -/

/-- The store with another state of the document of a name. -/
def replace (s : DocumentStore) (uri : String) (opened : OpenDocument) : DocumentStore where
  documents := s.documents.map fun d => if d.document.uri = uri then opened else d

section

variable {s : DocumentStore} {uri other : String} {opened before : OpenDocument}

theorem uri_of_read? (found : s.read? uri = some opened) :
  opened.document.uri = uri
  := by
  simpa using List.find?_some found

/-- The other state of an open document is the one that is read. -/
theorem read?_replace (is_open : s.read? uri = some before) (named : opened.document.uri = uri) :
  (s.replace uri opened).read? uri = some opened
  := by
  obtain ⟨documents⟩ := s
  simp only [read?, replace] at is_open ⊢
  induction documents with
  | nil => simp at is_open
  | cons d documents ih =>
    by_cases same : d.document.uri = uri
    · simp [same, named]
    · simp only [List.find?_cons, same, decide_false] at is_open
      simp [same, ih is_open]

/-- Another state of one document leaves the others as they are. -/
theorem read?_replace_of_ne (named : opened.document.uri = uri) (ne : other ≠ uri) :
  (s.replace uri opened).read? other = s.read? other
  := by
  obtain ⟨documents⟩ := s
  simp only [read?, replace]
  induction documents with
  | nil => rfl
  | cons d documents ih =>
    by_cases same : d.document.uri = uri
    · simp [same, named, Ne.symm ne, ih]
    · simp [same, List.find?_cons, ih]

theorem uri_withText (is_open : s.read? uri = some before) (version : Int) (text : Text) :
  (before.document.withText version text).uri = uri
  := by
  rw [← uri_of_read? is_open]
  rfl

/-- A document that got another text is read under its name, and the others are as before. -/
theorem read?_withText (is_open : s.read? uri = some before) (version : Int) (text : Text)
    (lines : Option LineCache) (other : String) :
  let after : OpenDocument := ⟨before.document.withText version text, lines⟩
  (s.replace uri after).read? other = if other = uri then some after else s.read? other
  := by
  intro after
  have named : after.document.uri = uri := uri_withText is_open version text
  split
  · next same =>
    rw [same]
    exact read?_replace is_open named
  · next ne => exact read?_replace_of_ne named ne

/-- No two documents have one name. -/
def Distinct (s : DocumentStore) : Prop :=
  (s.documents.map (·.document.uri)).Nodup

theorem Distinct.close (distinct : s.Distinct) (uri : String) :
  (s.close uri).Distinct
  := List.Nodup.sublist (List.Sublist.map _ List.filter_sublist) distinct

/-- A document that is opened takes the place of the one of its name. -/
theorem Distinct.insert (distinct : s.Distinct) (d : Document) (lines : Option LineCache) :
  (s.insert d lines).Distinct
  := by
  rw [Distinct, DocumentStore.insert, List.map_append, List.nodup_append]
  refine ⟨distinct.close d.uri, by simp, ?_⟩
  intro name among other last
  obtain ⟨opened, kept, rfl⟩ := List.mem_map.mp among
  rw [List.map_singleton, List.mem_singleton] at last
  rw [last]
  simpa using (List.mem_filter.mp kept).2

/-- Another state of a document leaves the names alone. -/
theorem Distinct.replace (distinct : s.Distinct) (named : opened.document.uri = uri) :
  (s.replace uri opened).Distinct
  := by
  have same : (s.replace uri opened).documents.map (·.document.uri)
      = s.documents.map (·.document.uri) := by
    rw [DocumentStore.replace, List.map_map, List.map_congr_left]
    intro d _
    by_cases own : d.document.uri = uri <;> simp [own, named]
  rwa [Distinct, same]

/-- With different names, every document is found under its own. -/
theorem Distinct.read?_of_mem (distinct : s.Distinct) (among : opened ∈ s.documents) :
  s.read? opened.document.uri = some opened
  := by
  obtain ⟨documents⟩ := s
  simp only [read?, Distinct] at among distinct ⊢
  induction documents with
  | nil => simp at among
  | cons d documents ih =>
    rw [List.map_cons, List.nodup_cons] at distinct
    rcases List.mem_cons.mp among with rfl | later
    · simp
    · have other : d.document.uri ≠ opened.document.uri := by
        intro same
        apply distinct.1
        rw [same]
        exact List.mem_map_of_mem later
      rw [List.find?_cons]
      simp [other, ih distinct.2 later]

/-- However the open documents are listed, they are those found under their names. -/
theorem Distinct.mem_all_iff (distinct : s.Distinct) {listing : Listing} {d : Document} :
  d ∈ s.all listing ↔ s.get? d.uri = some d
  := by
  rw [all, (listing.perm _).mem_iff, List.mem_map, get?, Option.map_eq_some_iff]
  constructor
  · rintro ⟨opened, among, rfl⟩
    exact ⟨opened, distinct.read?_of_mem among, rfl⟩
  · rintro ⟨opened, found, rfl⟩
    exact ⟨opened, List.mem_of_find?_eq_some found, rfl⟩

/-! ### Updates -/

/-- Cached lines for another text, and the range of lines that were tokenized. -/
def retokenize? (lines : Option LineCache) (tokenizer : Option LineTokenizer) (text : Text) :
    Option (Option LineCache × LineRange) :=
  match lines, tokenizer with
  | some cache, some t => (cache.update? t text).map fun (cache, touched) => (some cache, touched)
  | _, _ => some (none, ⟨0, 0⟩)

theorem update?_of_closed (closed : s.read? uri = none) (tokenizer : Option LineTokenizer)
    (version : Int) (text : Text) :
  s.update? tokenizer uri version text = some none
  := by
  rw [update?, closed]

/-- An open document gets the other text, and its lines are tokenized again. -/
theorem update?_of_open (is_open : s.read? uri = some opened) (tokenizer : Option LineTokenizer)
    (version : Int) (text : Text) :
  s.update? tokenizer uri version text
    = (retokenize? opened.lines tokenizer text).map fun (lines, touched) =>
        let document := opened.document.withText version text
        some (document, touched, s.replace uri ⟨document, lines⟩)
  := by
  rw [update?, is_open]
  obtain ⟨document, lines⟩ := opened
  rcases lines with _ | cache <;> rcases tokenizer with _ | t <;> try rfl
  simp only [retokenize?, Option.bind_eq_bind]
  cases cache.update? t text <;> rfl

end

/-- The cached lines of a text, when there is something to tokenize them with. -/
def freshLines? (setup : Option LineSetup) (text : Text) : Option (Option LineCache) :=
  match setup with
  | none => some none
  | some setup => (LineCache.ofText? setup.tokenizer setup.maxLength text).map some

/-- Lines that were fresh are fresh again when they are tokenized for another text. -/
theorem retokenize?_of_fresh {setup : Option LineSetup} {old : Text} {lines : Option LineCache}
    (fresh : freshLines? setup old = some lines) (text : Text) :
  (retokenize? lines (setup.map (·.tokenizer)) text).map (·.1) = freshLines? setup text
  := by
  cases setup with
  | none =>
    obtain rfl : lines = none := by simpa [freshLines?] using fresh.symm
    rfl
  | some setup =>
    obtain ⟨cache, made, rfl⟩ := Option.map_eq_some_iff.mp fresh
    rw [LineCache.ofText?_eq_fullPass?] at made
    have updated := (LineCache.fullPass?_eq_some_iff.mp made).1.update? text
    simp only [freshLines?, ← updated, retokenize?, Option.map_some, Option.map_map]
    rfl

/-! ### Operations one after another -/

/-- What is done to a document of the store. -/
inductive Operation where
  | opened (document : Document) (setup : Option LineSetup)
  | updated (uri : String) (version : Int) (text : Text)
  | closed (uri : String)

namespace Operation

/-- The name of the document. -/
def uri : Operation → String
  | .opened document _ => document.uri
  | .updated uri _ _ => uri
  | .closed uri => uri

/-- The version and the text that the document of a name gets. -/
def revision? (uri : String) : Operation → Option (Int × Text)
  | .opened document _ =>
    if document.uri = uri then some (document.version, document.text) else none
  | .updated name version text => if name = uri then some (version, text) else none
  | .closed _ => none

/-- What the lines of the document of a name are tokenized with from now on. -/
def setup? (uri : String) : Operation → Option (Option LineSetup)
  | .opened document setup => if document.uri = uri then some setup else none
  | _ => none

/-- Whether the document of a name is open from now on. -/
def presence? (uri : String) : Operation → Option Bool
  | .opened document _ => if document.uri = uri then some true else none
  | .updated _ _ _ => none
  | .closed name => if name = uri then some false else none

/-- The tokenizer of a document that is opened answers for every line. -/
def Answers : Operation → Prop
  | .opened _ (some setup) => ∀ line state stop, (setup.tokenizer.run line state stop).isSome
  | _ => True

theorem silent_of_ne {op : Operation} {other : String} (ne : other ≠ op.uri) :
  op.revision? other = none ∧ op.setup? other = none ∧ op.presence? other = none
  := by
  cases op with
  | opened document setup => exact ⟨if_neg ne.symm, if_neg ne.symm, if_neg ne.symm⟩
  | updated name version text => exact ⟨if_neg ne.symm, rfl, rfl⟩
  | closed name => exact ⟨rfl, rfl, if_neg ne.symm⟩

end Operation

/-- The store, with what the lines of the documents of each name are tokenized with. -/
structure Session where
  store : DocumentStore := {}
  setups : String → Option LineSetup := fun _ => none

namespace Session

/-- An operation, where tokenizing answers. -/
def perform? (s : Session) : Operation → Option Session
  | .opened document setup =>
    (freshLines? setup document.text).map fun lines =>
      ⟨s.store.insert document lines, Function.update s.setups document.uri setup⟩
  | .updated uri version text =>
    (s.store.update? ((s.setups uri).map (·.tokenizer)) uri version text).map fun
      | none => s
      | some (_, _, store) => { s with store := store }
  | .closed uri => some { s with store := s.store.close uri }

/-- Operations one after another, from the empty store on. -/
def run? (ops : List Operation) : Option Session :=
  ops.foldlM perform? {}

theorem run?_append (ops : List Operation) (op : Operation) :
  run? (ops ++ [op]) = (run? ops).bind fun s => s.perform? op
  := by
  simp [run?]

/--
An open document has the version and the text that came last, and its lines are those of a cache
made afresh for this text with what the document was last opened with.
-/
structure Latest (s : Session) (ops : List Operation) (uri : String) (opened : OpenDocument) :
    Prop where
  named : opened.document.uri = uri
  revised : latest? (·.revision? uri) ops
    = some (opened.document.version, opened.document.text)
  set_up : latest? (·.setup? uri) ops = some (s.setups uri)
  tokenized : freshLines? (s.setups uri) opened.document.text = some opened.lines

/-- The document of a name is open when it was opened and not closed again, and up to date. -/
structure Tracks (s : Session) (ops : List Operation) (uri : String) : Prop where
  isSome_read? : (s.store.read? uri).isSome = (latest? (·.presence? uri) ops).getD false
  latest : ∀ opened, s.store.read? uri = some opened → s.Latest ops uri opened

variable {s new : Session} {ops : List Operation} {op : Operation} {uri other : String}
  {before : OpenDocument}

/-- An open document gets another text by an update, with lines tokenized for it. -/
theorem perform?_updated (latest : s.Latest ops uri before)
    (is_open : s.store.read? uri = some before) (version : Int) (text : Text) :
  s.perform? (.updated uri version text)
    = (freshLines? (s.setups uri) text).map fun lines =>
        { s with store := s.store.replace uri ⟨before.document.withText version text, lines⟩ }
  := by
  rw [perform?, update?_of_open is_open, ← retokenize?_of_fresh latest.tokenized text,
    Option.map_map, Option.map_map]
  rfl

theorem perform?_updated_of_closed (closed : s.store.read? uri = none) (version : Int)
    (text : Text) :
  s.perform? (.updated uri version text) = some s
  := by
  rw [perform?, update?_of_closed closed]
  rfl

/-- An operation on one document leaves the others, their tokens and their setups as they are. -/
theorem perform?_of_ne (tracks : s.Tracks ops op.uri) (performed : s.perform? op = some new)
    (ne : other ≠ op.uri) :
  new.store.read? other = s.store.read? other ∧ new.setups other = s.setups other
  := by
  cases op with
  | opened document setup =>
    obtain ⟨lines, -, rfl⟩ := Option.map_eq_some_iff.mp performed
    exact ⟨read?_insert_of_ne _ _ ne, Function.update_of_ne ne _ _⟩
  | updated uri version text =>
    cases is_open : s.store.read? uri with
    | none =>
      rw [perform?_updated_of_closed is_open, Option.some.injEq] at performed
      rw [performed]
      exact ⟨rfl, rfl⟩
    | some before =>
      have latest : s.Latest ops uri before := tracks.latest before is_open
      rw [perform?_updated latest is_open] at performed
      obtain ⟨lines, -, rfl⟩ := Option.map_eq_some_iff.mp performed
      have named := uri_of_read? is_open
      exact ⟨read?_replace_of_ne (by exact named) ne, rfl⟩
  | closed uri =>
    obtain rfl := Option.some.inj performed
    exact ⟨read?_close_of_ne _ ne, rfl⟩

/-- An operation on another document does not matter. -/
theorem Tracks.of_ne (tracks : s.Tracks ops other)
    (same : new.store.read? other = s.store.read? other)
    (kept : new.setups other = s.setups other) (ne : other ≠ op.uri) :
  new.Tracks (ops ++ [op]) other
  := by
  obtain ⟨no_revision, no_setup, no_presence⟩ := Operation.silent_of_ne ne
  constructor
  · rw [latest?_concat, no_presence, Option.none_or, same]
    exact tracks.isSome_read?
  · intro opened found
    rw [same] at found
    obtain ⟨named, revised, set_up, tokenized⟩ := tracks.latest opened found
    constructor
    · exact named
    · rwa [latest?_concat, no_revision, Option.none_or]
    · rwa [latest?_concat, no_setup, Option.none_or, kept]
    · rwa [kept]

/-- A document that is opened is up to date. -/
theorem Tracks.opened {document : Document} {setup : Option LineSetup}
    (performed : s.perform? (.opened document setup) = some new) :
  new.Tracks (ops ++ [.opened document setup]) document.uri
  := by
  obtain ⟨lines, fresh, rfl⟩ := Option.map_eq_some_iff.mp performed
  constructor
  · simp [latest?_concat, Operation.presence?]
  · intro opened found
    obtain rfl : ⟨document, lines⟩ = opened := by simpa using found
    constructor <;> simp [latest?_concat, Operation.revision?, Operation.setup?, fresh]

/-- A document that is updated is up to date, unless it is not open. -/
theorem Tracks.updated {version : Int} {text : Text} (tracks : s.Tracks ops uri)
    (performed : s.perform? (.updated uri version text) = some new) :
  new.Tracks (ops ++ [.updated uri version text]) uri
  := by
  have presence := tracks.isSome_read?
  cases is_open : s.store.read? uri with
  | none =>
    rw [perform?_updated_of_closed is_open, Option.some.injEq] at performed
    obtain rfl := performed
    constructor
    · rwa [latest?_concat, Operation.presence?, Option.none_or]
    · simp [is_open]
  | some before =>
    have latest := tracks.latest before is_open
    rw [perform?_updated latest is_open] at performed
    obtain ⟨lines, fresh, rfl⟩ := Option.map_eq_some_iff.mp performed
    let opened : OpenDocument := ⟨before.document.withText version text, lines⟩
    have named : opened.document.uri = uri := latest.named
    have reads := read?_replace is_open named
    constructor
    · rw [latest?_concat, Operation.presence?, Option.none_or, ← presence, is_open, reads]
      rfl
    · intro opened found
      obtain rfl := Option.some.inj (reads.symm.trans found)
      constructor
      · exact latest.named
      · rw [latest?_concat, Operation.revision?, if_pos rfl]
        rfl
      · simpa [latest?_concat, Operation.setup?] using latest.set_up
      · exact fresh

theorem Tracks.closed (performed : s.perform? (.closed uri) = some new) :
  new.Tracks (ops ++ [.closed uri]) uri
  := by
  obtain rfl := Option.some.inj performed
  constructor <;> simp [latest?_concat, Operation.presence?]

/-- An operation leaves all documents up to date. -/
theorem tracks_perform? (tracks : ∀ uri, s.Tracks ops uri)
    (performed : s.perform? op = some new) (uri : String) :
  new.Tracks (ops ++ [op]) uri
  := by
  by_cases ne : uri ≠ op.uri
  · obtain ⟨same, kept⟩ := perform?_of_ne (tracks op.uri) performed ne
    exact (tracks uri).of_ne same kept ne
  · obtain rfl := not_not.mp ne
    cases op with
    | opened document setup => exact .opened performed
    | updated uri version text => exact (tracks uri).updated performed
    | closed uri => exact .closed performed

/-- After any operations all documents are up to date. -/
theorem tracks_of_run? (ran : run? ops = some s) (uri : String) :
  s.Tracks ops uri
  := by
  induction ops using List.reverseRecOn generalizing s uri with
  | nil =>
    obtain rfl := Option.some.inj ran
    constructor <;> simp [read?, latest?]
  | append_singleton ops op ih =>
    rw [run?_append] at ran
    obtain ⟨before, ran, performed⟩ := Option.bind_eq_some_iff.mp ran
    exact tracks_perform? (fun uri => ih ran uri) performed uri

/-! ### Tokenizers that answer -/

/-- A tokenizer that answers tokenizes the lines of every text. -/
theorem exists_freshLines? {setup : Option LineSetup}
    (answers : ∀ t, setup = some t → ∀ line state stop,
      (t.tokenizer.run line state stop).isSome)
    (text : Text) :
  ∃ lines, freshLines? setup text = some lines
  := by
  cases setup with
  | none => exact ⟨none, rfl⟩
  | some setup =>
    obtain ⟨cache, passed⟩ :=
      LineCache.exists_fullPass (answers setup rfl) setup.maxLength text.lineContents
    rw [freshLines?, LineCache.ofText?_eq_fullPass?, passed]
    exact ⟨some cache, rfl⟩

/-- What a document was opened with answers, when the tokenizers of all operations do. -/
theorem Latest.answers (answers : ∀ op ∈ ops, op.Answers) (latest : s.Latest ops uri before)
    (t : LineSetup) (found : s.setups uri = some t) (line : Text) (state : LexerState)
    (stop : Option Nat) :
  (t.tokenizer.run line state stop).isSome
  := by
  obtain ⟨op, among, told⟩ := exists_of_latest? latest.set_up
  rw [found] at told
  have answer := answers op among
  cases op with
  | opened document setup =>
    obtain ⟨-, setup_eq⟩ := Option.ite_none_right_eq_some.mp told
    obtain rfl := Option.some.inj setup_eq
    apply answer
  | updated | closed => cases told

/-- An operation whose tokenizers answer can be performed after others. -/
theorem exists_perform? (answers : ∀ op ∈ ops, op.Answers) (answer : op.Answers)
    (tracks : s.Tracks ops op.uri) :
  ∃ new, s.perform? op = some new
  := by
  cases op with
  | opened document setup =>
    have answers : ∀ t, setup = some t → ∀ line state stop,
        (t.tokenizer.run line state stop).isSome := by
      rintro t rfl
      exact answer
    obtain ⟨lines, fresh⟩ := exists_freshLines? answers document.text
    rw [perform?, fresh]
    exact ⟨_, rfl⟩
  | updated uri version text =>
    cases is_open : s.store.read? uri with
    | none => exact ⟨s, perform?_updated_of_closed is_open version text⟩
    | some before =>
      have latest : s.Latest ops uri before := tracks.latest before is_open
      obtain ⟨lines, fresh⟩ := exists_freshLines? (latest.answers answers) text
      rw [perform?_updated latest is_open, fresh]
      exact ⟨_, rfl⟩
  | closed uri => exact ⟨_, rfl⟩

/-- Operations whose tokenizers answer can be performed one after another. -/
theorem exists_run? (answers : ∀ op ∈ ops, op.Answers) :
  ∃ s, run? ops = some s
  := by
  induction ops using List.reverseRecOn with
  | nil => exact ⟨_, rfl⟩
  | append_singleton ops op ih =>
    have earlier : ∀ op ∈ ops, op.Answers := fun op among =>
      answers op (List.mem_append_left _ among)
    obtain ⟨s, ran⟩ := ih earlier
    rw [run?_append, ran]
    exact exists_perform? earlier (answers op (by simp)) (tracks_of_run? ran op.uri)

/-! ### Coherence -/

/--
Operations on documents can be performed whenever their tokenizers answer.  Afterwards exactly
the documents that were opened and not closed again are open, with the version and the text that
came last.  A document has cached lines when it was last opened with some, and these are the
lines cut out of its text, tokenized one after another by the tokenizer it was opened with.
Further operations leave all other documents as they are, and an update of a document that is
not open does nothing.
-/
theorem run?_coherent (ops : List Operation) :
  ((∀ op ∈ ops, op.Answers) → ∃ s, run? ops = some s)
    ∧ ∀ s, run? ops = some s →
      (∀ uri, (s.store.read? uri).isSome = (latest? (·.presence? uri) ops).getD false)
      ∧ (∀ uri opened, s.store.read? uri = some opened → ∃ setup,
          latest? (·.setup? uri) ops = some setup
            ∧ latest? (·.revision? uri) ops
              = some (opened.document.version, opened.document.text)
            ∧ opened.lines.isSome = setup.isSome
            ∧ ∀ c t, opened.lines = some c → setup = some t →
                c.IsFullPass t.tokenizer t.maxLength ∧ c.size = opened.document.text.lineCount
                ∧ ∀ i, c.lines[i]?.map (·.text) = opened.document.text.lineText? i)
      ∧ (∀ op new, s.perform? op = some new → ∀ other, other ≠ op.uri →
          new.store.read? other = s.store.read? other)
      ∧ ∀ uri, s.store.read? uri = none → ∀ tokenizer version text,
          s.store.update? tokenizer uri version text = some none
            ∧ s.perform? (.updated uri version text) = some s
  := by
  use exists_run?
  intro s ran
  have tracks := tracks_of_run? ran
  refine ⟨fun uri => (tracks uri).isSome_read?, ?_, ?_, ?_⟩
  · intro uri opened found
    obtain ⟨-, revised, set_up, tokenized⟩ := (tracks uri).latest opened found
    use s.setups uri, set_up, revised
    cases setup_eq : s.setups uri with
    | none =>
      rw [setup_eq] at tokenized
      obtain lines_eq := Option.some.inj tokenized
      simp [← lines_eq]
    | some setup =>
      rw [setup_eq] at tokenized
      obtain ⟨cache, made, lines_eq⟩ := Option.map_eq_some_iff.mp tokenized
      use by rw [← lines_eq]; rfl
      rintro c t found ⟨⟩
      obtain rfl := Option.some.inj (lines_eq.trans found)
      exact LineCache.lines_of_ofText? made
  · intro op new performed other ne
    exact (perform?_of_ne (tracks op.uri) performed ne).1
  · intro uri closed tokenizer version text
    exact ⟨update?_of_closed closed tokenizer version text,
      perform?_updated_of_closed closed version text⟩

/-- A note with fences is opened and changed, between operations on another document. -/
def notes : List Operation :=
  [.opened ⟨"notes", "notes", 1, "~\n".toList⟩ (some ⟨LineCache.fenced, some 4⟩),
    .opened ⟨"other", "plain", 7, []⟩ none, .updated "third" 3 "~".toList,
    .updated "notes" 2 "a\r\n~\n\rb\nc".toList, .closed "other"]

/-- The note is open with the four lines of its second text, ended by `\r\n` and by `\n`. -/
theorem run?_coherent_notes :
  (∀ op ∈ notes, op.Answers)
    ∧ ∃ s opened c, run? notes = some s ∧ s.store.read? "notes" = some opened
      ∧ opened.document.version = 2 ∧ opened.lines = some c
      ∧ c.IsFullPass LineCache.fenced (some 4) ∧ c.size = 4
      ∧ c.lines[0]?.map (·.text) = some ['a'] ∧ c.lines[2]?.map (·.text) = some ['\r', 'b']
      ∧ s.store.read? "third" = none ∧ s.perform? (.updated "third" 4 []) = some s
  := by
  have answers : ∀ op ∈ notes, op.Answers := by
    simp [notes, Operation.Answers, LineCache.fenced]
  obtain ⟨performed, coherent⟩ := run?_coherent notes
  obtain ⟨s, ran⟩ := performed answers
  obtain ⟨presence, latest, -, passed_over⟩ := coherent s ran
  obtain ⟨⟨document, lines⟩, found⟩ := Option.isSome_iff_exists.mp (presence "notes")
  obtain ⟨setup, set_up, revised, with_lines, of_lines⟩ := latest "notes" _ found
  obtain rfl : some ⟨LineCache.fenced, some 4⟩ = setup := Option.some.inj set_up
  obtain ⟨c, rfl⟩ := Option.isSome_iff_exists.mp with_lines
  obtain ⟨pass, size_eq, texts_eq⟩ := of_lines c _ rfl rfl
  obtain ⟨version_eq, text_eq⟩ := Prod.mk.inj (Option.some.inj revised)
  rw [← text_eq] at size_eq texts_eq
  have absent : s.store.read? "third" = none := Option.isSome_eq_false_iff.mp (presence "third")
    |> Option.isNone_iff_eq_none.mp
  exact ⟨answers, s, _, c, ran, found, version_eq.symm, rfl, pass, size_eq, texts_eq 0,
    texts_eq 2, absent, (passed_over "third" absent none 4 []).2⟩

end Session

end DocumentStore

end EditorModes
