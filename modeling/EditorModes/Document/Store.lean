import EditorModes.Document.Basic
import EditorModes.Document.LineCache

/-!
# Open documents

The store holds the open documents, each under its name and with the cached tokens of its lines
when its language has a tokenizer.
-/

namespace EditorModes

/-- An open document with the cached tokens of its lines. -/
structure OpenDocument where
  document : Document
  lines : Option LineCache
  deriving DecidableEq, Repr

/-- The open documents, no two of one name. -/
structure DocumentStore where
  documents : List OpenDocument := []
  deriving DecidableEq, Repr

/-- An order in which documents are listed, which nothing is known about. -/
structure Listing where
  arrange : List Document → List Document
  perm : ∀ documents, (arrange documents).Perm documents

/-- The documents by increasing name. -/
def Listing.byName : Listing where
  arrange documents := documents.mergeSort fun a b => !(b.uri < a.uri)
  perm _ := List.mergeSort_perm _ _

namespace DocumentStore

/-- The open document of a name, with its cached tokens. -/
def read? (s : DocumentStore) (uri : String) : Option OpenDocument :=
  s.documents.find? (·.document.uri = uri)

/-- The open document of a name. -/
def get? (s : DocumentStore) (uri : String) : Option Document :=
  (s.read? uri).map (·.document)

/-- The store without the document of a name. -/
def close (s : DocumentStore) (uri : String) : DocumentStore where
  documents := s.documents.filter (·.document.uri ≠ uri)

/-- The store with a document opened, or opened again. -/
def insert (s : DocumentStore) (document : Document) (lines : Option LineCache) :
    DocumentStore where
  documents := (s.close document.uri).documents ++ [⟨document, lines⟩]

@[simp]
theorem read?_close (s : DocumentStore) (uri : String) :
  (s.close uri).read? uri = none
  := by
  simp [read?, close]

/-- Closing a document leaves the others as they are. -/
theorem read?_close_of_ne (s : DocumentStore) {uri other : String} (ne : other ≠ uri) :
  (s.close uri).read? other = s.read? other
  := by
  simp only [read?, close]
  induction s.documents with
  | nil => rfl
  | cons d documents ih =>
    by_cases same : d.document.uri = uri
    · have unequal : d.document.uri ≠ other := fun h => ne (h.symm.trans same)
      simpa [same, unequal, List.find?_cons, Ne.symm ne] using ih
    · by_cases found : d.document.uri = other <;> simp_all

@[simp]
theorem read?_insert (s : DocumentStore) (document : Document) (lines : Option LineCache) :
  (s.insert document lines).read? document.uri = some ⟨document, lines⟩
  := by
  have closed := read?_close s document.uri
  simp only [read?] at closed
  simp [read?, insert, closed]

theorem read?_insert_of_ne (s : DocumentStore) {document : Document} (lines : Option LineCache)
    {other : String} (ne : other ≠ document.uri) :
  (s.insert document lines).read? other = s.read? other
  := by
  rw [← read?_close_of_ne s ne]
  simp [read?, insert, Ne.symm ne]

/-- The open documents in an order in which they are listed. -/
def all (s : DocumentStore) (listing : Listing) : List Document :=
  listing.arrange (s.documents.map (·.document))

/--
The store after an open document gets another text: the outer value is `none` when tokenizing
does not answer, the inner one when no such document is open.  Tokens stay cached when there is
something to tokenize the lines with.
-/
def update? (s : DocumentStore) (tokenizer : Option LineTokenizer) (uri : String) (version : Int)
    (text : Text) : Option (Option (Document × LineRange × DocumentStore)) :=
  match s.read? uri with
  | none => some none
  | some opened => do
    let document := opened.document.withText version text
    let (lines, touched) ← match opened.lines, tokenizer with
      | some cache, some t => do
        let (cache, touched) ← cache.update? t text
        pure (some cache, touched)
      | _, _ => pure (none, (⟨0, 0⟩ : LineRange))
    return some (document, touched,
      ⟨s.documents.map fun d => if d.document.uri = uri then ⟨document, lines⟩ else d⟩)

end DocumentStore

end EditorModes
