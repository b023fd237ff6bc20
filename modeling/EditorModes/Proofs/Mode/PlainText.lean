import EditorModes.Mode.Service
import EditorModes.Proofs.Document.Word
import EditorModes.Proofs.Text.ByteOrder
import EditorModes.Proofs.Text.Cursor
import Mathlib.Data.String.Basic

/-!
# The words that are suggested

The scan of a text for its words finds the maximal runs of word characters, each at the offset where
it starts (`PlainText.mem_words_iff`).  Those that go on what is typed at a position are suggested,
in the order of their bytes and once each, unless they only stand at that place
(`PlainText.suggestions_complete`).
-/

namespace EditorModes.PlainText

/-- A word of a text, which is a maximal run of word characters, with the offset where it starts. -/
def IsWordOf (w : Word) (t : Text) : Prop :=
  ∃ before after : Text, t = before ++ w.text ++ after ∧ w.start = before.byteSize
    ∧ IsRun (isWordChar · = true) before w.text after

/-- A word of a text that is the rest of a longer one, behind the text before it. -/
def IsWordBehind (earlier t : Text) (w : Word) : Prop :=
  ∃ before after : Text, t = before ++ w.text ++ after
    ∧ w.start = (earlier ++ before).byteSize
    ∧ IsRun (isWordChar · = true) (earlier ++ before) w.text after

/--
The words of a text that go on what is typed behind some of it and are no shorter than three
characters, but for a word that only stands where this is typed.
-/
structure Completes (t before typed : Text) (labels : List Text) : Prop where
  in_order : labels.Pairwise (fun a b => a.bytes < b.bytes)
  mem_iff : ∀ label, label ∈ labels ↔ 3 ≤ label.length ∧ typed <+: label ∧ label ≠ typed
    ∧ ∃ start, IsWordOf ⟨start, label⟩ t ∧ start ≠ before.byteSize

variable {w : Word} {t earlier left right before after typed run : Text} {c : Char}

/-! ### Scanning for words -/

/-- A character that is in no word stands before or behind each word. -/
theorem separates (other : isWordChar c ≠ true) (all : ∀ d ∈ run, isWordChar d = true)
    (same : left ++ c :: right = before ++ run ++ after) :
  (∃ more, left = before ++ run ++ more ∧ after = more ++ c :: right)
    ∨ ∃ more, before = left ++ c :: more ∧ right = more ++ run ++ after
  := by
  rcases List.append_eq_append_iff.mp same with ⟨part, parts_eq, rest_eq⟩ | ⟨more, left_eq, rest_eq⟩
  · cases part with
    | nil => exact .inl ⟨[], by simpa using parts_eq.symm, by simpa using rest_eq.symm⟩
    | cons d part =>
      obtain ⟨rfl, rfl⟩ := List.cons.inj rest_eq
      rcases List.append_eq_append_iff.mp parts_eq with
        ⟨part', rfl, run_eq⟩ | ⟨more, before_eq, more_eq⟩
      · exact absurd (all c (by simp [run_eq])) other
      · cases more with
        | nil =>
          obtain rfl : c :: part = run := more_eq
          exact absurd (all c List.mem_cons_self) other
        | cons d more =>
          obtain ⟨rfl, rfl⟩ := List.cons.inj more_eq
          exact .inr ⟨more, before_eq, rfl⟩
  · exact .inl ⟨more, left_eq, rest_eq⟩

/-- A character that is in no word takes the words of a text apart. -/
theorem isWordBehind_append_cons (other : isWordChar c ≠ true) :
  IsWordBehind earlier (left ++ c :: right) w
    ↔ IsWordBehind earlier left w ∨ IsWordBehind (earlier ++ left ++ [c]) right w
  := by
  constructor
  · rintro ⟨before, after, same, start_eq, run⟩
    rcases separates other run.all same with ⟨more, left_eq, rfl⟩ | ⟨more, rfl, right_eq⟩
    · refine .inl ⟨before, more, left_eq, start_eq, run.nonempty, run.all, run.starts, ?_⟩
      intro d first
      apply run.ends d
      rw [List.head?_append, first]
      rfl
    · refine .inr ⟨more, after, right_eq, ?_, ?_⟩
      · simpa using start_eq
      · simpa using run
  · rintro (⟨before, after, rfl, start_eq, run⟩ | ⟨before, after, rfl, start_eq, run⟩)
    · refine ⟨before, after ++ c :: right, by simp, start_eq, run.nonempty, run.all, run.starts, ?_⟩
      intro d first
      cases after with
      | nil =>
        obtain rfl : c = d := by simpa using first
        exact other
      | cons e after => exact run.ends d first
    · refine ⟨left ++ c :: before, after, by simp, ?_, ?_⟩
      · simpa using start_eq
      · simpa using run

/-- A text has as many bytes from its end to its start. -/
theorem byteSize_reverse (t : Text) :
  Text.byteSize t.reverse = t.byteSize
  := by
  induction t with
  | nil => rfl
  | cons c t ih =>
    rw [List.reverse_cons, Text.byteSize_append, ih, Text.byteSize_cons, Text.byteSize_cons,
      Text.byteSize_nil]
    omega

/-- Word characters with none before them are one word, if there are any. -/
theorem mem_endingWord_iff (all : ∀ c ∈ run, isWordChar c = true)
    (starts : ∀ c ∈ earlier.getLast?, isWordChar c ≠ true) :
  w ∈ endingWord (earlier ++ run).byteSize run.reverse ↔ IsWordBehind earlier run w
  := by
  rw [endingWord, byteSize_reverse, Text.byteSize_append, Nat.add_sub_cancel, List.reverse_reverse]
  by_cases none : run = []
  · subst none
    constructor
    · simp
    · rintro ⟨before, after, same, -, word⟩
      have := word.nonempty
      simp_all
  · rw [if_neg (by simpa using none), List.mem_singleton]
    constructor
    · rintro rfl
      exact ⟨[], [], by simp, by simp, none, all, by simpa using starts, by simp⟩
    · rintro ⟨before, after, rfl, start_eq, word⟩
      obtain rfl : before = [] := by
        by_contra nonempty
        obtain ⟨more, c, rfl⟩ := (List.eq_nil_or_concat' before).resolve_left nonempty
        exact word.starts c (by simp) (all c (by simp))
      obtain rfl : after = [] := by
        by_contra nonempty
        obtain ⟨c, more, rfl⟩ := List.exists_cons_of_ne_nil nonempty
        exact word.ends c rfl (all c (by simp))
      obtain ⟨start, text⟩ := w
      simpa using start_eq

/-- The scan that has read some characters of a word finds the words from there on. -/
theorem mem_wordsFrom_iff (earlier run : Text) (all : ∀ c ∈ run, isWordChar c = true)
    (starts : ∀ c ∈ earlier.getLast?, isWordChar c ≠ true) :
  w ∈ wordsFrom (earlier ++ run).byteSize run.reverse t ↔ IsWordBehind earlier (run ++ t) w
  := by
  induction t generalizing earlier run with
  | nil => rw [wordsFrom, List.append_nil, mem_endingWord_iff all starts]
  | cons c t ih =>
    have further : (earlier ++ run).byteSize + c.utf8Size = (earlier ++ (run ++ [c])).byteSize := by
      simp [Nat.add_assoc]
    by_cases word : isWordChar c = true
    · have more : ∀ d ∈ run ++ [c], isWordChar d = true := by
        intro d among
        rcases List.mem_append.mp among with before | last
        · exact all d before
        · rwa [List.mem_singleton.mp last]
      have ih := ih earlier (run ++ [c]) more starts
      rw [List.reverse_append] at ih
      rw [wordsFrom, if_pos word, further]
      simpa using ih
    · have ih := ih (earlier ++ run ++ [c]) [] (by simp) (by simpa using word)
      rw [wordsFrom, if_neg word, List.mem_append, further, mem_endingWord_iff all starts,
        isWordBehind_append_cons word]
      apply or_congr_right
      simpa using ih

theorem mem_words_iff :
  w ∈ words t ↔ IsWordOf w t
  := mem_wordsFrom_iff [] [] (by simp) (by simp)

/-! ### Suggesting words -/

/-- Nothing is left twice when duplicates are removed. -/
theorem nodup_eraseDups (l : List String) :
  l.eraseDups.Nodup
  := by
  induction length_eq : l.length using Nat.strong_induction_on generalizing l with
  | _ n ih =>
    cases l with
    | nil => simp
    | cons a l =>
      rw [List.eraseDups_cons, List.nodup_cons, List.mem_eraseDups]
      constructor
      · simp
      · have shorter := List.length_filter_le (fun b => !b == a) l
        rw [List.length_cons] at length_eq
        exact ih _ (by omega) _ rfl

/-- Labels that are sorted, each of them once, are in the order of their bytes. -/
theorem pairwise_bytes_lt {le : String → String → Bool} (le_iff : ∀ a b, le a b = true ↔ a ≤ b)
    (l : List String) :
  (l.eraseDups.mergeSort le).Pairwise fun a b => Text.bytes a.toList < Text.bytes b.toList
  := by
  have sorted : (l.eraseDups.mergeSort le).Pairwise fun a b => le a b = true := by
    apply List.pairwise_mergeSort
    · intro a b c first later
      rw [le_iff] at first later ⊢
      exact le_trans first later
    · intro a b
      rw [Bool.or_eq_true, le_iff, le_iff]
      exact le_total a b
  have once : (l.eraseDups.mergeSort le).Nodup :=
    (List.mergeSort_perm _ le).nodup_iff.mpr (nodup_eraseDups l)
  refine (sorted.and once).imp ?_
  rintro a b ⟨in_order, other⟩
  apply Text.bytes_lt_bytes
  exact String.lt_iff.mp (lt_of_le_of_ne ((le_iff a b).mp in_order) other)

/-- What is suggested behind a text that ends in word characters goes on these. -/
theorem suggestionsAt?_append (typed_all : ∀ c ∈ typed, isWordChar c = true)
    (starts : ∀ c ∈ before.getLast?, isWordChar c = false) (after : Text) :
  ∃ labels : List Text,
    suggestionsAt? (before ++ typed ++ after) (before ++ typed).byteSize
      = some (labels.map String.ofList)
    ∧ Completes (before ++ typed ++ after) before typed labels
  := by
  have start_eq : (before ++ typed).byteSize - typed.byteSize = before.byteSize := by
    rw [Text.byteSize_append, Nat.add_sub_cancel]
  rw [suggestionsAt?, Text.splitAt?_append]
  simp only [Option.bind_eq_bind, Option.bind_some, Option.pure_def,
    Text.suffixWhile_append_run typed_all starts, start_eq]
  generalize sorted_eq : List.mergeSort _ _ = sorted
  refine ⟨sorted.map String.toList, ?_, ⟨?_, fun label => ?_⟩⟩
  · simp [Function.comp_def]
  · rw [List.pairwise_map, ← sorted_eq]
    apply pairwise_bytes_lt
    intro a b
    rw [Bool.not_eq_true', decide_eq_false_iff_not, not_lt]
  · have listed : label ∈ sorted.map String.toList ↔ String.ofList label ∈ sorted := by
      rw [List.mem_map]
      constructor
      · rintro ⟨l, among, rfl⟩
        rwa [String.ofList_toList]
      · exact fun among => ⟨_, among, String.toList_ofList⟩
    rw [listed, ← sorted_eq, List.mem_mergeSort, List.mem_eraseDups, List.mem_map]
    simp only [List.mem_filter, Bool.and_eq_true, decide_eq_true_eq, Text.startsWith_iff,
      mem_words_iff, String.ofList_inj]
    constructor
    · rintro ⟨⟨start, label⟩, ⟨isWord, ⟨⟨elsewhere, long⟩, goes_on⟩, longer⟩, rfl⟩
      exact ⟨long, goes_on, longer, start, isWord, elsewhere⟩
    · rintro ⟨long, goes_on, longer, start, isWord, elsewhere⟩
      exact ⟨⟨start, label⟩, ⟨isWord, ⟨⟨elsewhere, long⟩, goes_on⟩, longer⟩, rfl⟩

/--
At a position whose line exists, a request that is not cancelled finds the words of the text that
have three characters or more and go on the word characters before the position, and which stand
at another place than these.  They are found once each and in the order of their bytes.
-/
theorem suggestions_complete (d : Document) (p : Position) (pool : Less.Workers)
    (has_line : p.line < d.text.lineCount) :
  ∃ before typed after : Text, ∃ labels : List Text,
    d.text = before ++ typed ++ after
    ∧ d.text.offsetAt? p = some (before ++ typed).byteSize
    ∧ (∀ c ∈ typed, isWordChar c = true) ∧ (∀ c ∈ before.getLast?, isWordChar c = false)
    ∧ (Service.words.suggestions d p false).run.run pool
      = (.ok (some ⟨labels.map (⟨String.ofList ·, some CompletionKind.text, none⟩), false⟩), pool)
    ∧ Completes d.text before typed labels
  := by
  obtain ⟨offset, reached⟩ : ∃ offset, d.text.offsetAt? p = some offset := by
    apply Option.ne_none_iff_exists'.mp
    rw [ne_eq, Text.offsetAt?_eq_none_iff]
    exact Nat.not_le.mpr has_line
  obtain ⟨⟨s, after, text_eq, rfl⟩, -⟩ := Document.exists_cut_of_offsetAt? reached
  obtain ⟨before, parts, typed_all, starts⟩ := Text.exists_suffixWhile isWordChar s
  generalize s.suffixWhile isWordChar = typed at parts typed_all
  subst parts
  obtain ⟨labels, suggested, completes⟩ := suggestionsAt?_append typed_all starts after
  refine ⟨before, typed, after, labels, text_eq, reached, typed_all, starts, ?_, ?_⟩
  · have items_eq : (labels.map String.ofList).map (⟨·, some CompletionKind.text, none⟩)
        = labels.map fun l => CompletionItem.mk (String.ofList l) (some CompletionKind.text) none :=
      List.map_map
    simp only [Service.suggestions, reached]
    rw [text_eq, suggested, ← items_eq]
    rfl
  · rwa [text_eq]

/-- A word that is typed at the end of a text is completed by a longer one, but not by itself. -/
theorem suggestions_complete_alphabet :
  let d : Document := ⟨"file:///notes.txt", language, 1, "alphabet\nal".toList⟩
  1 < d.text.lineCount ∧ ∃ labels : List Text,
    (Service.words.suggestions d ⟨1, 2⟩ false).run.run (Less.workers 1 {})
      = (.ok (some ⟨labels.map (⟨String.ofList ·, some CompletionKind.text, none⟩), false⟩),
        Less.workers 1 {})
    ∧ "alphabet".toList ∈ labels ∧ "al".toList ∉ labels
  := by
  intro d
  have has_line : 1 < d.text.lineCount := by decide
  obtain ⟨before, typed, after, labels, text_eq, reached, typed_all, starts, found, completes⟩ :=
    suggestions_complete d ⟨1, 2⟩ (Less.workers 1 {}) has_line
  have at_end : d.text.offsetAt? ⟨1, 2⟩ = some d.text.byteSize := by decide
  have size_eq : (before ++ typed).byteSize = d.text.byteSize :=
    Option.some.inj (reached.symm.trans at_end)
  obtain ⟨all_eq, -⟩ : before ++ typed = d.text ∧ after = [] := by
    apply Text.append_inj_of_byteSize_eq _ size_eq
    rw [← text_eq, List.append_nil]
  have typed_eq : typed = "al".toList := by
    rw [← Text.suffixWhile_append_run typed_all starts, all_eq]
    decide
  have before_size : before.byteSize = 9 := by
    have total : d.text.byteSize = 11 := by decide
    rw [Text.byteSize_append, typed_eq, total] at size_eq
    have typed_size : Text.byteSize "al".toList = 2 := by decide
    omega
  refine ⟨has_line, labels, found, ?_, ?_⟩
  · rw [completes.mem_iff, typed_eq, before_size]
    refine ⟨by decide, by decide, by decide, 0, ⟨[], "\nal".toList, rfl, rfl, ?_⟩, by decide⟩
    refine ⟨by decide, List.all_eq_true.mp (by decide), by rintro c ⟨⟩, ?_⟩
    rintro c ⟨⟩
    decide
  · rw [completes.mem_iff]
    rintro ⟨long, -⟩
    revert long
    decide

end EditorModes.PlainText
