import EditorModes.Proofs.Lexer.Order
import Mathlib.Data.List.TakeWhile

/-!
# What plain tokenizers cut a line into

A plain tokenizer cuts the visible part of a line into maximal runs of white space, single
separators, and maximal runs of the characters that are neither.  What stands before a part is
never such that the part could have begun earlier, which is what makes the runs maximal on the left
(`PlainLexer.Parts`).
-/

namespace EditorModes

/-- A part of a text, all of whose characters satisfy a predicate, that cannot be extended. -/
structure IsRun (P : Char → Prop) (before part after : Text) : Prop where
  nonempty : part ≠ []
  all : ∀ c ∈ part, P c
  starts : ∀ c ∈ before.getLast?, ¬ P c
  ends : ∀ c ∈ after.head?, ¬ P c

/-- The characters at the start of a text that satisfy a predicate are a run of them. -/
theorem IsRun.takeWhile {P : Char → Prop} [DecidablePred P] {before t : Text} {c : Char}
    (first : P c) (starts : ∀ d ∈ before.getLast?, ¬ P d) :
  IsRun P before ((c :: t).takeWhile P) ((c :: t).dropWhile P)
  where
  nonempty := by simp [first]
  all := fun d among => by simpa using List.mem_takeWhile_imp among
  starts := starts
  ends := by
    intro d next
    have stops := List.head?_dropWhile_not (fun e => decide (P e)) (c :: t)
    rw [Option.mem_def.mp next] at stops
    simpa using stops

namespace PlainLexer

variable {p : PlainLexer} {before part after text : Text} {type : String} {c : Char}

/-- White space of a plain tokenizer. -/
def IsWhite (p : PlainLexer) (c : Char) : Prop :=
  c ∈ p.rules.whitespace

/-- A separator that is not white space. -/
def IsDelimiter (p : PlainLexer) (c : Char) : Prop :=
  c ∈ p.rules.separators ∧ c ∉ p.rules.whitespace

/-- Neither white space nor a separator. -/
def IsOther (p : PlainLexer) (c : Char) : Prop :=
  c ∉ p.rules.separators ∧ c ∉ p.rules.whitespace

instance : DecidablePred p.IsWhite :=
  fun c => inferInstanceAs (Decidable (c ∈ _))

instance : DecidablePred p.IsOther :=
  fun c => inferInstanceAs (Decidable (c ∉ _ ∧ c ∉ _))

/-- The type of a part says what the part is in its line. -/
structure Types (p : PlainLexer) (before part after : Text) (type : String) : Prop where
  white : type = "white" ↔ IsRun p.IsWhite before part after
  delimiter : type = "delimiter" ↔ ∃ c, part = [c] ∧ p.IsDelimiter c
  text : type = "text" ↔ IsRun p.IsOther before part after
  known : type = "white" ∨ type = "delimiter" ∨ type = "text"

/-- Parts of a line, one behind the other, with the tokens that they become. -/
inductive Parts (p : PlainLexer) : (offset : Nat) → (before : Text) → List Text → List Token → Prop
    where
  | nil {offset : Nat} {before : Text} : Parts p offset before [] []
  | cons {offset : Nat} {before part : Text} {type : String} {parts : List Text}
    {tokens : List Token} (nonempty : part ≠ []) (typed : p.Types before part parts.flatten type)
    (later : Parts p (offset + part.byteSize) (before ++ part) parts tokens) :
    Parts p offset before (part :: parts) (⟨offset, type⟩ :: tokens)

/-! ### Characters of three kinds -/

/-- A run of white space is nothing else. -/
theorem types_white (run : IsRun p.IsWhite before part after) :
  p.Types before part after "white"
  := by
  obtain ⟨c, among⟩ := List.exists_mem_of_ne_nil part run.nonempty
  have white := run.all c among
  constructor
  · exact ⟨fun _ => run, fun _ => rfl⟩
  · refine ⟨fun same => by simp at same, ?_⟩
    rintro ⟨d, rfl, -, other⟩
    exact absurd (run.all d List.mem_cons_self) other
  · exact ⟨fun same => by simp at same, fun others => absurd white (others.all c among).2⟩
  · exact .inl rfl

/-- A separator that is not white space is nothing else. -/
theorem types_delimiter (delimiter : p.IsDelimiter c) :
  p.Types before [c] after "delimiter"
  := by
  constructor
  · refine ⟨fun same => by simp at same, fun run => ?_⟩
    exact absurd (run.all c List.mem_cons_self) delimiter.2
  · exact ⟨fun _ => ⟨c, rfl, delimiter⟩, fun _ => rfl⟩
  · refine ⟨fun same => by simp at same, fun run => ?_⟩
    exact absurd delimiter.1 (run.all c List.mem_cons_self).1
  · exact .inr (.inl rfl)

/-- A run of other characters is nothing else. -/
theorem types_other (run : IsRun p.IsOther before part after) :
  p.Types before part after "text"
  := by
  obtain ⟨c, among⟩ := List.exists_mem_of_ne_nil part run.nonempty
  have other := run.all c among
  constructor
  · exact ⟨fun same => by simp at same, fun white => absurd (white.all c among) other.2⟩
  · refine ⟨fun same => by simp at same, ?_⟩
    rintro ⟨d, rfl, separates, -⟩
    exact absurd separates (run.all d List.mem_cons_self).1
  · exact ⟨fun _ => run, fun _ => rfl⟩
  · exact .inr (.inr rfl)

/-! ### The next piece -/

/-- A text that starts with white space starts with a run of it. -/
theorem piece_white (white : p.IsWhite c) (t : Text) :
  p.piece c t = ((c :: t).takeWhile p.IsWhite, "white")
  := by
  have listed : p.rules.whitespace.contains c = true := List.contains_iff_mem.mpr white
  have whites : p.rules.whitespace.contains = fun d => decide (p.IsWhite d) := by
    funext d
    exact List.contains_eq_mem d _
  rw [piece, if_pos listed, TokenRules.splitWhitespace, Text.spanWhile, whites]

theorem piece_delimiter (delimiter : p.IsDelimiter c) (t : Text) :
  p.piece c t = ([c], "delimiter")
  := by
  simp [piece, TokenRules.splitToken, delimiter.1, delimiter.2]

/-- A text that starts with another character starts with a run of such characters. -/
theorem piece_other (other : p.IsOther c) (t : Text) :
  p.piece c t = ((c :: t).takeWhile p.IsOther, "text")
  := by
  have others : (fun d => !(p.rules.separators.contains d || p.rules.whitespace.contains d))
      = fun d => decide (p.IsOther d) := by
    funext d
    rw [Bool.eq_iff_iff, decide_eq_true_iff]
    simp [IsOther]
  have token_eq : (p.rules.splitToken (c :: t)).1 = (c :: t).takeWhile p.IsOther := by
    have not_separator : ¬ p.rules.separators.contains c = true := by simpa using other.1
    have not_white : ¬ p.rules.whitespace.contains c = true := by simpa using other.2
    rw [TokenRules.splitToken, if_neg not_separator, if_neg not_white, Text.spanWhile, others,
      List.takeWhile_cons_of_pos (by simpa using other)]
  simp [piece, token_eq, other.1, other.2]

/-! ### Where parts meet -/

/-- Between two texts no run of white space and no run of other characters goes on. -/
structure Splits (p : PlainLexer) (before after : Text) : Prop where
  white : ∀ c ∈ before.getLast?, p.IsWhite c → ∀ d ∈ after.head?, ¬ p.IsWhite d
  other : ∀ c ∈ before.getLast?, p.IsOther c → ∀ d ∈ after.head?, ¬ p.IsOther d

theorem mem_of_getLast?_append (nonempty : part ≠ []) (last : c ∈ (before ++ part).getLast?) :
  c ∈ part
  := by
  rw [List.getLast?_append_of_ne_nil before nonempty] at last
  exact List.mem_of_getLast? last

/--
Where no run goes on the next piece of the text has the type of what it is, and no run goes on
behind it.
-/
theorem exists_piece (t : Text) (splits : p.Splits before (c :: t)) :
  ∃ (part rest : Text) (type : String), c :: t = part ++ rest ∧ p.piece c t = (part, type)
    ∧ part ≠ [] ∧ p.Types before part rest type ∧ p.Splits (before ++ part) rest
  := by
  by_cases white : p.IsWhite c
  · have run : IsRun p.IsWhite before ((c :: t).takeWhile p.IsWhite)
        ((c :: t).dropWhile p.IsWhite) :=
      .takeWhile white fun d last white' => splits.white d last white' c rfl white
    refine ⟨_, _, _, List.takeWhile_append_dropWhile.symm, piece_white white t, run.nonempty,
      types_white run, fun _ _ _ => run.ends, fun d last other => ?_⟩
    exact absurd (run.all d (mem_of_getLast?_append run.nonempty last)) other.2
  · by_cases separates : c ∈ p.rules.separators
    · refine ⟨[c], t, _, rfl, piece_delimiter ⟨separates, white⟩ t, List.cons_ne_nil c [],
        types_delimiter ⟨separates, white⟩, fun d last white' => ?_, fun d last other => ?_⟩
      · obtain rfl : d = c := by simpa using last.symm
        exact absurd white' white
      · obtain rfl : d = c := by simpa using last.symm
        exact absurd separates other.1
    · have other : p.IsOther c := ⟨separates, white⟩
      have run : IsRun p.IsOther before ((c :: t).takeWhile p.IsOther)
          ((c :: t).dropWhile p.IsOther) :=
        .takeWhile other fun d last other' => splits.other d last other' c rfl other
      refine ⟨_, _, _, List.takeWhile_append_dropWhile.symm, piece_other other t, run.nonempty,
        types_other run, fun d last white' => ?_, fun _ _ _ => run.ends⟩
      exact absurd white' (run.all d (mem_of_getLast?_append run.nonempty last)).2

/-! ### Lines -/

/-- The tokens of a text behind another one are those of its parts. -/
theorem exists_parts (p : PlainLexer) (count offset : Nat) (before text : Text)
    (enough : text.length ≤ count) (splits : p.Splits before text) :
  ∃ parts, parts.flatten = text ∧ p.Parts offset before parts (p.tokensFrom count offset text)
  := by
  induction count generalizing offset before text with
  | zero =>
    obtain rfl := List.eq_nil_of_length_eq_zero (Nat.le_zero.mp enough)
    exact ⟨[], rfl, .nil⟩
  | succ count ih =>
    cases text with
    | nil => exact ⟨[], rfl, .nil⟩
    | cons c t =>
      obtain ⟨part, rest, type, text_eq, piece_eq, nonempty, typed, further⟩ :=
        exists_piece t splits
      have shorter : rest.length ≤ count := by
        have size := congrArg List.length text_eq
        have positive := List.length_pos_iff.mpr nonempty
        rw [List.length_append] at size
        omega
      obtain ⟨parts, flat, later⟩ :=
        ih (offset + part.byteSize) (before ++ part) rest shorter further
      refine ⟨part :: parts, by rw [List.flatten_cons, flat, text_eq], ?_⟩
      rw [← flat] at typed
      rw [tokensFrom, piece_eq, text_eq]
      dsimp only
      rw [List.drop_left]
      exact .cons nonempty typed later

/--
A plain tokenizer cuts the visible part of a line into parts that make it up, one behind the other,
the first of them at the offset of the line: its tokens are of the type `white` where the part is a
maximal run of white space, `delimiter` where it is a single separator that is not white space, and
`text` where it is a maximal run of characters that are neither.  The state stays what it is.
-/
theorem tokenize_parts (p : PlainLexer) (line : Text) (state : LexerState) (delta : Nat)
    (stop : Option Nat) :
  (∃ parts, parts.flatten = visiblePart line delta stop
      ∧ p.Parts delta [] parts (p.tokenize line state delta stop).tokens)
    ∧ (p.tokenize line state delta stop).endState = state
  := by
  refine ⟨?_, rfl⟩
  apply p.exists_parts _ delta [] _ (Nat.le_refl _)
  constructor <;> exact fun _ last => nomatch last

end PlainLexer

end EditorModes
