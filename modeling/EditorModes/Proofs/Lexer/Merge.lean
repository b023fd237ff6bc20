import EditorModes.Proofs.Lexer.Piece
import Mathlib.Data.List.Chain
import Mathlib.Data.List.Find
import Mathlib.Data.List.Nodup

/-!
# Merged tokens

Neighbouring pieces of one type share a token, but nothing is lost by it: the type of each piece
is that of the last token up to any place in it, brackets keep tokens of their own, and a lexer
leaves no two neighbouring tokens of one type, unless one of them is a bracket or an embedded
region stands between them.  What decides about merging are two flags, whether the latest token is
a bracket and whether something stands behind it; `LineBuilder.Merges` says what they mean in
terms of the pieces passed over.
-/

namespace EditorModes

/-- The token at an offset: the last one that does not start after it. -/
def LineTokens.tokenAt? (result : LineTokens) (offset : Nat) : Option Token :=
  result.tokens.reverse.find? (·.start ≤ offset)

/-- Within a piece the tokens are those at its start. -/
theorem LineTokens.CutInto.tokenAt?_eq {result : LineTokens} {delta : Nat} {text : Text}
    {pieces : List Piece} (cut : result.CutInto delta text pieces) {r : Piece}
    (among : r ∈ pieces) {offset : Nat} (first : r.start ≤ offset)
    (last : offset < r.start + r.text.byteSize) :
  result.tokenAt? offset = result.tokenAt? r.start
  := by
  apply List.find?_congr
  intro t amongTokens
  rcases cut.reads.collects.source t amongTokens with none_before | source
  · simp at none_before
  · obtain ⟨s, other, start_eq, -⟩ := source
    rw [decide_eq_decide, ← start_eq]
    constructor
    · intro sooner
      by_contra later
      have := cut.reads.tiles.stop_le_start (toReading_mem among) other (by omega)
      omega
    · omega

theorem LineTokens.CutInto.le_start {result : LineTokens} {delta : Nat} {text : Text}
    {pieces : List Piece} (cut : result.CutInto delta text pieces) {t : Token}
    (among : t ∈ result.tokens) :
  delta ≤ t.start
  := by
  obtain ⟨before, after, -, -, start_eq⟩ := cut.covers.tokens_over.at_character t among
  omega

/-- For a piece with a type there is a token, which starts no later than the piece. -/
theorem LineTokens.CutInto.exists_token {result : LineTokens} {delta : Nat} {text : Text}
    {pieces : List Piece} (cut : result.CutInto delta text pieces) {r : Piece}
    (among : r ∈ pieces) (emits : r.type ≠ none) :
  ∃ t ∈ result.tokens, t.start ≤ r.start
  := by
  obtain ⟨type, typed⟩ := Option.ne_none_iff_exists'.mp emits
  have found := cut.reads.collects.typed r.toReading (toReading_mem among) type typed
  obtain ⟨t, found, -⟩ := Option.map_eq_some_iff.mp found
  use t, List.mem_reverse.mp (List.mem_of_find?_eq_some found)
  simpa using List.find?_some found

/-- The token at an offset is the last of those that do not start after it. -/
theorem LineTokens.start_le_tokenAt? {result : LineTokens}
    (in_order : result.tokens.Pairwise (·.start < ·.start)) {offset : Nat} {found t : Token}
    (here : result.tokenAt? offset = some found) (among : t ∈ result.tokens)
    (started : t.start ≤ offset) :
  t.start ≤ found.start
  := by
  obtain ⟨-, later, earlier, listed, behind⟩ := List.find?_eq_some_iff_append.mp here
  have backwards := List.pairwise_reverse.mpr in_order
  rw [listed] at backwards
  have backwards := (List.pairwise_append.mp backwards).2.1
  rcases List.mem_append.mp (listed ▸ List.mem_reverse.mpr among) with among | among
  · have := behind t among
    simp at this
    omega
  · rcases List.mem_cons.mp among with rfl | among
    · apply Nat.le_refl
    · apply Nat.le_of_lt (List.rel_of_pairwise_cons backwards among)

theorem piece_eq_of_start_eq {delta : Nat} {text : Text} {pieces : List Piece}
    (tiles : Tiles delta text (readingsOf pieces)) {r s : Piece} (among : r ∈ pieces)
    (other : s ∈ pieces) (same : r.start = s.start) :
  r = s
  := by
  have in_order := tiles.in_order
  rw [readingsOf, List.pairwise_map] at in_order
  have distinct : (pieces.map fun r => r.start).Nodup :=
    List.pairwise_map.mpr (in_order.imp fun sooner => Nat.ne_of_lt sooner)
  apply List.inj_on_of_nodup_map distinct among other same

/-! ### Flags -/

namespace LineBuilder

/-- A token is merged only where no flag and no other type keeps it apart from the latest one. -/
theorem token_cases (b : LineBuilder) (start : Nat) (type : String) (bracket : Bool) :
  (b.token start type bracket = b ∧ b.barrier = false ∧ bracket = false ∧ b.lastBracket = false
      ∧ ∃ last, b.tokens.head? = some last ∧ last.type = type)
    ∨ (b.token start type bracket
        = { b with tokens := ⟨start, type⟩ :: b.tokens, lastBracket := bracket, barrier := false }
      ∧ (b.barrier = false → bracket = false → b.lastBracket = false →
          ∀ last ∈ b.tokens.head?, last.type ≠ type))
  := by
  unfold token
  dsimp only
  split_ifs with merges
  · left
    simpa [and_assoc, Option.any_eq_true] using merges
  · right
    use rfl
    intro unbarred unbracketed apart last latest same
    simp [unbarred, unbracketed, apart, Option.mem_def.mp latest, same] at merges

/-- After a change of language it is the latest one. -/
theorem head?_modes_switch (b : LineBuilder) (start : Nat) (language : String) :
  (b.switch start language).modes.head?.map (·.language) = some language
  := by
  unfold switch
  split
  · rfl
  · next last earlier listed =>
    split_ifs with same here before
    · simp [listed, same]
    · simpa [Option.any_eq_true] using before
    · rfl
    · rfl

/-- A change of language to the latest one changes nothing; any other keeps tokens apart. -/
theorem switch_cases (b : LineBuilder) (start : Nat) (language : String) :
  (b.switch start language = b ∧ b.modes.head?.map (·.language) = some language)
    ∨ (b.switch start language).barrier = true
      ∧ b.modes.head?.map (·.language) ≠ some language
  := by
  unfold switch
  split
  · next unset => simp [unset]
  · next last earlier listed =>
    split_ifs <;> simp_all

theorem switch_eq_of_barrier (b : LineBuilder) {start : Nat} {language : String}
    (unbarred : (b.switch start language).barrier = false) :
  b.switch start language = b
  := by
  rcases b.switch_cases start language with ⟨same, -⟩ | ⟨barred, -⟩
  · apply same
  · simp [barred] at unbarred

theorem lastBracket_switch (b : LineBuilder) (start : Nat) (language : String) :
  (b.switch start language).lastBracket = b.lastBracket
  := by
  unfold switch
  split
  · rfl
  · split_ifs <;> rfl

theorem barrier_splice (b : LineBuilder) (tokens : List Token) (modes : List ModeTransition) :
  (b.splice tokens modes).barrier = true
  := by
  induction tokens generalizing b modes with
  | nil => rfl
  | cons t tokens ih => apply ih

end LineBuilder

/-! ### Tokens of brackets -/

/--
Tokens, listed latest first, that come from pieces: those of brackets have a token of their own,
which no later piece with a type becomes part of.
-/
structure KeepsBrackets (tokens : List Token) (pieces : List Piece) : Prop where
  source : ∀ t ∈ tokens, ∃ r ∈ pieces, r.start = t.start
  bracket_mem : ∀ r ∈ pieces, r.bracket → ∀ type, r.type = some type → ⟨r.start, type⟩ ∈ tokens
  bracket_apart : ∀ r ∈ pieces, ∀ s ∈ pieces, r.start < s.start → r.bracket → r.type ≠ none →
    s.type ≠ none → ∃ t ∈ tokens, r.start < t.start ∧ t.start ≤ s.start

namespace KeepsBrackets

variable {tokens others : List Token} {pieces more : List Piece}

theorem nil :
  KeepsBrackets [] []
  := by
  constructor <;> simp

/-- A piece with a token. -/
theorem single {r : Piece} {type : String} (typed : r.type = some type) :
  KeepsBrackets [⟨r.start, type⟩] [r]
  := by
  constructor
  · simp
  · intro s among _ other otherTyped
    obtain rfl := List.mem_singleton.mp among
    rw [Option.some.inj (typed.symm.trans otherTyped)]
    apply List.mem_singleton_self
  · simp

/-- A piece without a token, which is no bracket with a type. -/
theorem without {r : Piece} (plain : r.bracket → r.type = none) :
  KeepsBrackets [] [r]
  := by
  constructor
  · simp
  · intro s among bracket type typed
    obtain rfl := List.mem_singleton.mp among
    simp [plain bracket] at typed
  · simp

/-- The depth of pieces makes no difference. -/
theorem embed (keeps : KeepsBrackets tokens pieces) :
  KeepsBrackets tokens (pieces.map (·.embed))
  := by
  constructor
  · intro t among
    obtain ⟨r, amongPieces, start_eq⟩ := keeps.source t among
    exact ⟨r.embed, List.mem_map_of_mem amongPieces, start_eq⟩
  · intro s among bracket type typed
    obtain ⟨r, amongPieces, rfl⟩ := List.mem_map.mp among
    apply keeps.bracket_mem r amongPieces bracket type typed
  · intro r among s other
    obtain ⟨o, first, rfl⟩ := List.mem_map.mp among
    obtain ⟨q, second, rfl⟩ := List.mem_map.mp other
    apply keeps.bracket_apart o first q second

theorem exists_embedded (keeps : KeepsBrackets tokens pieces) {t : Token} (among : t ∈ tokens) :
  ∃ s ∈ pieces.map (·.embed), s.start = t.start ∧ s.depth ≠ 0
  := by
  obtain ⟨r, amongPieces, start_eq⟩ := keeps.source t among
  exact ⟨r.embed, List.mem_map_of_mem amongPieces, start_eq, by simp⟩

/-- Pieces in a row, when each later one with a type has a token behind earlier brackets. -/
theorem append (keeps : KeepsBrackets tokens pieces) (next : KeepsBrackets others more)
    (order : ∀ r ∈ pieces, ∀ s ∈ more, r.start < s.start)
    (apart : ∀ r ∈ pieces, ∀ s ∈ more, r.bracket → r.type ≠ none → s.type ≠ none →
      ∃ t ∈ others ++ tokens, r.start < t.start ∧ t.start ≤ s.start) :
  KeepsBrackets (others ++ tokens) (pieces ++ more)
  := by
  constructor
  · intro t among
    rcases List.mem_append.mp among with among | among
    · obtain ⟨r, amongMore, start_eq⟩ := next.source t among
      exact ⟨r, List.mem_append_right _ amongMore, start_eq⟩
    · obtain ⟨r, amongPieces, start_eq⟩ := keeps.source t among
      exact ⟨r, List.mem_append_left _ amongPieces, start_eq⟩
  · intro r among bracket type typed
    rcases List.mem_append.mp among with among | among
    · exact List.mem_append_right _ (keeps.bracket_mem r among bracket type typed)
    · exact List.mem_append_left _ (next.bracket_mem r among bracket type typed)
  · intro r among s other before bracket typed emits
    rcases List.mem_append.mp among with among | among
    · rcases List.mem_append.mp other with other | other
      · obtain ⟨t, amongTokens, between⟩ :=
          keeps.bracket_apart r among s other before bracket typed emits
        exact ⟨t, List.mem_append_right _ amongTokens, between⟩
      · apply apart r among s other bracket typed emits
    · rcases List.mem_append.mp other with other | other
      · have := order s other r among
        omega
      · obtain ⟨t, amongTokens, between⟩ :=
          next.bracket_apart r among s other before bracket typed emits
        exact ⟨t, List.mem_append_left _ amongTokens, between⟩

end KeepsBrackets

/-! ### Neighbouring tokens of a lexer -/

/--
Two tokens with nothing but pieces of the lexer itself from the one to the other have the same
type only when one of them is a bracket.
-/
def Unmerged (pieces : List Piece) (t u : Token) : Prop :=
  (∀ r ∈ pieces, t.start ≤ r.start → r.start ≤ u.start → r.depth = 0) → t.type = u.type →
    ∃ r ∈ pieces, r.bracket ∧ (r.start = t.start ∨ r.start = u.start)

theorem Unmerged.mono {pieces more : List Piece} {t u : Token} (unmerged : Unmerged pieces t u)
    (sub : ∀ r ∈ pieces, r ∈ more) :
  Unmerged more t u
  := by
  intro own same
  obtain ⟨r, among, bracket⟩ := unmerged (fun r among => own r (sub r among)) same
  exact ⟨r, sub r among, bracket⟩

theorem Unmerged.of_region {pieces : List Piece} {t u : Token} {r : Piece} (among : r ∈ pieces)
    (first : t.start ≤ r.start) (last : r.start ≤ u.start) (embedded : r.depth ≠ 0) :
  Unmerged pieces t u
  := fun own _ => absurd (own r among first last) embedded

/--
The tokens collected so far keep their brackets, neighbouring ones are not left unmerged, and the
flags mean what they should: without a barrier the latest token is one of the lexer's own, a
bracket or not as the flag says, and with a barrier an embedded region stands behind it.
-/
structure LineBuilder.Merges (b : LineBuilder) (language : String) (pieces : List Piece) :
    Prop where
  keeps : KeepsBrackets b.tokens pieces
  unmerged : b.tokens.IsChain fun u t => Unmerged pieces t u
  unbarred : b.barrier = false → ∀ t ∈ b.tokens.head?,
    b.modes.head?.map (·.language) = some language
      ∧ ∃ r ∈ pieces, r.start = t.start ∧ r.bracket = b.lastBracket
  barred : b.barrier = true → ∀ t ∈ b.tokens.head?,
    ∃ s ∈ pieces, t.start ≤ s.start ∧ s.depth ≠ 0

namespace LineBuilder.Merges

variable {b c : LineBuilder} {delta : Nat} {language : String} {text more : Text}
  {pieces others : List Piece}

/-- Pieces of a line without tokens and languages. -/
theorem start (language : String) :
  LineBuilder.Merges {} language []
  := by
  constructor
  · apply KeepsBrackets.nil
  · simp
  · simp
  · simp

/-- A piece is passed over that adds no token. -/
theorem pass (merges : b.Merges language pieces) {r : Piece} (plain : r.bracket → r.type = none)
    (order : ∀ s ∈ pieces, s.start < r.start)
    (apart : r.type ≠ none → ∀ s ∈ pieces, s.bracket → s.type ≠ none →
      ∃ t ∈ b.tokens, s.start < t.start ∧ t.start ≤ r.start) :
  b.Merges language (pieces ++ [r])
  := by
  have sub : ∀ s ∈ pieces, s ∈ pieces ++ [r] := fun s among => List.mem_append_left _ among
  constructor
  · apply merges.keeps.append (.without plain)
    · simpa using order
    · intro s among o other bracket typed emits
      obtain rfl := List.mem_singleton.mp other
      apply apart emits s among bracket typed
  · apply merges.unmerged.imp
    intro u t unmerged
    apply unmerged.mono sub
  · intro unbarred t latest
    obtain ⟨same, s, among, found⟩ := merges.unbarred unbarred t latest
    exact ⟨same, s, sub s among, found⟩
  · intro barred t latest
    obtain ⟨s, among, found⟩ := merges.barred barred t latest
    exact ⟨s, sub s among, found⟩

/-- A latest token that is no bracket stands behind all brackets passed over. -/
theorem bracket_lt_latest (cut : b.CutInto delta text pieces) (merges : b.Merges language pieces)
    (unbarred : b.barrier = false) (plain : b.lastBracket = false) {last : Token}
    (latest : b.tokens.head? = some last) {s : Piece} (among : s ∈ pieces) (bracket : s.bracket)
    (emits : s.type ≠ none) :
  s.start < last.start
  := by
  obtain ⟨-, o, other, here, bracket_eq⟩ := merges.unbarred unbarred last latest
  obtain ⟨earlier, listed⟩ := List.head?_eq_some_iff.mp latest
  obtain ⟨type, typed⟩ := Option.ne_none_iff_exists'.mp emits
  have elsewhere : s.start ≠ last.start := by
    intro same
    rw [piece_eq_of_start_eq cut.tiles among other (same.trans here.symm), bracket_eq,
      plain] at bracket
    simp at bracket
  have in_order := List.pairwise_reverse.mp cut.tokens_over.in_order
  have token := merges.keeps.bracket_mem s among bracket type typed
  rw [listed] at in_order token
  rcases List.mem_cons.mp token with same | earlier
  · exact absurd (congrArg Token.start same) elsewhere
  · apply List.rel_of_pairwise_cons in_order earlier

/--
A token is added for a piece of the lexer only where it is of another type than the latest one,
one of the two is a bracket, or an embedded region stands between them.
-/
theorem unmerged_latest (merges : b.Merges language pieces) {r : Piece} {type : String}
    (sooner : ∀ s ∈ pieces, s.start < r.start)
    (reason : (b.switch r.start language).barrier = false → r.bracket = false →
      (b.switch r.start language).lastBracket = false →
        ∀ last ∈ (b.switch r.start language).tokens.head?, last.type ≠ type)
    {t : Token} (latest : t ∈ b.tokens.head?) :
  Unmerged (pieces ++ [r]) t ⟨r.start, type⟩
  := by
  intro own same
  cases barrier : b.barrier with
  | true =>
    obtain ⟨s, among, behind, embedded⟩ := merges.barred barrier t latest
    have := sooner s among
    exact absurd (own s (List.mem_append_left _ among) behind (by dsimp only; omega)) embedded
  | false =>
    obtain ⟨current, s, among, here, bracket⟩ := merges.unbarred barrier t latest
    rcases b.switch_cases r.start language with ⟨unchanged, -⟩ | ⟨-, other⟩
    · rw [unchanged] at reason
      cases isBracket : r.bracket with
      | true => exact ⟨r, by simp, isBracket, .inr rfl⟩
      | false =>
        cases afterBracket : b.lastBracket with
        | true => exact ⟨s, by simp [among], bracket.trans afterBracket, .inl here⟩
        | false => exact absurd same (reason barrier isBracket afterBracket t latest)
    · exact absurd current other

/-- A piece of the lexer with a type becomes a token or is merged with the latest one. -/
theorem token (cut : b.CutInto delta text pieces) (merges : b.Merges language pieces) {r : Piece}
    {type : String} (start_eq : r.start = delta + text.byteSize) (typed : r.type = some type) :
  ((b.switch r.start language).token r.start type r.bracket).Merges language (pieces ++ [r])
  := by
  have sooner : ∀ s ∈ pieces, s.start < r.start := fun s among => start_eq ▸ cut.start_lt among
  have tokens_eq := b.tokens_switch r.start language
  rcases (b.switch r.start language).token_cases r.start type r.bracket with
    ⟨merged, unbarred, plain, apart, last, latest, same⟩ | ⟨added, reason⟩
  · rw [tokens_eq] at latest
    rw [b.lastBracket_switch] at apart
    have switch_eq := b.switch_eq_of_barrier unbarred
    rw [switch_eq] at unbarred
    rw [merged, switch_eq]
    apply merges.pass (by simp [plain]) sooner
    intro _ s among bracket emits
    have behind := merges.bracket_lt_latest cut unbarred apart latest among bracket emits
    obtain ⟨o, other, here⟩ := merges.keeps.source last (List.mem_of_mem_head? latest)
    have := sooner o other
    exact ⟨last, List.mem_of_mem_head? latest, behind, by omega⟩
  · rw [added]
    constructor
    · rw [tokens_eq]
      apply merges.keeps.append (.single typed)
      · simpa using sooner
      · intro s among o other _ _ _
        obtain rfl := List.mem_singleton.mp other
        exact ⟨⟨_, type⟩, by simp, sooner s among, Nat.le_refl _⟩
    · rw [tokens_eq]
      apply List.isChain_cons.mpr
      constructor
      · intro t latest
        apply merges.unmerged_latest sooner reason latest
      · apply merges.unmerged.imp
        intro u t unmerged
        apply unmerged.mono fun s among => List.mem_append_left _ among
    · intro _ t latest
      obtain rfl : ⟨r.start, type⟩ = t := by simpa using latest
      exact ⟨b.head?_modes_switch r.start language, r, by simp⟩
    · simp

/-- The tokens of an embedded region are kept apart from those before it. -/
theorem splice (cut : b.CutInto delta text pieces) (merges : b.Merges language pieces)
    {result : LineTokens} {inner : List Piece} (nonempty : more ≠ [])
    (innerCut : result.CutInto (delta + text.byteSize) more inner)
    (keeps : KeepsBrackets result.tokens.reverse inner) :
  (b.splice result.tokens result.modes).Merges language (pieces ++ inner.map (·.embed))
  := by
  have tokens_eq := b.tokens_splice result.tokens result.modes
  have region (t : Token) (among : t ∈ result.tokens) :
      ∃ s ∈ pieces ++ inner.map (·.embed), s.start = t.start ∧ s.depth ≠ 0 := by
    obtain ⟨s, amongInner, found⟩ := keeps.exists_embedded (List.mem_reverse.mpr among)
    exact ⟨s, List.mem_append_right _ amongInner, found⟩
  constructor
  · rw [tokens_eq]
    apply merges.keeps.append keeps.embed
    · intro r among s other
      obtain ⟨o, amongInner, rfl⟩ := List.mem_map.mp other
      have := cut.start_lt among
      have := (innerCut.reads.tiles.start_mem (toReading_mem amongInner)).1
      dsimp only [Piece.toReading_embed]
      omega
    · intro r among s other _ _ emits
      obtain ⟨o, amongInner, rfl⟩ := List.mem_map.mp other
      obtain ⟨t, amongTokens, started⟩ := innerCut.exists_token amongInner emits
      have := cut.start_lt among
      have := innerCut.le_start amongTokens
      exact ⟨t, List.mem_append_left _ (List.mem_reverse.mpr amongTokens), by omega, started⟩
  · rw [tokens_eq]
    apply List.isChain_append.mpr
    refine ⟨?_, ?_, ?_⟩
    · apply List.Pairwise.isChain
      apply List.Pairwise.imp_of_mem _ innerCut.covers.tokens_over.in_order.reverse
      intro u t amongU amongT before
      obtain ⟨s, among, start_eq, embedded⟩ := region t (List.mem_reverse.mp amongT)
      apply Unmerged.of_region among _ _ embedded <;> omega
    · apply merges.unmerged.imp
      intro u t unmerged
      apply unmerged.mono fun s among => List.mem_append_left _ among
    · intro u first t latest
      have amongU := List.mem_reverse.mp (List.mem_of_mem_getLast? first)
      obtain ⟨s, among, start_eq, embedded⟩ := region u amongU
      obtain ⟨o, other, here⟩ := merges.keeps.source t (List.mem_of_mem_head? latest)
      have := cut.start_lt other
      have := innerCut.le_start amongU
      apply Unmerged.of_region among _ _ embedded <;> omega
  · simp [b.barrier_splice]
  · intro _ t latest
    rw [tokens_eq] at latest
    rcases List.mem_append.mp (List.mem_of_mem_head? latest) with among | among
    · obtain ⟨s, amongPieces, start_eq, embedded⟩ := region t (List.mem_reverse.mp among)
      exact ⟨s, amongPieces, by omega, embedded⟩
    · obtain ⟨reading, rest, split, start_eq⟩ := innerCut.reads.tiles.exists_first nonempty
      obtain ⟨s, amongInner, rfl⟩ := List.mem_map.mp (split ▸ List.mem_cons_self :
        reading ∈ readingsOf inner)
      obtain ⟨o, other, here⟩ := merges.keeps.source t among
      have := cut.start_lt other
      exact ⟨s.embed, List.mem_append_right _ (List.mem_map_of_mem amongInner),
        by dsimp only [Piece.toReading_embed]; omega, by simp⟩

/-- Whatever is added, the tokens collected stay so. -/
theorem adds (cut : b.CutInto delta text pieces) (merges : b.Merges language pieces)
    (adds : b.Adds (fun _ _ pieces result => KeepsBrackets result.tokens.reverse pieces) language
      (delta + text.byteSize) more others c) :
  c.Merges language (pieces ++ others)
  := by
  cases adds with
  | nothing => simpa using merges
  | @token r type start_eq nonempty typed language_eq own =>
    rw [← start_eq]
    apply merges.token cut start_eq typed
  | @drop r start_eq nonempty untyped own =>
    apply merges.pass (fun _ => untyped)
    · intro s among
      have := cut.start_lt among
      omega
    · intro emits
      exact absurd untyped emits
  | @splice _ inner result nonempty innerCut keeps =>
    apply merges.splice cut nonempty innerCut keeps

end LineBuilder.Merges

/-- Plain texts have no brackets. -/
theorem PlainLexer.keepsBrackets_tokenize (p : PlainLexer) (delta : Nat) (text : Text)
    (state : LexerState) :
  KeepsBrackets (p.tokenize text state delta none).tokens.reverse (p.pieces delta text)
  := by
  have plain : ∀ r ∈ p.pieces delta text, r.bracket = false := by
    intro r among
    obtain ⟨reading, -, rfl⟩ := List.mem_map.mp among
    rfl
  constructor
  · intro t among
    have collects := (p.reads_readingsFrom text.length delta text (Nat.le_refl _)).2.2
    rw [← readingsOf_pieces] at collects
    rcases collects.source t among with none_before | ⟨reading, amongReadings, start_eq, -⟩
    · simp at none_before
    · obtain ⟨r, amongPieces, rfl⟩ := List.mem_map.mp amongReadings
      exact ⟨r, amongPieces, start_eq⟩
  · intro r among bracket
    simp [plain r among] at bracket
  · intro r among s _ _ bracket
    simp [plain r among] at bracket

/-- What merging keeps is carried from piece to piece. -/
theorem carries_merges :
  Carries (fun language _ _ pieces b => b.Merges language pieces)
    (fun _ _ pieces result => KeepsBrackets result.tokens.reverse pieces)
  where
  start language _ := .start language
  adds cut merges adds := merges.adds cut adds
  finish active endState _ merges := by
    rw [LineBuilder.finish, List.reverse_reverse]
    apply merges.keeps
  plain p delta text state := p.keepsBrackets_tokenize delta text state

/--
Where the tokenizers of the registry follow rules, merging loses nothing of the pieces that a
lexer reads a line in: anywhere in a piece with a type the token has this type; the token of a
bracket is its own, so that no other piece with a type is part of it; and two neighbouring tokens
from the lexer's own pieces, with no embedded region between them, have the same type only when
one of them is a bracket.
-/
theorem Tokenizer.merging_keeps_pieces {registry : TokenizerRegistry}
    (rules : registry.followsRules) (l : Lexer) (connected : Bool) {line : Text}
    {state : LexerState} {delta : Nat} {stop : Option Nat} {result : LineTokens}
    (answer : (lexer l connected).tokenize? registry line state delta stop = some result) :
  let pieces := (lexer l connected).pieces registry line state delta stop
  Tiles delta (visiblePart line delta stop) (readingsOf pieces)
    ∧ (∀ r ∈ pieces, ∀ type, r.type = some type →
        ∀ offset, r.start ≤ offset → offset < r.start + r.text.byteSize →
          result.typeAt? offset = some type)
    ∧ (∀ r ∈ pieces, r.bracket → ∀ type, r.type = some type →
        ⟨r.start, type⟩ ∈ result.tokens
        ∧ ∀ s ∈ pieces, s.type ≠ none → s.start ≠ r.start →
            result.tokenAt? s.start ≠ some ⟨r.start, type⟩)
    ∧ result.tokens.IsChain fun t u =>
        (∀ r ∈ pieces, t.start ≤ r.start → r.start ≤ u.start → r.depth = 0) → t.type = u.type →
          ∃ r ∈ pieces, r.bracket ∧ (r.start = t.start ∨ r.start = u.start)
  := by
  intro pieces
  have cut : result.CutInto delta (visiblePart line delta stop) pieces :=
    cutInto_tokenizeWithin rules _ (t := .lexer l connected) rfl answer
  obtain ⟨b, active, endState, -, merges, rfl⟩ := shows_tokenize? carries_merges rules answer
  have in_order := cut.covers.tokens_over.in_order
  refine ⟨cut.reads.tiles, ?_, ?_, ?_⟩
  · intro r among type typed offset first last
    have start_type := cut.reads.collects.typed r.toReading (toReading_mem among) type typed
    change ((LineTokens.tokenAt? _ offset).map _) = _
    rw [cut.tokenAt?_eq among first last]
    apply start_type
  · intro r among bracket type typed
    refine ⟨List.mem_reverse.mpr (merges.keeps.bracket_mem r among bracket type typed), ?_⟩
    intro s other emits elsewhere here
    have started : r.start ≤ s.start := by simpa using List.find?_some here
    obtain ⟨t, amongTokens, behind, before⟩ := merges.keeps.bracket_apart r among s other
      (by omega) bracket (by simp [typed]) emits
    have := LineTokens.start_le_tokenAt? in_order here (List.mem_reverse.mpr amongTokens) before
    dsimp only at this
    omega
  · apply List.isChain_reverse.mpr merges.unmerged

/-- Lists of letters in parentheses, with scripts between backticks. -/
def lists : Grammar where
  name := "list"
  defaultToken := "text"
  brackets := [⟨"(", ")", "parenthesis"⟩]
  states := [
    ("root", [
      .own { pattern := "[(]", token := "@brackets" },
      .own { pattern := "[)]", token := "@brackets" },
      .own { pattern := "[a-z]", token := "item" },
      .own { pattern := "`", token := "item", next := "@script", nextEmbedded := "script" }]),
    ("script", [
      .own { pattern := "`", token := "item", next := "@pop", nextEmbedded := "@pop" }])]

/-- The lexer of lists. -/
def listLexer : Lexer :=
  lists.compile.toOption.get (by decide +kernel)

/-- The pieces of a list with a script in it, at the offset 3. -/
def listPieces : List Piece :=
  (Tokenizer.lexer listLexer true).pieces styleRegistry "((ab`x`c".toList (.initial "root") 3 none

/--
In a list, letters and a backtick share a token; the two parentheses do not, nor do the backticks
before and after a script.
-/
theorem Tokenizer.merging_keeps_pieces_list :
  styleRegistry.followsRules
    ∧ (Tokenizer.lexer listLexer true).tokenize? styleRegistry "((ab`x`c".toList
        (.initial "root") 3 none
      = some ⟨[⟨3, "parenthesis"⟩, ⟨4, "parenthesis"⟩, ⟨5, "item"⟩, ⟨8, "identifier"⟩, ⟨9, "item"⟩],
          [⟨3, "list"⟩, ⟨8, "script"⟩, ⟨9, "list"⟩], 11, ⟨⟨"root", [], 2⟩, []⟩⟩
    ∧ listPieces.map (fun r => (r.start, r.type, r.bracket, r.depth))
      = [(3, some "parenthesis", true, 0), (4, some "parenthesis", true, 0),
          (5, some "item", false, 0), (6, some "item", false, 0), (7, some "item", false, 0),
          (8, some "identifier", false, 1), (9, some "item", false, 0), (10, some "item", false, 0)]
    ∧ [(⟨3, "parenthesis"⟩ : Token), ⟨4, "parenthesis"⟩, ⟨5, "item"⟩, ⟨8, "identifier"⟩,
        ⟨9, "item"⟩].IsChain fun t u =>
          (∀ r ∈ listPieces, t.start ≤ r.start → r.start ≤ u.start → r.depth = 0) →
            t.type = u.type → ∃ r ∈ listPieces, r.bracket ∧ (r.start = t.start ∨ r.start = u.start)
  := by
  have rules := styleRegistry_followsRules
  have answer :
      (Tokenizer.lexer listLexer true).tokenize? styleRegistry "((ab`x`c".toList
          (.initial "root") 3 none
        = some ⟨[⟨3, "parenthesis"⟩, ⟨4, "parenthesis"⟩, ⟨5, "item"⟩, ⟨8, "identifier"⟩,
              ⟨9, "item"⟩],
            [⟨3, "list"⟩, ⟨8, "script"⟩, ⟨9, "list"⟩], 11, ⟨⟨"root", [], 2⟩, []⟩⟩ := by
    decide +kernel
  obtain ⟨-, -, -, unmerged⟩ := Tokenizer.merging_keeps_pieces rules listLexer true answer
  exact ⟨rules, answer, by decide +kernel, unmerged⟩

end EditorModes
