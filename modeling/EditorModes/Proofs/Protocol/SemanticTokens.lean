import EditorModes.Proofs.Document.Incremental
import EditorModes.Proofs.Lexer.Order
import EditorModes.Proofs.Text.Position
import EditorModes.Protocol.SemanticTokens
import Mathlib.Data.List.Forall2

/-!
# Semantic tokens and the tokens of lines

A client puts each semantic token behind the one before it.  `SemanticToken.decode` does so; what
it finds are the tokens of the cached lines that have a kind (`LineCache.placedTokens`), at their
lines and UTF-16 columns, as long as the tokens of each line fit in it.
-/

namespace EditorModes

/-! ### Tokens that fit in a line -/

/-- The offsets where tokens start, and the one where tokenizing stopped. -/
def tokenBounds (tokens : List Token) (stop : Nat) : List Nat :=
  tokens.map (·.start) ++ [stop]

theorem tokenBounds_cons (token : Token) (tokens : List Token) (stop : Nat) :
  tokenBounds (token :: tokens) stop = token.start :: tokenBounds tokens stop
  := rfl

/-- Tokens start one after another, and tokenizing stops behind them, all at cuts of the line. -/
structure TokensFit (line : Text) (tokens : List Token) (stop : Nat) : Prop where
  in_order : (tokenBounds tokens stop).Pairwise (· < ·)
  isCut : ∀ offset ∈ tokenBounds tokens stop, line.IsCut offset

/-- The tokens that have a kind, each up to the next token or to where tokenizing stopped. -/
def kindSpans (tokens : List Token) (stop : Nat) : List KindSpan :=
  (tokens.zip (tokenBounds tokens stop).tail).filterMap fun (token, next) =>
    (SemanticKind.ofTokenType? token.type).map fun kind => ⟨kind, ⟨token.start, next⟩⟩

/-- Tokens over the visible part of a line, up to its end, fit in the line. -/
theorem LineTokens.Covers.tokensFit {result : LineTokens} {line visible : Text}
    (covers : result.Covers 0 visible) (part : visible <+: line) :
  TokensFit line result.tokens result.stop
  := by
  obtain ⟨hidden, rfl⟩ := part
  have stop_eq := covers.stop_eq
  rw [Nat.zero_add] at stop_eq
  constructor
  · apply List.pairwise_append.mpr
    refine ⟨List.pairwise_map.mpr covers.tokens_over.in_order, by simp, ?_⟩
    intro start started stop last
    obtain ⟨token, among, rfl⟩ := List.mem_map.mp started
    obtain rfl := List.mem_singleton.mp last
    have before := covers.tokens_over.start_lt among
    omega
  · intro offset bound
    rcases List.mem_append.mp bound with started | last
    · obtain ⟨token, among, rfl⟩ := List.mem_map.mp started
      obtain ⟨before, after, rfl, -, start_eq⟩ := covers.tokens_over.at_character token among
      use before, after ++ hidden
      simp [start_eq]
    · obtain rfl := List.mem_singleton.mp last
      use visible, hidden, rfl, stop_eq.symm

namespace TokensFit

variable {line : Text} {token : Token} {tokens : List Token} {stop : Nat}

theorem tail (fits : TokensFit line (token :: tokens) stop) :
  TokensFit line tokens stop
  := by
  constructor
  · apply (List.pairwise_cons.mp fits.in_order).2
  · intro offset among
    apply fits.isCut offset (List.mem_cons_of_mem _ among)

/-- The first token goes up to the second one, or to where tokenizing stopped. -/
theorem exists_next (fits : TokensFit line (token :: tokens) stop) :
  ∃ next later, tokenBounds tokens stop = next :: later
    ∧ (tokens.head?.map (·.start)).getD stop = next ∧ token.start < next ∧ next ≤ stop
    ∧ kindSpans (token :: tokens) stop
      = ((SemanticKind.ofTokenType? token.type).map fun kind =>
          ⟨kind, ⟨token.start, next⟩⟩).toList ++ kindSpans tokens stop
  := by
  obtain ⟨next, later, bounds_eq, next_eq⟩ : ∃ next later, tokenBounds tokens stop = next :: later
      ∧ (tokens.head?.map (·.start)).getD stop = next := by
    cases tokens with
    | nil => exact ⟨stop, [], rfl, rfl⟩
    | cons other tokens => exact ⟨_, _, rfl, rfl⟩
  have in_order := fits.in_order
  rw [tokenBounds_cons, bounds_eq] at in_order
  obtain ⟨first, others⟩ := List.pairwise_cons.mp in_order
  have among : stop ∈ next :: later := by
    rw [← bounds_eq, tokenBounds]
    simp
  refine ⟨next, later, bounds_eq, next_eq, first next List.mem_cons_self, ?_, ?_⟩
  · rcases List.mem_cons.mp among with rfl | among
    · apply Nat.le_refl
    · apply Nat.le_of_lt ((List.pairwise_cons.mp others).1 stop among)
  · rw [kindSpans, kindSpans, tokenBounds_cons, bounds_eq, List.tail_cons, List.zip_cons_cons,
      List.tail_cons, List.filterMap_cons]
    dsimp only
    cases SemanticKind.ofTokenType? token.type <;> rfl

/-- Tokens with a kind go from one bound to a later one. -/
theorem bounds_of_mem_kindSpans (fits : TokensFit line tokens stop) {s : KindSpan}
    (among : s ∈ kindSpans tokens stop) :
  s.span.start ∈ tokenBounds tokens stop ∧ s.span.stop ∈ tokenBounds tokens stop
    ∧ s.span.start < s.span.stop
  := by
  induction tokens with
  | nil => simp [kindSpans] at among
  | cons token tokens ih =>
    obtain ⟨next, later, bounds_eq, -, before, -, spans_eq⟩ := fits.exists_next
    rw [spans_eq] at among
    rw [tokenBounds_cons]
    rcases List.mem_append.mp among with first | others
    · obtain ⟨kind, -, rfl⟩ := Option.map_eq_some_iff.mp (Option.mem_toList.mp first)
      simp [bounds_eq, before]
    · obtain ⟨start, stop, in_order⟩ := ih fits.tail others
      exact ⟨List.mem_cons_of_mem _ start, List.mem_cons_of_mem _ stop, in_order⟩

/-- Tokens with a kind do not overlap. -/
theorem kindSpans_in_order (fits : TokensFit line tokens stop) :
  (kindSpans tokens stop).Pairwise (·.span.stop ≤ ·.span.start)
  := by
  induction tokens with
  | nil => exact .nil
  | cons token tokens ih =>
    obtain ⟨next, later, bounds_eq, -, -, -, spans_eq⟩ := fits.exists_next
    rw [spans_eq]
    apply List.pairwise_append.mpr
    refine ⟨by cases SemanticKind.ofTokenType? token.type <;> simp, ih fits.tail, ?_⟩
    intro s first other among
    obtain ⟨kind, -, rfl⟩ := Option.map_eq_some_iff.mp (Option.mem_toList.mp first)
    obtain ⟨start, -, -⟩ := fits.tail.bounds_of_mem_kindSpans among
    have in_order := fits.tail.in_order
    rw [bounds_eq] at start in_order
    rcases List.mem_cons.mp start with same | later
    · apply Nat.le_of_eq same.symm
    · apply Nat.le_of_lt ((List.pairwise_cons.mp in_order).1 _ later)

end TokensFit

/-- A span behind an offset. -/
def KindSpan.shift (offset : Nat) (s : KindSpan) : KindSpan :=
  ⟨s.kind, ⟨offset + s.span.start, offset + s.span.stop⟩⟩

/-- The spans of a line are those of its tokens that have a kind, behind the start of the line. -/
theorem TokensFit.spansOfTokens_eq {line : Text} {tokens : List Token} {stop : Nat}
    (fits : TokensFit line tokens stop) (lineStart : Nat) :
  SemanticToken.spansOfTokens lineStart stop tokens
    = (kindSpans tokens stop).map (·.shift lineStart)
  := by
  induction tokens with
  | nil => rfl
  | cons token tokens ih =>
    obtain ⟨next, later, -, next_eq, before, bound, spans_eq⟩ := fits.exists_next
    rw [SemanticToken.spansOfTokens, ih fits.tail, spans_eq, next_eq, Nat.min_eq_left bound]
    cases SemanticKind.ofTokenType? token.type with
    | none => rfl
    | some kind =>
      dsimp only
      rw [if_pos before]
      rfl

/-! ### Reading semantic tokens -/

theorem SemanticKind.index_lt (k : SemanticKind) :
  k.index < SemanticKind.legend.length
  := by
  cases k <;> decide

/-- A semantic token at its place in a document. -/
structure PlacedToken where
  start : Position
  length : Nat
  kind : SemanticKind
  deriving DecidableEq, Repr

/-- A place on an earlier line, or not further right on the same line. -/
def Position.AtOrBefore (p q : Position) : Prop :=
  p.line < q.line ∨ p.line = q.line ∧ p.column ≤ q.column

/-- A position further on: columns count from `p` on its own line, from the start on others. -/
def Position.advance (p : Position) (deltaLine deltaStart : Nat) : Position where
  line := p.line + deltaLine
  column := if deltaLine = 0 then p.column + deltaStart else deltaStart

theorem Position.advance_of_eq_zero (p : Position) {deltaLine : Nat} (same : deltaLine = 0)
    (deltaStart : Nat) :
  p.advance deltaLine deltaStart = ⟨p.line + deltaLine, p.column + deltaStart⟩
  := by
  rw [advance, if_pos same]

theorem Position.advance_of_ne_zero (p : Position) {deltaLine : Nat} (other : deltaLine ≠ 0)
    (deltaStart : Nat) :
  p.advance deltaLine deltaStart = ⟨p.line + deltaLine, deltaStart⟩
  := by
  rw [advance, if_neg other]

theorem Position.le_advance (p : Position) (deltaLine deltaStart : Nat) :
  deltaLine ≤ (p.advance deltaLine deltaStart).line
    ∧ deltaStart ≤ (p.advance deltaLine deltaStart).column
  := by
  unfold advance
  split <;> dsimp only <;> omega

/-- A position can be reached from every one that is at it or before it. -/
theorem Position.exists_advance {p q : Position} (later : p.AtOrBefore q) :
  ∃ deltaLine deltaStart, q = p.advance deltaLine deltaStart
  := by
  obtain ⟨line, column⟩ := q
  rcases later with further | ⟨rfl, further⟩
  · dsimp only at further
    use line - p.line, column
    rw [p.advance_of_ne_zero (by omega), Nat.add_sub_cancel' (by omega)]
  · use 0, column - p.column
    rw [p.advance_of_eq_zero rfl, Nat.add_sub_cancel' further, Nat.add_zero]

namespace SemanticToken

/-- The tokens at their places, the first of them behind `previous`. -/
def decode (previous : Position) : List SemanticToken → List PlacedToken
  | [] => []
  | token :: rest =>
    let start := previous.advance token.deltaLine token.deltaStart
    ⟨start, token.length, token.kind⟩ :: decode start rest

end SemanticToken

namespace PlacedToken

/-- The place of a token that is the span `s` of the `n`-th line. -/
def ofSpan (n : Nat) (line : Text) (s : KindSpan) : PlacedToken where
  start := ⟨n, Text.utf16Size (line.takeBytes s.span.start)⟩
  length := Text.utf16Size ((line.slice? s.span.start s.span.stop).getD [])
  kind := s.kind

/-- Where a token ends. -/
def stop (placed : PlacedToken) : Position :=
  ⟨placed.start.line, placed.start.column + placed.length⟩

/-- A token is placed at a span of a text when it goes from the position of one end to the other. -/
structure IsAt (text : Text) (s : KindSpan) (placed : PlacedToken) : Prop where
  start_eq : text.positionAt? s.span.start = some placed.start
  stop_eq : text.positionAt? s.span.stop = some placed.stop
  kind_eq : s.kind = placed.kind

theorem ofSpan_append (n : Nat) (before between after : Text) (kind : SemanticKind) :
  ofSpan n (before ++ between ++ after) ⟨kind, ⟨before.byteSize, (before ++ between).byteSize⟩⟩
    = ⟨⟨n, before.utf16Size⟩, between.utf16Size, kind⟩
  := by
  rw [ofSpan, Text.slice?_append, List.append_assoc, Text.takeBytes_append]
  rfl

/-- A token that lies between two cuts of its line is not empty and ends within the line. -/
theorem ofSpan_fits {line : Text} {s : KindSpan} (n : Nat) (start : line.IsCut s.span.start)
    (stop : line.IsCut s.span.stop) (in_order : s.span.start < s.span.stop) :
  ∃ before between : Text, before ++ between <+: line ∧ between ≠ []
    ∧ before.byteSize = s.span.start ∧ (before ++ between).byteSize = s.span.stop
    ∧ ofSpan n line s = ⟨⟨n, before.utf16Size⟩, between.utf16Size, s.kind⟩
  := by
  obtain ⟨kind, first, last⟩ := s
  obtain ⟨before, between, after, rfl, nonempty, rfl, rfl⟩ :=
    Text.exists_between_of_isCut start stop in_order
  exact ⟨before, between, List.prefix_append _ _, nonempty, rfl, rfl, ofSpan_append ..⟩

/-- The spans of a line are placed on it. -/
theorem isAt_ofSpan {text : Text} {n : Nat} {line : Line} (found : text.line? n = some line)
    {s : KindSpan} (start : line.content.IsCut s.span.start)
    (stop : line.content.IsCut s.span.stop) (in_order : s.span.start < s.span.stop) :
  IsAt text (s.shift line.start) (ofSpan n line.content s)
  := by
  obtain ⟨before, between, part, -, start_eq, stop_eq, placed_eq⟩ :=
    ofSpan_fits n start stop in_order
  rw [placed_eq]
  constructor
  · rw [KindSpan.shift, ← start_eq]
    apply Text.positionAt?_of_prefix found
    apply (List.prefix_append _ _).trans part
  · rw [KindSpan.shift, ← stop_eq, Text.positionAt?_of_prefix found part, Text.utf16Size_append]
    rfl
  · rfl

end PlacedToken

namespace SemanticToken

theorem difference?_eq_some_iff {before after distance : Nat} :
  difference? before after = some distance ↔ after = before + distance
  := by
  rw [difference?, Option.ite_none_right_eq_some, Option.some.injEq]
  omega

/-- A span is sent by how far its start is from `previous`, and the next one is behind its start. -/
theorem encode?_cons_eq_some_iff {text : Text} {previous : Position} {span : KindSpan}
    {spans : List KindSpan} {encoded : List SemanticToken} :
  encode? text previous (span :: spans) = some encoded
    ↔ ∃ deltaLine deltaStart stop rest,
      text.positionAt? span.span.start = some (previous.advance deltaLine deltaStart)
      ∧ text.positionAt? span.span.stop = some stop
      ∧ encode? text (previous.advance deltaLine deltaStart) spans = some rest
      ∧ encoded = ⟨deltaLine, deltaStart,
          stop.column - (previous.advance deltaLine deltaStart).column, span.kind⟩ :: rest
  := by
  simp only [encode?, Option.bind_eq_bind, Option.bind_eq_some_iff, difference?_eq_some_iff]
  constructor
  · rintro ⟨⟨line, column⟩, started, stop, stopped, deltaLine, rfl, sent⟩
    dsimp only at sent
    split at sent
    · next same =>
      obtain ⟨deltaStart, column_eq, sent⟩ := Option.bind_eq_some_iff.mp sent
      obtain ⟨rest, sent, encoded_eq⟩ := Option.bind_eq_some_iff.mp sent
      use deltaLine, deltaStart, stop, rest
      rw [previous.advance_of_eq_zero same, ← difference?_eq_some_iff.mp column_eq]
      exact ⟨started, stopped, sent, (Option.some.inj encoded_eq).symm⟩
    · next other =>
      rw [Option.bind_some] at sent
      obtain ⟨rest, sent, encoded_eq⟩ := Option.bind_eq_some_iff.mp sent
      use deltaLine, column, stop, rest
      rw [previous.advance_of_ne_zero other]
      exact ⟨started, stopped, sent, (Option.some.inj encoded_eq).symm⟩
  · rintro ⟨deltaLine, deltaStart, stop, rest, started, stopped, sent, rfl⟩
    refine ⟨_, started, stop, stopped, deltaLine, rfl, ?_⟩
    split
    · next same =>
      rw [previous.advance_of_eq_zero same] at sent ⊢
      rw [difference?_eq_some_iff.mpr rfl, sent]
      rfl
    · next other =>
      rw [previous.advance_of_ne_zero other] at sent ⊢
      rw [sent]
      rfl

/--
Spans that are placed one after another, the first not before `previous`, can be sent as semantic
tokens, and are found again where they were.
-/
theorem exists_encode? {text : Text} {previous : Position} {spans : List KindSpan}
    {placed : List PlacedToken} (are_at : List.Forall₂ (PlacedToken.IsAt text) spans placed)
    (in_order : (previous :: placed.map (·.start)).Pairwise Position.AtOrBefore) :
  ∃ encoded, encode? text previous spans = some encoded ∧ decode previous encoded = placed
  := by
  induction are_at generalizing previous with
  | nil => exact ⟨[], rfl, rfl⟩
  | @cons span token spans placed is_at others ih =>
    obtain ⟨start, length, kind⟩ := token
    obtain ⟨first, in_order⟩ := List.pairwise_cons.mp in_order
    obtain ⟨encoded, sent, found⟩ := ih in_order
    obtain ⟨deltaLine, deltaStart, rfl⟩ :=
      Position.exists_advance (first start List.mem_cons_self)
    obtain rfl : span.kind = kind := is_at.kind_eq
    refine ⟨_, encode?_cons_eq_some_iff.mpr
      ⟨deltaLine, deltaStart, _, encoded, is_at.start_eq, is_at.stop_eq, sent, rfl⟩, ?_⟩
    rw [decode, found, PlacedToken.stop, Nat.add_sub_cancel_left]

/-- The numbers of semantic tokens are bounded by the bytes of the text, or by the legend. -/
theorem numbers_le {text : Text} {previous : Position} {spans : List KindSpan}
    {encoded : List SemanticToken} (sent : encode? text previous spans = some encoded) :
  ∀ token ∈ encoded, ∀ n ∈ token.numbers, n ≤ text.byteSize ∨ n < SemanticKind.legend.length
  := by
  induction spans generalizing previous encoded with
  | nil =>
    obtain rfl := Option.some.inj sent
    simp
  | cons span spans ih =>
    obtain ⟨deltaLine, deltaStart, stop, rest, started, stopped, others, rfl⟩ :=
      encode?_cons_eq_some_iff.mp sent
    intro token among n number
    rcases List.mem_cons.mp among with rfl | among
    · have start_le := Text.positionAt?_le_byteSize started
      have stop_le := Text.positionAt?_le_byteSize stopped
      have kind_lt := span.kind.index_lt
      have delta_le := previous.le_advance deltaLine deltaStart
      simp only [numbers, List.mem_cons, List.not_mem_nil, or_false] at number
      omega
    · apply ih others token among n number

end SemanticToken

/-! ### The tokens of a document -/

namespace LineCache

/-- The tokens of the cached lines that have a kind, at their places. -/
def placedTokens (c : LineCache) : List PlacedToken :=
  c.lines.zipIdx.flatMap fun (cached, n) =>
    (kindSpans cached.tokens.tokens cached.tokens.stop).map (.ofSpan n cached.text)

variable {c : LineCache} {text : Text} {n : Nat} {cached : CachedLine}

/-- The cached lines are those of a text, and their tokens fit. -/
structure Fits (c : LineCache) (text : Text) : Prop where
  texts_eq : c.texts = text.lineContents
  tokensFit : ∀ cached ∈ c.lines, TokensFit cached.text cached.tokens.tokens cached.tokens.stop

namespace Fits

theorem map_content_lines (fits : c.Fits text) :
  text.lines.map (·.content) = c.lines.map (·.text)
  := by
  rw [Text.lines, Text.map_content_linesFrom]
  apply fits.texts_eq.symm

/-- Each cached line is a line of the text. -/
theorem exists_line (fits : c.Fits text) (found : c.lines[n]? = some cached) :
  ∃ line, text.line? n = some line ∧ line.content = cached.text
  := by
  have content_eq : (text.lines.map (·.content))[n]? = some cached.text := by
    rw [fits.map_content_lines, List.getElem?_map, found]
    rfl
  rw [List.getElem?_map, Option.map_eq_some_iff] at content_eq
  apply content_eq

theorem exists_of_mem (fits : c.Fits text) (found : c.lines[n]? = some cached) {s : KindSpan}
    (among : s ∈ kindSpans cached.tokens.tokens cached.tokens.stop) :
  ∃ before between : Text, before ++ between <+: cached.text ∧ between ≠ []
    ∧ before.byteSize = s.span.start ∧ (before ++ between).byteSize = s.span.stop
    ∧ PlacedToken.ofSpan n cached.text s = ⟨⟨n, before.utf16Size⟩, between.utf16Size, s.kind⟩
  := by
  have tokensFit := fits.tokensFit cached (List.mem_of_getElem? found)
  obtain ⟨start, stop, in_order⟩ := tokensFit.bounds_of_mem_kindSpans among
  apply PlacedToken.ofSpan_fits n (tokensFit.isCut _ start) (tokensFit.isCut _ stop) in_order

/-- Placed tokens are not empty, and each ends within its line. -/
theorem placed_within (fits : c.Fits text) {placed : PlacedToken}
    (member : placed ∈ c.placedTokens) :
  0 < placed.length ∧ ∃ line, text.line? placed.start.line = some line
    ∧ placed.stop.column ≤ line.content.utf16Size
  := by
  obtain ⟨⟨cached, n⟩, numbered, mapped⟩ := List.mem_flatMap.mp member
  obtain ⟨s, among, rfl⟩ := List.mem_map.mp mapped
  have found := List.mk_mem_zipIdx_iff_getElem?.mp numbered
  obtain ⟨line, is_line, content_eq⟩ := fits.exists_line found
  obtain ⟨before, between, part, nonempty, -, -, placed_eq⟩ := fits.exists_of_mem found among
  rw [placed_eq]
  refine ⟨Text.utf16Size_pos nonempty, line, is_line, ?_⟩
  obtain ⟨after, text_eq⟩ := part
  rw [content_eq, ← text_eq, Text.utf16Size_append, Text.utf16Size_append]
  apply Nat.le_add_right

/-- Placed tokens do not overlap. -/
theorem placedTokens_in_order (fits : c.Fits text) :
  c.placedTokens.Pairwise fun a b => a.stop.AtOrBefore b.start
  := by
  apply List.pairwise_flatMap.mpr
  constructor
  · rintro ⟨cached, n⟩ numbered
    have found := List.mk_mem_zipIdx_iff_getElem?.mp numbered
    have in_order := (fits.tokensFit cached (List.mem_of_getElem? found)).kindSpans_in_order
    apply List.pairwise_map.mpr
    apply in_order.imp_of_mem
    intro s other among amongOthers before_other
    obtain ⟨before, between, part, -, -, stop_eq, placed_eq⟩ := fits.exists_of_mem found among
    obtain ⟨upTo, behind, otherPart, -, start_eq, -, other_eq⟩ :=
      fits.exists_of_mem found amongOthers
    obtain ⟨gap, rfl⟩ := Text.prefix_of_byteSize_le part
      ((List.prefix_append upTo behind).trans otherPart) (by omega)
    rw [placed_eq, other_eq]
    right
    refine ⟨rfl, ?_⟩
    rw [PlacedToken.stop, Text.utf16Size_append, Text.utf16Size_append]
    apply Nat.le_add_right
  · have numbers : (c.lines.zipIdx.map (·.2)).Pairwise (· < ·) := by
      rw [List.zipIdx_map_snd]
      apply List.pairwise_lt_range' 1
    apply (List.pairwise_map.mp numbers).imp
    rintro ⟨cached, n⟩ ⟨other, m⟩ earlier placed among placedOther amongOthers
    obtain ⟨s, -, rfl⟩ := List.mem_map.mp among
    obtain ⟨s', -, rfl⟩ := List.mem_map.mp amongOthers
    exact .inl earlier

/-- The spans of a line that are sent are placed at its tokens. -/
theorem spansOfTokens_isAt (fits : c.Fits text) {line : Line}
    (found : c.lines[n]? = some cached) (is_line : text.line? n = some line) :
  List.Forall₂ (PlacedToken.IsAt text)
    (SemanticToken.spansOfTokens line.start (min cached.tokens.stop line.content.byteSize)
      cached.tokens.tokens)
    ((kindSpans cached.tokens.tokens cached.tokens.stop).map (.ofSpan n cached.text))
  := by
  obtain ⟨_, same, content_eq⟩ := fits.exists_line found
  obtain rfl := Option.some.inj (is_line.symm.trans same)
  have tokensFit := fits.tokensFit cached (List.mem_of_getElem? found)
  rw [← content_eq] at tokensFit ⊢
  have stop_isCut : line.content.IsCut cached.tokens.stop := by
    apply tokensFit.isCut
    rw [tokenBounds]
    simp
  rw [Nat.min_eq_left stop_isCut.le_byteSize, tokensFit.spansOfTokens_eq,
    List.forall₂_map_left_iff, List.forall₂_map_right_iff, List.forall₂_same]
  intro s among
  obtain ⟨start, stop, in_order⟩ := tokensFit.bounds_of_mem_kindSpans among
  apply PlacedToken.isAt_ofSpan is_line (tokensFit.isCut _ start) (tokensFit.isCut _ stop) in_order

/-- The spans that are sent are placed at the tokens of the lines. -/
theorem spansOfLines_isAt (fits : c.Fits text) :
  List.Forall₂ (PlacedToken.IsAt text) (SemanticToken.spansOfLines text.lines c)
    c.placedTokens
  := by
  have aligned : List.Forall₂ (fun (pair : Line × CachedLine) (numbered : CachedLine × Nat) =>
        c.lines[numbered.2]? = some numbered.1 ∧ text.line? numbered.2 = some pair.1
          ∧ numbered.1 = pair.2)
      (text.lines.zip c.lines) c.lines.zipIdx := by
    have length_eq := congrArg List.length fits.map_content_lines
    rw [List.length_map, List.length_map] at length_eq
    apply List.forall₂_iff_get.mpr
    constructor
    · simp [length_eq]
    · intro n inZip inLines
      simp [Text.line?]
  apply List.rel_flatMap aligned
  rintro ⟨line, _⟩ ⟨cached, n⟩ ⟨found, is_line, rfl⟩
  apply fits.spansOfTokens_isAt found is_line

end Fits

end LineCache

theorem Tokenizer.tokensFit_onLines {registry : TokenizerRegistry} (rules : registry.followsRules)
    {t : Tokenizer} (rule : t.followsRules) {line : Text} {state : LexerState}
    {stop : Option Nat} {result : LineTokens}
    (answer : (t.onLines registry).run line state stop = some result) :
  TokensFit line result.tokens result.stop
  := (covers_tokenizeWithin rules _ rule answer).tokensFit (visiblePart_isPrefix line 0 stop)

namespace SemanticToken

/--
With a tokenizer whose tokens fit in the lines, the tokens of any text can be sent.  The client
finds the tokens of the lines that have a kind, one for each, at their lines and UTF-16 columns:
none of them is empty, each ends within its line and before the next one starts.  The numbers sent
fit in 32 bits when the number of bytes of the text does.
-/
theorem decode_ofLines? {t : LineTokenizer} {maxLength : Option Nat} {text : Text}
    {cache : LineCache}
    (fits : ∀ line state stop result, t.run line state stop = some result →
      TokensFit line result.tokens result.stop)
    (made : LineCache.ofText? t maxLength text = some cache) :
  cache.texts = text.lineContents
    ∧ ∃ encoded, ofLines? text cache = some encoded
      ∧ decode ⟨0, 0⟩ encoded = cache.placedTokens
      ∧ (∀ placed ∈ decode ⟨0, 0⟩ encoded, 0 < placed.length
          ∧ ∃ line, text.line? placed.start.line = some line
            ∧ placed.stop.column ≤ line.content.utf16Size)
      ∧ ((decode ⟨0, 0⟩ encoded).Pairwise fun a b => a.stop.AtOrBefore b.start)
      ∧ (text.byteSize < UInt32.size → ∀ token ∈ encoded, ∀ n ∈ token.numbers, n < UInt32.size)
  := by
  rw [LineCache.ofText?_eq_fullPass?, LineCache.fullPass?_eq_some_iff] at made
  obtain ⟨pass, texts_eq⟩ := made
  have cacheFits : cache.Fits text := by
    use texts_eq
    intro cached among
    obtain ⟨n, found⟩ := List.mem_iff_getElem?.mp among
    apply fits _ _ _ _ (pass.run_text n cached found)
  have in_order :
      ((⟨0, 0⟩ : Position) :: cache.placedTokens.map (·.start)).Pairwise Position.AtOrBefore := by
    apply List.pairwise_cons.mpr
    constructor
    · intro start _
      rcases Nat.eq_zero_or_pos start.line with first | later
      · exact .inr ⟨first.symm, Nat.zero_le _⟩
      · exact .inl later
    · apply List.pairwise_map.mpr
      apply cacheFits.placedTokens_in_order.imp
      rintro a b (earlier | ⟨same, further⟩)
      · exact .inl earlier
      · exact .inr ⟨same, Nat.le_trans (Nat.le_add_right _ _) further⟩
  obtain ⟨encoded, sent, found⟩ := exists_encode? cacheFits.spansOfLines_isAt in_order
  refine ⟨texts_eq, encoded, sent, found, ?_, ?_, ?_⟩
  · intro placed among
    apply cacheFits.placed_within (found ▸ among)
  · rw [found]
    apply cacheFits.placedTokens_in_order
  · intro short token among n number
    have legend_lt : SemanticKind.legend.length < UInt32.size := by decide
    have := numbers_le sent token among n number
    omega

/-- The tokens of styles and scripts are found behind characters of several bytes and units. -/
theorem decode_ofLines?_styles :
  let t := (Tokenizer.lexer styleLexer true).onLines styleRegistry
  let text : Text := "é`b\r\n`😀:x".toList
  (∀ line state stop result, t.run line state stop = some result →
      TokensFit line result.tokens result.stop)
    ∧ ∃ cache encoded, LineCache.ofText? t (some 6) text = some cache
      ∧ ofLines? text cache = some encoded
      ∧ decode ⟨0, 0⟩ encoded
        = [⟨⟨0, 1⟩, 1, .punctuation⟩, ⟨⟨0, 2⟩, 1, .variableName⟩, ⟨⟨1, 0⟩, 1, .punctuation⟩,
            ⟨⟨1, 3⟩, 1, .punctuation⟩]
  := by
  intro t text
  have rules := styleRegistry_followsRules
  have fits : ∀ line state stop result, t.run line state stop = some result →
      TokensFit line result.tokens result.stop := by
    intro line state stop result answer
    apply Tokenizer.tokensFit_onLines rules rfl answer
  have placed : (LineCache.ofText? t (some 6) text).map (·.placedTokens)
      = some [⟨⟨0, 1⟩, 1, .punctuation⟩, ⟨⟨0, 2⟩, 1, .variableName⟩, ⟨⟨1, 0⟩, 1, .punctuation⟩,
          ⟨⟨1, 3⟩, 1, .punctuation⟩] := by
    decide +kernel
  obtain ⟨cache, made, placed_eq⟩ := Option.map_eq_some_iff.mp placed
  obtain ⟨-, encoded, sent, found, -⟩ := decode_ofLines? fits made
  exact ⟨fits, cache, encoded, made, sent, found.trans placed_eq⟩

end SemanticToken

end EditorModes
