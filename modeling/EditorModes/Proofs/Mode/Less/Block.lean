import EditorModes.Proofs.Mode.Less.Forest
import EditorModes.Proofs.Mode.Less.Variable
import Mathlib.Data.List.Forall2

/-!
# The tree of rules

At any place of a stylesheet the rules found so far are well arranged, and so are the open blocks
with the rules in them (`Less.Fits`).  The blocks, in the order of their opening braces, are
the rules that the tree will have, whatever comes (`BlockScan.Follows`).  At the end of a stylesheet
the tree of rules is therefore well arranged and has one rule for each opening brace
(`Less.ruleTree_spec`).
-/

namespace EditorModes.Less

open OutlineNode

variable {t before statement : Text} {c : Char} {brace stop later mid : Nat} {node : OutlineNode}
  {nodes rules : List OutlineNode} {s : BlockScan} {block : OpenBlock}
  {outer opened : List OpenBlock}

/-! ### White space around a text -/

/-- A text is what is left of it without white space at its ends, and white space around that. -/
theorem exists_trim (t : Text) :
  ∃ lead trail : Text, t = lead ++ t.trim ++ trail ∧ t.trimStart = t.trim ++ trail
    ∧ (∀ c ∈ lead, Property.isSpace c = true) ∧ (∀ c ∈ trail, Property.isSpace c = true)
  := by
  let trail : Text := (t.trimStart.reverse.takeWhile Property.isSpace).reverse
  have last : t.trimStart = t.trim ++ trail := by
    have parts :=
      List.takeWhile_append_dropWhile (p := Property.isSpace) (l := t.trimStart.reverse)
    rw [Text.trim, Text.trimEnd, Text.trimEndBy, ← List.reverse_append, parts,
      List.reverse_reverse]
  refine ⟨t.takeWhile Property.isSpace, trail, ?_, last, fun c => List.mem_takeWhile_imp,
    fun c among => List.mem_takeWhile_imp (List.mem_reverse.mp among)⟩
  rw [List.append_assoc, ← last]
  exact List.takeWhile_append_dropWhile.symm

/-- The first character without white space at the start is not white space. -/
theorem isSpace_head?_trimStart (t : Text) :
  ∀ c ∈ t.trimStart.head?, Property.isSpace c = false
  := by
  have ends := List.head?_dropWhile_not Property.isSpace t
  intro c first
  rw [Text.trimStart, Text.trimStartBy] at first
  rw [first] at ends
  exact ends

/-- The last character without white space at the ends is not white space. -/
theorem isSpace_getLast?_trim (t : Text) :
  ∀ c ∈ t.trim.getLast?, Property.isSpace c = false
  := by
  have ends := List.head?_dropWhile_not Property.isSpace t.trimStart.reverse
  intro c last
  rw [Text.trim, Text.trimEnd, Text.trimEndBy, List.getLast?_reverse] at last
  rw [last] at ends
  exact ends

theorem ne_space_of_mark (mark : Property.isSpace c = false) :
  c ≠ ' '
  := by
  rintro rfl
  revert mark
  decide

/-! ### Opening braces -/

/-- The offsets of the opening braces of a text. -/
def openingBraces (t : Text) : List Nat :=
  ((t.indices 0).filter (·.2 = '\x7b')).map (·.1)

/-- A character at the end is one more opening brace, if it is any. -/
theorem openingBraces_append_singleton (t : Text) (c : Char) :
  openingBraces (t ++ [c]) = openingBraces t ++ if c = '\x7b' then [t.byteSize] else []
  := by
  rw [openingBraces, Text.indices_append, Nat.zero_add, List.filter_append, List.map_append]
  congr 1
  split
  · next brace =>
    subst brace
    rfl
  · next other => simp [Text.indices, other]

/--
A rule of a text whose block starts at an opening brace: its name starts a statement, and only white
space stands between its name and the brace.  The rule ends behind a brace that closes it, or at a
given place.
-/
structure IsRuleOf (t : Text) (stop : Nat) (node : OutlineNode) (brace : Nat) : Prop where
  kind_eq : node.kind = .rule
  start_eq : node.span.start = node.selection.start
  opens : Opens t node.span.start
  named : ∃ upTo blanks after : Text, t = upTo ++ blanks ++ '\x7b' :: after
    ∧ upTo.byteSize = node.selection.stop ∧ Text.byteSize (upTo ++ blanks) = brace
    ∧ ∀ c ∈ blanks, Property.isSpace c = true
  brace_lt : brace < node.span.stop
  firm_selection : Firm t node.selection.start ∧ Firm t node.selection.stop
  closes : Opens t node.span.stop ∧ Firm t node.span.stop ∨ node.span.stop = stop

/-- A rule is still one of the text with more text behind. -/
theorem IsRuleOf.append (rule : IsRuleOf t stop node brace) (more : Text) :
  IsRuleOf (t ++ more) stop node brace
  where
  kind_eq := rule.kind_eq
  start_eq := rule.start_eq
  opens := rule.opens.append more
  named := by
    obtain ⟨upTo, blanks, after, rfl, stop_eq, brace_eq, spaces⟩ := rule.named
    exact ⟨upTo, blanks, after ++ more, by simp, stop_eq, brace_eq, spaces⟩
  brace_lt := rule.brace_lt
  firm_selection := ⟨rule.firm_selection.1.append more, rule.firm_selection.2.append more⟩
  closes := rule.closes.imp (fun ⟨opens, firm⟩ => ⟨opens.append more, firm.append more⟩) id

/-- The name of a block is its statement without white space at the ends. -/
theorem exists_selection (prior statement : Text) :
  ∃ lead trail : Text, statement = lead ++ statement.trim ++ trail
    ∧ statement.trimStart = statement.trim ++ trail
    ∧ (∀ c ∈ lead, Property.isSpace c = true) ∧ (∀ c ∈ trail, Property.isSpace c = true)
    ∧ (OpenBlock.ofStatement statement (Text.byteSize (prior ++ statement))).selection
      = ⟨Text.byteSize (prior ++ lead), Text.byteSize (prior ++ lead ++ statement.trim)⟩
  := by
  obtain ⟨lead, trail, parts, trimStart_eq, lead_spaces, trail_spaces⟩ := exists_trim statement
  refine ⟨lead, trail, parts, trimStart_eq, lead_spaces, trail_spaces, ?_⟩
  have start_eq : Text.byteSize (prior ++ statement) - statement.trimStart.byteSize
      = Text.byteSize (prior ++ lead) := by
    have brace_eq : Text.byteSize (prior ++ statement)
        = Text.byteSize (prior ++ lead) + statement.trimStart.byteSize := by
      conv_lhs => rw [parts]
      rw [List.append_assoc lead, ← trimStart_eq, ← List.append_assoc, Text.byteSize_append]
    rw [brace_eq, Nat.add_sub_cancel]
  rw [OpenBlock.ofStatement, start_eq, Text.byteSize_append (prior ++ lead)]

/-- The ends of the name of a block are beside its characters, or before the opening brace. -/
theorem firm_selection {lead trail : Text} (prior : Text)
    (parts : statement = lead ++ statement.trim ++ trail)
    (trimStart_eq : statement.trimStart = statement.trim ++ trail) :
  Firm (prior ++ statement ++ ['\x7b']) (Text.byteSize (prior ++ lead))
    ∧ Firm (prior ++ statement ++ ['\x7b']) (Text.byteSize (prior ++ lead ++ statement.trim))
  := by
  have text_eq : prior ++ statement ++ ['\x7b']
      = prior ++ lead ++ (statement.trimStart ++ ['\x7b']) := by
    conv_lhs => rw [parts]
    simp [trimStart_eq]
  have start : Firm (prior ++ statement ++ ['\x7b']) (Text.byteSize (prior ++ lead)) := by
    rw [text_eq]
    cases rest_eq : statement.trimStart with
    | nil => exact ⟨prior ++ lead, '\x7b', [], rfl, by decide, .inl rfl⟩
    | cons c rest =>
      have mark := isSpace_head?_trimStart statement c (by rw [rest_eq]; rfl)
      exact ⟨prior ++ lead, c, rest ++ ['\x7b'], rfl, ne_space_of_mark mark, .inl rfl⟩
  refine ⟨start, ?_⟩
  rcases List.eq_nil_or_concat statement.trim with none_left | ⟨body, c, trim_eq⟩
  · rwa [none_left, List.append_nil]
  · have mark := isSpace_getLast?_trim statement c (by rw [trim_eq]; simp)
    refine ⟨prior ++ lead ++ body, c, trail ++ ['\x7b'], ?_, ne_space_of_mark mark, .inr ?_⟩
    · rw [text_eq, trimStart_eq, trim_eq]
      simp
    · rw [trim_eq, List.concat_eq_append, ← List.append_assoc]

theorem isRuleOf_alone_iff :
  IsRuleOf t stop node.alone brace ↔ IsRuleOf t stop node brace
  := by
  obtain ⟨name, kind, span, selection, children⟩ := node
  exact ⟨fun ⟨a, b, c, d, e, f, g⟩ => ⟨a, b, c, d, e, f, g⟩,
    fun ⟨a, b, c, d, e, f, g⟩ => ⟨a, b, c, d, e, f, g⟩⟩

/-- The block behind a statement makes a rule of the text, wherever it ends. -/
theorem isRuleOf_ofStatement {prior : Text} (ends : (lastMark prior).all isStatementEnd = true)
    (statement : Text) (inside : Text.byteSize (prior ++ statement) < stop) :
  IsRuleOf (prior ++ statement ++ ['\x7b']) stop
    ((OpenBlock.ofStatement statement (Text.byteSize (prior ++ statement))).toNode stop)
    (Text.byteSize (prior ++ statement))
  := by
  obtain ⟨lead, trail, parts, trimStart_eq, lead_spaces, trail_spaces, selection_eq⟩ :=
    exists_selection prior statement
  have text_eq : prior ++ statement = prior ++ lead ++ statement.trim ++ trail := by
    conv_lhs => rw [parts]
    simp
  rw [OpenBlock.toNode, selection_eq]
  refine ⟨rfl, rfl, ⟨prior ++ lead, statement.trim ++ trail ++ ['\x7b'], ?_, rfl, ?_⟩,
    ⟨_, trail, [], by rw [text_eq], rfl, by rw [text_eq], trail_spaces⟩, inside,
    firm_selection prior parts trimStart_eq, .inr rfl⟩
  · rw [text_eq]
    simp
  · rwa [lastMark_append_of_spaces prior lead_spaces]

/-- The name of a block stands behind the statement before and before its opening brace. -/
theorem selection_ofStatement (prior statement : Text) :
  let block := OpenBlock.ofStatement statement (Text.byteSize (prior ++ statement))
  prior.byteSize ≤ block.selection.start ∧ block.selection.start ≤ block.selection.stop
    ∧ block.selection.stop ≤ block.brace
  := by
  intro block
  obtain ⟨lead, trail, parts, -, -, -, selection_eq⟩ := exists_selection prior statement
  have brace_eq : block.brace
      = prior.byteSize + (lead.byteSize + statement.trim.byteSize + trail.byteSize) := by
    change Text.byteSize (prior ++ statement) = _
    conv_lhs => rw [parts]
    simp only [Text.byteSize_append]
  rw [selection_eq, brace_eq]
  simp only [Text.byteSize_append]
  omega

/-! ### Open blocks -/

/--
Rules between the start of a text and an offset, the last of which are still open, the innermost
first: each is behind the rules found before it, and holds rules behind its opening brace.
-/
def Fits (rules : List OutlineNode) : (opened : List OpenBlock) → (stop : Nat) → Prop
  | [], stop => Forest 0 stop rules
  | block :: outer, stop =>
    block.selection.start ≤ block.selection.stop ∧ block.selection.stop ≤ block.brace
      ∧ Forest (block.brace + 1) stop block.children ∧ Fits rules outer block.selection.start

/-- Rules that fit before an offset fit before a later one. -/
theorem Fits.mono (fits : Fits rules opened stop) (le_later : stop ≤ later) :
  Fits rules opened later
  := by
  cases opened with
  | nil => exact Forest.mono fits (Nat.le_refl _) le_later
  | cons block outer =>
    obtain ⟨start_le, le_brace, children, fits⟩ := fits
    exact ⟨start_le, le_brace, children.mono (Nat.le_refl _) le_later, fits⟩

/-- The innermost open block makes a rule wherever it ends. -/
theorem Fits.forest_toNode (fits : Fits rules (block :: outer) mid) (mid_le : mid ≤ stop)
    (more : Forest mid stop nodes) :
  Forest block.selection.start stop
    [{ block with children := block.children ++ nodes }.toNode stop]
  := by
  obtain ⟨start_le, le_brace, children, -⟩ := fits
  have := children.le
  have below : Forest block.selection.start stop (block.children ++ nodes) :=
    (children.append more).mono (by omega) (Nat.le_refl _)
  have nonempty : block.selection.start < stop := by omega
  have named : block.selection.stop ≤ stop := by omega
  exact .cons (Nat.le_refl _) ⟨nonempty, ⟨Nat.le_refl _, named⟩, start_le, nofun⟩ below
    (.nil (Nat.le_refl _))

/-- A rule that is complete fits behind those found before it. -/
theorem Fits.addRule (fits : Fits s.rules s.opened mid) (forest : Forest mid stop [node]) :
  Fits (s.addRule node).rules (s.addRule node).opened stop
  := by
  rw [BlockScan.addRule]
  cases opened_eq : s.opened with
  | nil =>
    rw [opened_eq] at fits
    exact Forest.append fits forest
  | cons block outer =>
    rw [opened_eq] at fits
    obtain ⟨start_le, le_brace, children, fits⟩ := fits
    exact ⟨start_le, le_brace, children.append forest, fits⟩

/-- Open blocks that all end at an offset are well arranged. -/
theorem Fits.forest_closeAll (fits : Fits rules opened mid) (forest : Forest mid stop nodes) :
  Forest 0 stop (rules ++ BlockScan.closeAll stop nodes opened)
  := by
  induction opened generalizing mid nodes with
  | nil => exact Forest.append fits forest
  | cons block outer ih =>
    rw [BlockScan.closeAll]
    exact ih fits.2.2.2 (fits.forest_toNode forest.le forest)

/-! ### The order of rules -/

/-- The rules that open blocks make when they end at an offset, with those in them. -/
def openHeads (stop : Nat) (opened : List OpenBlock) : List OutlineNode :=
  opened.reverse.flatMap fun block =>
    (block.toNode stop).alone :: (preorder block.children).map alone

/-- All rules found, each alone, when the open blocks end at an offset. -/
def BlockScan.heads (s : BlockScan) (stop : Nat) : List OutlineNode :=
  (preorder s.rules).map alone ++ openHeads stop s.opened

theorem openHeads_cons (stop : Nat) (block : OpenBlock) (outer : List OpenBlock) :
  openHeads stop (block :: outer) = openHeads stop outer
    ++ (block.toNode stop).alone :: (preorder block.children).map alone
  := by
  simp [openHeads]

/-- A rule that is complete comes last. -/
theorem heads_addRule (s : BlockScan) (node : OutlineNode) (stop : Nat) :
  (s.addRule node).heads stop = s.heads stop ++ (preorder [node]).map alone
  := by
  rw [BlockScan.addRule]
  cases opened_eq : s.opened with
  | nil => simp [BlockScan.heads, opened_eq, openHeads]
  | cons block outer =>
    have same : ({ block with children := block.children ++ [node] }.toNode stop).alone
        = (block.toNode stop).alone := rfl
    simp only [BlockScan.heads, opened_eq, openHeads_cons, same, preorder_append, List.map_append,
      List.append_assoc, List.cons_append]

theorem statement_addRule (s : BlockScan) (node : OutlineNode) :
  (s.addRule node).statement = s.statement
  := by
  rw [BlockScan.addRule]
  cases s.opened <;> rfl

/-- Open blocks that end are the rules that they make. -/
theorem preorder_closeAll (stop : Nat) (nodes : List OutlineNode) (opened : List OpenBlock) :
  (preorder (BlockScan.closeAll stop nodes opened)).map alone
    = openHeads stop opened ++ (preorder nodes).map alone
  := by
  induction opened generalizing nodes with
  | nil => rfl
  | cons block outer ih =>
    have children_eq : ({ block with children := block.children ++ nodes }.toNode stop).children
        = block.children ++ nodes := rfl
    have same : ({ block with children := block.children ++ nodes }.toNode stop).alone
        = (block.toNode stop).alone := rfl
    rw [BlockScan.closeAll, ih, openHeads_cons, preorder_cons, children_eq, List.map_cons, same]
    simp

/-! ### Reading on -/

/-- What a character at a byte offset makes of what was found before it. -/
inductive BlockScan.Step (s : BlockScan) (offset : Nat) : Char → BlockScan → Prop
  | opening : Step s offset '\x7b'
    { s with statement := [], opened := .ofStatement s.statement offset :: s.opened }
  | lone : s.opened = [] → Step s offset '\x7d'
    { s with statement := [], unexpected := s.unexpected ++ [offset] }
  | closing {block : OpenBlock} {outer : List OpenBlock} : s.opened = block :: outer →
    Step s offset '\x7d' (closeBlock { s with statement := [] } block outer (offset + 1))
  | ending : Step s offset ';' { s with statement := [] }
  | inner {c : Char} : isStatementEnd c = false →
    Step s offset c { s with statement := s.statement ++ [c] }

/-- What does not end a statement is no brace. -/
theorem ne_brace_of_inner (plain : isStatementEnd c = false) :
  c ≠ '\x7b' ∧ c ≠ '\x7d'
  := by
  constructor
  · rintro rfl
    revert plain
    decide
  · rintro rfl
    revert plain
    decide

/-- Each character is read in one of these ways. -/
theorem BlockScan.step (s : BlockScan) (offset : Nat) (c : Char) :
  s.Step offset c (s.read offset c)
  := by
  rw [read]
  split
  · next brace =>
    subst brace
    exact .opening
  · next not_opening =>
    split
    · next brace =>
      subst brace
      split
      · next opened_eq => exact .lone opened_eq
      · next block outer opened_eq => exact .closing opened_eq
    · next not_closing =>
      split
      · next semicolon =>
        subst semicolon
        exact .ending
      · next inside => exact .inner (by simp [isStatementEnd, not_opening, not_closing, inside])

theorem all_lastMark_append (before : Text) (ends : isStatementEnd c = true) :
  (lastMark (before ++ [c])).all isStatementEnd = true
  := by
  rw [lastMark_append_singleton, isSpace_of_isStatementEnd ends]
  exact ends

/-- Related lists stay related when one member is exchanged. -/
theorem forall₂_exchange {R S : OutlineNode → Nat → Prop} {first last : List OutlineNode}
    {braces : List Nat} (related : List.Forall₂ R (first ++ node :: last) braces)
    (others : ∀ other brace, R other brace → S other brace) {node' : OutlineNode}
    (exchanged : ∀ brace, R node brace → S node' brace) :
  List.Forall₂ S (first ++ node' :: last) braces
  := by
  induction first generalizing braces with
  | nil =>
    cases related with
    | cons here rest => exact .cons (exchanged _ here) (rest.imp others)
  | cons other first ih =>
    cases related with
    | cons here rest => exact .cons (others _ _ here) (ih rest)

/-- A block that a brace closes makes a rule of the text, whatever comes behind. -/
theorem IsRuleOf.close (rule : IsRuleOf before stop (block.toNode stop).alone brace) :
  IsRuleOf (before ++ ['\x7d']) stop (block.toNode (before.byteSize + 1)).alone brace
  where
  kind_eq := rfl
  start_eq := rfl
  opens := rule.opens.append _
  named := (rule.append _).named
  brace_lt := by
    obtain ⟨upTo, blanks, after, rfl, -, rfl, -⟩ := rule.named
    change _ < Text.byteSize (upTo ++ blanks ++ '\x7b' :: after) + 1
    rw [Text.byteSize_append (upTo ++ blanks)]
    omega
  firm_selection := (rule.append _).firm_selection
  closes := by
    have stop_eq : Text.byteSize (before ++ ['\x7d']) = before.byteSize + 1 := by
      rw [Text.byteSize_append]
      rfl
    exact .inl ⟨⟨before ++ ['\x7d'], [], by simp, stop_eq, all_lastMark_append before (by decide)⟩,
      ⟨before, '\x7d', [], rfl, by decide, .inr stop_eq⟩⟩

/-- What was found of a text. -/
structure BlockScan.Follows (s : BlockScan) (before : Text) : Prop where
  /-- The statement that goes on started behind the end of one, and all rules end before it. -/
  statement : ∃ prior : Text, before = prior ++ s.statement
    ∧ (lastMark prior).all isStatementEnd = true ∧ Fits s.rules s.opened prior.byteSize
  /-- There is one rule for each opening brace, in their order, wherever the open blocks end. -/
  heads : ∀ stop, before.byteSize ≤ stop →
    List.Forall₂ (IsRuleOf before stop) (s.heads stop) (openingBraces before)

namespace BlockScan.Follows

/-- Nothing is found of the empty text. -/
theorem nil :
  ({} : BlockScan).Follows []
  where
  statement := ⟨[], rfl, rfl, .nil (Nat.le_refl _)⟩
  heads stop _ := by
    rw [show ({} : BlockScan).heads stop = [] by simp [BlockScan.heads, openHeads]]
    exact .nil

theorem fits (follows : s.Follows before) (c : Char) :
  Fits s.rules s.opened (Text.byteSize (before ++ [c]))
  := by
  obtain ⟨prior, rfl, -, fits⟩ := follows.statement
  apply fits.mono
  simp only [Text.byteSize_append]
  omega

theorem heads_append (follows : s.Follows before) (c : Char)
    (later : Text.byteSize (before ++ [c]) ≤ stop) :
  List.Forall₂ (IsRuleOf (before ++ [c]) stop) (s.heads stop) (openingBraces before)
  := by
  rw [Text.byteSize_append] at later
  exact (follows.heads stop (by omega)).imp fun _ _ rule => rule.append [c]

/-- An opening brace starts a block. -/
theorem openBlock (follows : s.Follows before) :
  ({ s with
    statement := []
    opened := .ofStatement s.statement before.byteSize :: s.opened } : BlockScan).Follows
      (before ++ ['\x7b'])
  := by
  obtain ⟨prior, before_eq, ends, fits⟩ := follows.statement
  obtain ⟨prior_le, start_le, le_brace⟩ := selection_ofStatement prior s.statement
  rw [← before_eq] at prior_le start_le le_brace
  constructor
  · refine ⟨before ++ ['\x7b'], by simp, all_lastMark_append before (by decide), start_le, le_brace,
      .nil ?_, fits.mono prior_le⟩
    rw [Text.byteSize_append]
    exact Nat.le_refl _
  · intro stop later
    have found := follows.heads_append '\x7b' later
    have inside : before.byteSize < stop := by
      rw [Text.byteSize_append] at later
      exact later
    have opened := isRuleOf_ofStatement ends s.statement (before_eq ▸ inside)
    rw [← before_eq] at opened
    rw [openingBraces_append_singleton, if_pos rfl]
    simp only [BlockScan.heads, openHeads_cons]
    rw [← List.append_assoc]
    refine List.rel_append found (.cons opened ?_)
    rw [OpenBlock.ofStatement, preorder_nil]
    exact .nil

/-- A closing brace ends the innermost block. -/
theorem closeBlock (follows : s.Follows before) (opened_eq : s.opened = block :: outer) :
  (({ s with statement := [] } : BlockScan).closeBlock block outer (before.byteSize + 1)).Follows
    (before ++ ['\x7d'])
  := by
  have stop_eq : Text.byteSize (before ++ ['\x7d']) = before.byteSize + 1 := by
    rw [Text.byteSize_append]
    rfl
  have fits := follows.fits '\x7d'
  rw [opened_eq, stop_eq] at fits
  have forest := fits.forest_toNode (Nat.le_refl _) (.nil (Nat.le_refl _))
  rw [List.append_nil] at forest
  rw [BlockScan.closeBlock]
  constructor
  · refine ⟨before ++ ['\x7d'], ?_, all_lastMark_append before (by decide), ?_⟩
    · rw [statement_addRule, List.append_nil]
    · rw [stop_eq]
      exact Fits.addRule fits.2.2.2 forest
  · intro stop later
    have found := follows.heads stop (by omega)
    rw [BlockScan.heads, opened_eq, openHeads_cons, ← List.append_assoc] at found
    have children_eq : (block.toNode (before.byteSize + 1)).children = block.children := rfl
    rw [openingBraces_append_singleton, if_neg (by decide), List.append_nil, heads_addRule,
      BlockScan.heads, preorder_cons, children_eq, preorder_nil, List.append_nil, List.map_cons]
    exact forall₂_exchange found (fun _ _ rule => rule.append _) fun _ rule => rule.close

/-- A character that is no brace leaves the rules that were found. -/
theorem leave (follows : s.Follows before) (other : c ≠ '\x7b') {found : BlockScan}
    (rules_eq : found.rules = s.rules) (opened_eq : found.opened = s.opened)
    (later : Text.byteSize (before ++ [c]) ≤ stop) :
  List.Forall₂ (IsRuleOf (before ++ [c]) stop) (found.heads stop) (openingBraces (before ++ [c]))
  := by
  have same : found.heads stop = s.heads stop := by
    rw [BlockScan.heads, rules_eq, opened_eq, BlockScan.heads]
  rw [openingBraces_append_singleton, if_neg other, List.append_nil, same]
  exact follows.heads_append c later

/-- A statement ends without a block that does. -/
theorem endStatement (follows : s.Follows before) (ends : isStatementEnd c = true)
    (other : c ≠ '\x7b') {found : BlockScan} (none_left : found.statement = [])
    (rules_eq : found.rules = s.rules) (opened_eq : found.opened = s.opened) :
  found.Follows (before ++ [c])
  where
  statement := by
    refine ⟨before ++ [c], ?_, all_lastMark_append before ends, ?_⟩
    · rw [none_left, List.append_nil]
    · rw [rules_eq, opened_eq]
      exact follows.fits c
  heads _ later := follows.leave other rules_eq opened_eq later

/-- What was found goes on with one more character. -/
theorem read (follows : s.Follows before) (c : Char) :
  (s.read before.byteSize c).Follows (before ++ [c])
  := by
  have step := s.step before.byteSize c
  generalize s.read before.byteSize c = found at step ⊢
  cases step with
  | opening => exact follows.openBlock
  | lone opened_eq => exact follows.endStatement (by decide) (by decide) rfl rfl rfl
  | closing opened_eq => exact follows.closeBlock opened_eq
  | ending => exact follows.endStatement (by decide) (by decide) rfl rfl rfl
  | inner plain =>
    obtain ⟨prior, before_eq, ends, fits⟩ := follows.statement
    have other := (ne_brace_of_inner plain).1
    refine ⟨⟨prior, ?_, ends, fits⟩, fun stop later => follows.leave other rfl rfl later⟩
    conv_lhs => rw [before_eq]
    exact List.append_assoc _ _ _

/-- What was found of a text goes on with the text behind it. -/
theorem readAll (follows : s.Follows before) (t : Text) :
  (s.readAll before.byteSize t).Follows (before ++ t)
  := by
  induction t generalizing before s with
  | nil => rwa [BlockScan.readAll, List.append_nil]
  | cons c t ih =>
    have further := ih (follows.read c)
    rw [Text.byteSize_append, List.append_assoc] at further
    exact further

end BlockScan.Follows

theorem map_alone_ruleTree (masked : Text) :
  (preorder (ruleTree masked)).map alone = (BlockScan.ofMasked masked).heads masked.byteSize
  := by
  rw [ruleTree, preorder_append, List.map_append, preorder_closeAll, preorder_nil, List.map_nil,
    List.append_nil, BlockScan.heads]

/--
The tree of rules is well arranged, and its rules in their order are those of the opening braces in
theirs.
-/
theorem ruleTree_spec (masked : Text) :
  Forest 0 masked.byteSize (ruleTree masked)
    ∧ List.Forall₂ (IsRuleOf masked masked.byteSize) (preorder (ruleTree masked))
      (openingBraces masked)
  := by
  have follows : (BlockScan.ofMasked masked).Follows masked := BlockScan.Follows.nil.readAll masked
  constructor
  · obtain ⟨prior, masked_eq, -, fits⟩ := follows.statement
    apply fits.forest_closeAll (.nil _)
    conv_rhs => rw [masked_eq]
    rw [Text.byteSize_append]
    apply Nat.le_add_right
  · have heads := follows.heads masked.byteSize (Nat.le_refl _)
    rw [← map_alone_ruleTree, List.forall₂_map_left_iff] at heads
    exact heads.imp fun _ _ => isRuleOf_alone_iff.mp

end EditorModes.Less
