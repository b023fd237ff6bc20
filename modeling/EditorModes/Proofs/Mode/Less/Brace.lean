import EditorModes.Mode.Less.Worker
import EditorModes.Proofs.Mode.Less.Stylesheet
import Mathlib.Data.List.Nodup

/-!
# Braces and their partners

Two braces are partners when the text between them is balanced (`Less.Partners`).  Reading a text
takes it apart at the braces that have no partner, with balanced texts in between: closing ones
first, then opening ones that are still open (`Less.Parted`).  Each other brace has its partner
within one of these texts.  What validation reports are therefore the braces without a partner
(`Worker.problems?_lone_braces`).
-/

namespace EditorModes

/-- A character stands at a byte offset of a text. -/
def Text.HasAt (t : Text) (offset : Nat) (c : Char) : Prop :=
  ∃ before after : Text, t = before ++ c :: after ∧ before.byteSize = offset

/-- A character in one of two places is one of those before, between and behind them. -/
theorem append_cons_eq_append_cons {s u before after : List α} {c d : α}
    (same : s ++ d :: u = before ++ c :: after) :
  (∃ more, s = before ++ c :: more ∧ after = more ++ d :: u)
    ∨ (s = before ∧ d = c ∧ u = after)
    ∨ ∃ more, before = s ++ d :: more ∧ u = more ++ c :: after
  := by
  rcases List.append_eq_append_iff.mp same with ⟨more, rfl, rest⟩ | ⟨more, rfl, rest⟩
  · cases more with
    | nil =>
      obtain ⟨rfl, rfl⟩ := List.cons.inj rest
      exact .inr (.inl ⟨by simp, rfl, rfl⟩)
    | cons e more =>
      obtain ⟨rfl, rfl⟩ := List.cons.inj rest
      exact .inr (.inr ⟨more, rfl, rfl⟩)
  · cases more with
    | nil =>
      obtain ⟨rfl, rfl⟩ := List.cons.inj rest
      exact .inr (.inl ⟨by simp, rfl, rfl⟩)
    | cons e more =>
      obtain ⟨rfl, rfl⟩ := List.cons.inj rest
      exact .inl ⟨more, rfl, rfl⟩

namespace Less

variable {s t u before after inside masked : Text} {c : Char} {offset opening closing : Nat}
  {lone opened : List Nat}

/-! ### Balanced texts -/

/-- A text whose braces come in pairs, each around a balanced text. -/
inductive Balanced : Text → Prop
  | nil : Balanced []
  | cons {c : Char} {t : Text} : c ≠ '\x7b' → c ≠ '\x7d' → Balanced t → Balanced (c :: t)
  | block {inside t : Text} : Balanced inside → Balanced t →
    Balanced ('\x7b' :: inside ++ '\x7d' :: t)

/-- Balanced texts may follow each other. -/
theorem Balanced.append (first : Balanced s) (second : Balanced t) :
  Balanced (s ++ t)
  := by
  induction first with
  | nil => exact second
  | cons not_opening not_closing _ ih => exact .cons not_opening not_closing ih
  | block inner _ _ ih =>
    rw [List.append_assoc]
    exact .block inner ih

theorem Balanced.single (not_opening : c ≠ '\x7b') (not_closing : c ≠ '\x7d') :
  Balanced [c]
  := .cons not_opening not_closing .nil

theorem braceBalance_append (s t : Text) :
  braceBalance (s ++ t) = braceBalance s + braceBalance t
  := by
  simp only [braceBalance, List.count_append]
  omega

/-- A character at the start changes the balance if it is a brace. -/
theorem braceBalance_cons (c : Char) (t : Text) :
  braceBalance (c :: t)
    = (if c = '\x7b' then 1 else if c = '\x7d' then -1 else 0) + braceBalance t
  := by
  have parts := braceBalance_append [c] t
  rw [List.singleton_append] at parts
  rw [parts]
  congr 1
  split
  · next brace =>
    subst brace
    decide
  · next not_opening =>
    split
    · next brace =>
      subst brace
      decide
    · next not_closing => simp [braceBalance, not_opening, not_closing]

theorem braceBalance_cons_opening (t : Text) :
  braceBalance ('\x7b' :: t) = 1 + braceBalance t
  := by
  rw [braceBalance_cons, if_pos rfl]

theorem braceBalance_cons_closing (t : Text) :
  braceBalance ('\x7d' :: t) = -1 + braceBalance t
  := by
  rw [braceBalance_cons, if_neg (by decide), if_pos rfl]

/-- A balanced text opens as many blocks as it closes. -/
theorem Balanced.braceBalance_eq (balanced : Balanced t) :
  braceBalance t = 0
  := by
  induction balanced with
  | nil => rfl
  | cons not_opening not_closing _ ih =>
    rw [braceBalance_cons, if_neg not_opening, if_neg not_closing, ih]
    rfl
  | block _ _ ih_inside ih =>
    rw [braceBalance_append, braceBalance_cons_opening, braceBalance_cons_closing, ih_inside, ih]
    rfl

/-- Up to no place does a balanced text close more blocks than it has opened. -/
theorem Balanced.le_braceBalance (balanced : Balanced t) {part : Text} (first : part <+: t) :
  0 ≤ braceBalance part
  := by
  induction balanced generalizing part with
  | nil =>
    rw [List.prefix_nil.mp first]
    apply Int.le_refl
  | cons not_opening not_closing _ ih =>
    rcases List.prefix_cons_iff.mp first with rfl | ⟨part, rfl, rest⟩
    · apply Int.le_refl
    · rw [braceBalance_cons, if_neg not_opening, if_neg not_closing, Int.zero_add]
      exact ih rest
  | @block inside t inner _ ih_inside ih =>
    rcases List.prefix_or_prefix_of_prefix first (List.prefix_append _ _) with first | ⟨more, rfl⟩
    · rcases List.prefix_cons_iff.mp first with rfl | ⟨part, rfl, rest⟩
      · apply Int.le_refl
      · rw [braceBalance_cons_opening]
        have := ih_inside rest
        omega
    · rw [braceBalance_append, braceBalance_cons_opening, inner.braceBalance_eq]
      rcases List.prefix_cons_iff.mp ((List.prefix_append_right_inj _).mp first) with
        rfl | ⟨part, rfl, rest⟩
      · decide
      · rw [braceBalance_cons_closing]
        have := ih rest
        omega

/-! ### Partners -/

/-- Two braces, by their byte offsets, with a balanced text between them. -/
def Partners (t : Text) (opening closing : Nat) : Prop :=
  ∃ before inside after : Text, t = before ++ '\x7b' :: inside ++ '\x7d' :: after
    ∧ Balanced inside ∧ before.byteSize = opening
    ∧ Text.byteSize (before ++ '\x7b' :: inside) = closing

/-- A byte offset with a brace that has a partner. -/
def Partnered (t : Text) (offset : Nat) : Prop :=
  ∃ other, Partners t offset other ∨ Partners t other offset

/-- The brace itself. -/
def Imbalance.brace : Imbalance → Char
  | unexpected => '\x7d'
  | missing => '\x7b'

theorem Imbalance.brace_cases (i : Imbalance) :
  i.brace = '\x7b' ∨ i.brace = '\x7d'
  := by
  cases i with
  | unexpected => exact .inr rfl
  | missing => exact .inl rfl

/-- A brace of a text that has no partner there. -/
def LoneBrace.IsOf (b : LoneBrace) (t : Text) : Prop :=
  t.HasAt b.offset b.imbalance.brace ∧ ¬ Partnered t b.offset

/-- Partners stay partners with more text before and behind. -/
theorem Partners.embed (partners : Partners t opening closing) (before after : Text) :
  Partners (before ++ t ++ after) (before.byteSize + opening) (before.byteSize + closing)
  := by
  obtain ⟨first, inside, last, rfl, balanced, rfl, rfl⟩ := partners
  refine ⟨before ++ first, inside, last ++ after, ?_, balanced, ?_, ?_⟩
  · simp
  · apply Text.byteSize_append
  · rw [List.append_assoc, Text.byteSize_append]

/-- A brace keeps its partner with more text before and behind. -/
theorem Partnered.embed (partnered : Partnered t offset) (before after : Text) :
  Partnered (before ++ t ++ after) (before.byteSize + offset)
  := by
  obtain ⟨other, partners | partners⟩ := partnered
  · exact ⟨_, .inl (partners.embed before after)⟩
  · exact ⟨_, .inr (partners.embed before after)⟩

theorem Partnered.append (partnered : Partnered t offset) (after : Text) :
  Partnered (t ++ after) offset
  := by
  have embedded := partnered.embed [] after
  rwa [Text.byteSize_nil, Nat.zero_add] at embedded

theorem Partnered.behind (partnered : Partnered t offset) (before : Text) :
  Partnered (before ++ t) (before.byteSize + offset)
  := by
  have embedded := partnered.embed before []
  rwa [List.append_nil] at embedded

/-- In a balanced text all braces have partners. -/
theorem Balanced.partnered (balanced : Balanced t) (parts : t = before ++ c :: after)
    (brace : c = '\x7b' ∨ c = '\x7d') :
  Partnered t before.byteSize
  := by
  induction balanced generalizing before after with
  | nil => simp at parts
  | @cons d t not_opening not_closing _ ih =>
    rcases List.cons_eq_append_iff.mp parts with ⟨rfl, first⟩ | ⟨before, rfl, rest⟩
    · obtain ⟨rfl, -⟩ := List.cons.inj first
      rcases brace with rfl | rfl <;> contradiction
    · exact (ih rest).behind [d]
  | @block inside t inner _ ih_inside ih =>
    rcases append_cons_eq_append_cons parts with ⟨more, first, -⟩ | ⟨rfl, -, -⟩ | ⟨more, rfl, rest⟩
    · rcases List.cons_eq_append_iff.mp first with ⟨rfl, -⟩ | ⟨before, rfl, rest⟩
      · exact ⟨_, .inl ⟨[], inside, t, rfl, inner, rfl, rfl⟩⟩
      · exact ((ih_inside rest).behind ['\x7b']).append _
    · exact ⟨0, .inr ⟨[], inside, t, rfl, inner, rfl, rfl⟩⟩
    · have behind := (ih rest).behind ('\x7b' :: inside ++ ['\x7d'])
      rw [← Text.byteSize_append] at behind
      simpa using behind

/-! ### Taking a text apart at the braces without a partner -/

/--
A text, the offsets of the closing braces without a partner in their order, and those of the
opening ones, the last one first; the rest of the text is balanced between them.
-/
inductive Parted : Text → List Nat → List Nat → Prop
  | balanced {t : Text} : Balanced t → Parted t [] []
  | closing {t u : Text} {lone : List Nat} : Parted t lone [] → Balanced u →
    Parted (t ++ '\x7d' :: u) (lone ++ [t.byteSize]) []
  | opening {t u : Text} {lone opened : List Nat} : Parted t lone opened → Balanced u →
    Parted (t ++ '\x7b' :: u) lone (t.byteSize :: opened)

namespace Parted

/-- A text goes on with a balanced one. -/
theorem append (parted : Parted t lone opened) (balanced : Balanced u) :
  Parted (t ++ u) lone opened
  := by
  cases parted with
  | balanced first => exact .balanced (first.append balanced)
  | closing first second =>
    rw [List.append_assoc]
    exact .closing first (second.append balanced)
  | opening first second =>
    rw [List.append_assoc]
    exact .opening first (second.append balanced)

/-- A closing brace is the partner of the last opening one that is still open. -/
theorem close (parted : Parted t lone (opening :: opened)) :
  Parted (t ++ ['\x7d']) lone opened
  := by
  cases parted with
  | @opening t u _ _ first second =>
    have whole : t ++ '\x7b' :: u ++ ['\x7d'] = t ++ ('\x7b' :: u ++ '\x7d' :: []) := by simp
    rw [whole]
    exact first.append (.block second .nil)

theorem balanced_of_nil (parted : Parted t lone opened) (none_lone : lone = [])
    (none_open : opened = []) :
  Balanced t
  := by
  cases parted with
  | balanced balanced => exact balanced
  | closing => simp at none_lone
  | opening => nomatch none_open

/-- The braces without a partner stand in the text and come in order. -/
theorem in_order (parted : Parted t lone opened) :
  (lone ++ opened.reverse).Pairwise (· < ·) ∧ ∀ offset ∈ lone ++ opened.reverse, offset < t.byteSize
  := by
  have further {t u : Text} {offsets : List Nat} (brace : Char)
      (first : offsets.Pairwise (· < ·) ∧ ∀ offset ∈ offsets, offset < t.byteSize) :
      (offsets ++ [t.byteSize]).Pairwise (· < ·)
        ∧ ∀ offset ∈ offsets ++ [t.byteSize], offset < Text.byteSize (t ++ brace :: u) := by
    have positive := brace.utf8Size_pos
    rw [List.pairwise_append, Text.byteSize_append, Text.byteSize_cons]
    refine ⟨⟨first.1, List.pairwise_singleton _ _, ?_⟩, ?_⟩
    · intro offset among last is_last
      rw [List.mem_singleton.mp is_last]
      exact first.2 offset among
    · intro offset among
      rcases List.mem_append.mp among with among | is_last
      · have := first.2 offset among
        omega
      · rw [List.mem_singleton.mp is_last]
        omega
  induction parted with
  | balanced => simp
  | closing _ _ ih =>
    rw [List.reverse_nil, List.append_nil] at ih ⊢
    exact further _ ih
  | opening _ _ ih =>
    rw [List.reverse_cons, ← List.append_assoc]
    exact further _ ih

/-- From no place on does a text open more blocks, less those it closes, than are still open. -/
theorem braceBalance_le (parted : Parted t lone opened) (parts : t = before ++ after) :
  braceBalance after ≤ opened.length
  := by
  have of_balanced {t before after : Text} (balanced : Balanced t) (parts : t = before ++ after) :
      braceBalance after ≤ 0 := by
    have whole := balanced.braceBalance_eq
    have first : before <+: t := ⟨after, parts.symm⟩
    have part := balanced.le_braceBalance first
    rw [parts, braceBalance_append] at whole
    omega
  induction parted generalizing before after with
  | balanced balanced => exact of_balanced balanced parts
  | closing _ balanced ih =>
    rcases List.append_eq_append_iff.mp parts with ⟨more, rfl, rest⟩ | ⟨more, rfl, rfl⟩
    · rcases List.cons_eq_append_iff.mp rest with ⟨rfl, rfl⟩ | ⟨more, rfl, rest⟩
      · rw [braceBalance_cons_closing, balanced.braceBalance_eq]
        decide
      · exact of_balanced balanced (List.cons.inj rest).2
    · have := ih rfl
      rw [braceBalance_append, braceBalance_cons_closing, balanced.braceBalance_eq]
      omega
  | opening _ balanced ih =>
    rw [List.length_cons]
    rcases List.append_eq_append_iff.mp parts with ⟨more, rfl, rest⟩ | ⟨more, rfl, rfl⟩
    · rcases List.cons_eq_append_iff.mp rest with ⟨rfl, rfl⟩ | ⟨more, rfl, rest⟩
      · rw [braceBalance_cons_opening, balanced.braceBalance_eq]
        omega
      · have := of_balanced balanced (List.cons.inj rest).2
        omega
    · have := ih rfl
      rw [braceBalance_append, braceBalance_cons_opening, balanced.braceBalance_eq]
      omega

/-- Before a closing brace without a partner no block is left open. -/
theorem exists_of_mem_lone (parted : Parted t lone opened) (among : offset ∈ lone) :
  ∃ before after : Text, t = before ++ '\x7d' :: after ∧ before.byteSize = offset
    ∧ ∀ first last, before = first ++ last → braceBalance last ≤ 0
  := by
  induction parted with
  | balanced => simp at among
  | @closing t u lone parted _ ih =>
    rcases List.mem_append.mp among with among | is_last
    · obtain ⟨before, after, rfl, size_eq, low⟩ := ih among
      exact ⟨before, after ++ '\x7d' :: u, by simp, size_eq, low⟩
    · refine ⟨t, u, rfl, (List.mem_singleton.mp is_last).symm, fun first last parts => ?_⟩
      apply parted.braceBalance_le parts
  | @opening t u lone opened _ _ ih =>
    obtain ⟨before, after, rfl, size_eq, low⟩ := ih among
    exact ⟨before, after ++ '\x7b' :: u, by simp, size_eq, low⟩

/-- Behind an opening brace without a partner no other block is closed than those opened there. -/
theorem exists_of_mem_opened (parted : Parted t lone opened) (among : offset ∈ opened) :
  ∃ before after : Text, t = before ++ '\x7b' :: after ∧ before.byteSize = offset
    ∧ ∀ part, part <+: after → 0 ≤ braceBalance part
  := by
  induction parted with
  | balanced => simp at among
  | closing => simp at among
  | @opening t u lone opened _ balanced ih =>
    rcases List.mem_cons.mp among with rfl | among
    · exact ⟨t, u, rfl, rfl, fun part => balanced.le_braceBalance⟩
    · obtain ⟨before, after, rfl, size_eq, high⟩ := ih among
      refine ⟨before, after ++ '\x7b' :: u, by simp, size_eq, fun part first => ?_⟩
      rcases List.prefix_or_prefix_of_prefix first (List.prefix_append _ _) with
        first | ⟨more, rfl⟩
      · exact high part first
      · rw [braceBalance_append]
        have := high after (List.prefix_refl after)
        rcases List.prefix_cons_iff.mp ((List.prefix_append_right_inj _).mp first) with
          rfl | ⟨part, rfl, rest⟩
        · apply Int.add_nonneg this
          decide
        · rw [braceBalance_cons_opening]
          have := balanced.le_braceBalance rest
          omega

end Parted

/-- The braces at some offsets: the closing ones and then the opening ones. -/
def loneBraces (lone opened : List Nat) : List LoneBrace :=
  lone.map (⟨·, .unexpected⟩) ++ opened.map (⟨·, .missing⟩)

/-- A brace without a partner is before the last brace that has none, or is this one. -/
theorem LoneBrace.IsOf.isOf_or_last {b : LoneBrace} {brace : Char} (isOf : b.IsOf (t ++ brace :: u))
    (balanced : Balanced u) :
  b.IsOf t ∨ b.imbalance.brace = brace ∧ b.offset = t.byteSize
  := by
  obtain ⟨⟨before, after, parts, size_eq⟩, alone⟩ := isOf
  rcases append_cons_eq_append_cons parts with ⟨more, rfl, -⟩ | ⟨rfl, rfl, -⟩ | ⟨more, rfl, rest⟩
  · left
    refine ⟨⟨before, more, rfl, size_eq⟩, fun partnered => alone ?_⟩
    exact partnered.append _
  · exact .inr ⟨rfl, size_eq.symm⟩
  · have partnered := (balanced.partnered rest b.imbalance.brace_cases).behind (t ++ [brace])
    rw [← Text.byteSize_append, List.append_assoc, List.append_assoc, List.singleton_append,
      List.singleton_append, size_eq] at partnered
    contradiction

/-- A closing brace before which no block is left open has no partner. -/
theorem isOf_unexpected (low : ∀ first last, before = first ++ last → braceBalance last ≤ 0)
    (after : Text) :
  LoneBrace.IsOf ⟨before.byteSize, .unexpected⟩ (before ++ '\x7d' :: after)
  := by
  refine ⟨⟨before, after, rfl, rfl⟩, ?_⟩
  rintro ⟨other, ⟨first, inside, last, parts, -, size_eq, -⟩ | ⟨first, inside, last, parts,
    balanced, -, size_eq⟩⟩
  · rw [List.append_assoc] at parts
    obtain ⟨-, rest⟩ := Text.append_inj_of_byteSize_eq parts size_eq.symm
    nomatch rest
  · obtain ⟨rfl, -⟩ := Text.append_inj_of_byteSize_eq parts size_eq.symm
    have := low first _ rfl
    rw [braceBalance_cons_opening, balanced.braceBalance_eq] at this
    contradiction

/-- An opening brace behind which no other block is closed has no partner. -/
theorem isOf_missing (before : Text) (high : ∀ part, part <+: after → 0 ≤ braceBalance part) :
  LoneBrace.IsOf ⟨before.byteSize, .missing⟩ (before ++ '\x7b' :: after)
  := by
  refine ⟨⟨before, after, rfl, rfl⟩, ?_⟩
  rintro ⟨other, ⟨first, inside, last, parts, balanced, size_eq, -⟩ | ⟨first, inside, last, parts,
    -, -, size_eq⟩⟩
  · rw [List.append_assoc] at parts
    obtain ⟨-, rest⟩ := Text.append_inj_of_byteSize_eq parts size_eq.symm
    have closed := high (inside ++ ['\x7d']) ⟨last, by rw [(List.cons.inj rest).2]; simp⟩
    rw [braceBalance_append, balanced.braceBalance_eq] at closed
    contradiction
  · obtain ⟨-, rest⟩ := Text.append_inj_of_byteSize_eq parts size_eq.symm
    nomatch rest

/-- The braces that a text is taken apart at are those without a partner. -/
theorem Parted.mem_loneBraces_iff (parted : Parted t lone opened) (b : LoneBrace) :
  b ∈ loneBraces lone opened ↔ b.IsOf t
  := by
  constructor
  · intro among
    rcases List.mem_append.mp among with among | among
    · obtain ⟨offset, listed, rfl⟩ := List.mem_map.mp among
      obtain ⟨before, after, rfl, rfl, low⟩ := parted.exists_of_mem_lone listed
      apply isOf_unexpected low
    · obtain ⟨offset, listed, rfl⟩ := List.mem_map.mp among
      obtain ⟨before, after, rfl, rfl, high⟩ := parted.exists_of_mem_opened listed
      apply isOf_missing before high
  · intro isOf
    induction parted with
    | balanced balanced =>
      obtain ⟨⟨before, after, parts, size_eq⟩, alone⟩ := isOf
      rw [← size_eq] at alone
      exact absurd (balanced.partnered parts b.imbalance.brace_cases) alone
    | @closing t u lone _ balanced ih =>
      rw [loneBraces, List.map_append, List.map_nil, List.append_nil, List.mem_append]
      rcases isOf.isOf_or_last balanced with earlier | ⟨brace_eq, offset_eq⟩
      · have among := ih earlier
        rw [loneBraces, List.map_nil, List.append_nil] at among
        exact .inl among
      · obtain ⟨offset, _ | _⟩ := b
        · obtain rfl : offset = t.byteSize := offset_eq
          exact .inr (List.mem_singleton.mpr rfl)
        · nomatch brace_eq
    | @opening t u lone opened _ balanced ih =>
      rw [loneBraces, List.map_cons, List.mem_append, List.mem_cons]
      rcases isOf.isOf_or_last balanced with earlier | ⟨brace_eq, offset_eq⟩
      · rcases List.mem_append.mp (ih earlier) with closing | opening
        · exact .inl closing
        · exact .inr (.inr opening)
      · obtain ⟨offset, _ | _⟩ := b
        · nomatch brace_eq
        · obtain rfl : offset = t.byteSize := offset_eq
          exact .inr (.inl rfl)

/-! ### Reading -/

namespace BlockScan

variable {scan : BlockScan}

/-- The offsets of the braces of the open blocks, the innermost first. -/
def openBraces (scan : BlockScan) : List Nat :=
  scan.opened.map (·.brace)

/-- A rule that is complete leaves the open blocks at their braces. -/
theorem openBraces_addRule (scan : BlockScan) (node : OutlineNode) :
  (scan.addRule node).openBraces = scan.openBraces
    ∧ (scan.addRule node).unexpected = scan.unexpected
  := by
  rw [addRule]
  cases opened_eq : scan.opened with
  | nil => simp [openBraces, opened_eq]
  | cons block outer => simp [openBraces, opened_eq]

/-- One more character leaves a text taken apart at its braces without a partner. -/
theorem parted_read (parted : Parted before scan.unexpected scan.openBraces) (c : Char) :
  Parted (before ++ [c]) (scan.read before.byteSize c).unexpected
    (scan.read before.byteSize c).openBraces
  := by
  have step := scan.step before.byteSize c
  generalize scan.read before.byteSize c = found at step ⊢
  cases step with
  | opening => exact .opening parted .nil
  | lone none_open =>
    rw [openBraces, none_open] at parted
    rw [openBraces, none_open]
    exact .closing parted .nil
  | @closing block outer opened_eq =>
    rw [openBraces, opened_eq] at parted
    obtain ⟨braces_eq, unexpected_eq⟩ := openBraces_addRule
      { scan with statement := [], opened := outer } (block.toNode (before.byteSize + 1))
    rw [closeBlock, braces_eq, unexpected_eq]
    exact parted.close
  | ending => exact parted.append (.single (by decide) (by decide))
  | inner plain =>
    obtain ⟨not_opening, not_closing⟩ := ne_brace_of_inner plain
    exact parted.append (.single not_opening not_closing)

/-- More text leaves a text taken apart at its braces without a partner. -/
theorem parted_readAll (parted : Parted before scan.unexpected scan.openBraces) (t : Text) :
  Parted (before ++ t) (scan.readAll before.byteSize t).unexpected
    (scan.readAll before.byteSize t).openBraces
  := by
  induction t generalizing before scan with
  | nil => rwa [readAll, List.append_nil]
  | cons c t ih =>
    have further := ih (parted_read parted c)
    rw [Text.byteSize_append, List.append_assoc] at further
    exact further

end BlockScan

theorem parted_ofMasked (masked : Text) :
  Parted masked (BlockScan.ofMasked masked).unexpected (BlockScan.ofMasked masked).openBraces
  := by
  have start : Parted [] ({} : BlockScan).unexpected ({} : BlockScan).openBraces := .balanced .nil
  exact BlockScan.parted_readAll start masked

/-! ### Reports -/

/-- Closing braces in order, and then opening ones, are in order altogether. -/
theorem Parted.loneBraces_in_order (parted : Parted t lone opened) :
  (loneBraces lone opened.reverse).Pairwise (fun a b => a.offset < b.offset)
    ∧ ∀ a ∈ loneBraces lone opened.reverse, ∀ b ∈ loneBraces lone opened.reverse,
      a.imbalance = .unexpected → b.imbalance = .missing → a.offset < b.offset
  := by
  obtain ⟨closing, opening, across⟩ := List.pairwise_append.mp parted.in_order.1
  have apart : ∀ a ∈ lone.map fun offset => (⟨offset, .unexpected⟩ : LoneBrace),
      ∀ b ∈ opened.reverse.map fun offset => (⟨offset, .missing⟩ : LoneBrace),
        a.offset < b.offset := by
    simpa using across
  rw [loneBraces, List.pairwise_append, List.pairwise_map, List.pairwise_map]
  refine ⟨⟨closing, opening, apart⟩, fun a among b listed unexpected missing => ?_⟩
  rcases List.mem_append.mp among with among | among
  · rcases List.mem_append.mp listed with listed | listed
    · obtain ⟨offset, -, rfl⟩ := List.mem_map.mp listed
      nomatch missing
    · exact apart a among b listed
  · obtain ⟨offset, -, rfl⟩ := List.mem_map.mp among
    nomatch unexpected

/-- Sorted by their offsets, the braces without a partner come in order, closing ones first. -/
theorem Parted.mergeSort_loneBraces (parted : Parted t lone opened) :
  (loneBraces lone opened).mergeSort (fun a b => a.offset ≤ b.offset)
    = loneBraces lone opened.reverse
  := by
  have in_order := parted.loneBraces_in_order.1
  have same : (loneBraces lone opened.reverse).Perm (loneBraces lone opened) :=
    ((List.reverse_perm opened).map _).append_left _
  have sorted : ((loneBraces lone opened).mergeSort fun a b => a.offset ≤ b.offset).Pairwise
      fun a b => decide (a.offset ≤ b.offset) = true := by
    apply List.pairwise_mergeSort
    · simp only [decide_eq_true_eq]
      omega
    · simp only [Bool.or_eq_true, decide_eq_true_eq]
      omega
  have distinct : ((loneBraces lone opened.reverse).map (·.offset)).Nodup :=
    List.pairwise_map.mpr (in_order.imp Nat.ne_of_lt)
  refine List.Perm.eq_of_pairwise (fun a b among listed first second => ?_) sorted
    (in_order.imp fun less => decide_eq_true (Nat.le_of_lt less))
    ((List.mergeSort_perm _ _).trans same.symm)
  apply List.inj_on_of_nodup_map distinct (same.mem_iff.mpr (List.mem_mergeSort.mp among)) listed
  exact Nat.le_antisymm (of_decide_eq_true first) (of_decide_eq_true second)

/-- The braces of a masked stylesheet that have no partner. -/
theorem unmatchedBraces_spec (masked : Text) :
  (∀ b, b ∈ unmatchedBraces masked ↔ b.IsOf masked)
    ∧ (unmatchedBraces masked).Pairwise (fun a b => a.offset < b.offset)
    ∧ ∀ a ∈ unmatchedBraces masked, ∀ b ∈ unmatchedBraces masked,
      a.imbalance = .unexpected → b.imbalance = .missing → a.offset < b.offset
  := by
  have parted := parted_ofMasked masked
  have found_eq : unmatchedBraces masked
      = loneBraces (BlockScan.ofMasked masked).unexpected
        (BlockScan.ofMasked masked).openBraces.reverse := by
    rw [← parted.mergeSort_loneBraces, loneBraces, BlockScan.openBraces, List.map_map]
    rfl
  rw [found_eq]
  refine ⟨fun b => ?_, parted.loneBraces_in_order⟩
  rw [← parted.mem_loneBraces_iff]
  simp [loneBraces]

/-- A text is balanced when all of its braces have partners. -/
theorem balanced_iff (t : Text) :
  Balanced t ↔ ∀ b : LoneBrace, ¬ b.IsOf t
  := by
  constructor
  · rintro balanced b ⟨⟨before, after, parts, size_eq⟩, alone⟩
    rw [← size_eq] at alone
    exact alone (balanced.partnered parts b.imbalance.brace_cases)
  · intro none
    have parted := parted_ofMasked t
    have empty : loneBraces (BlockScan.ofMasked t).unexpected (BlockScan.ofMasked t).openBraces
        = [] := by
      apply List.eq_nil_iff_forall_not_mem.mpr
      intro b among
      exact none b ((parted.mem_loneBraces_iff b).mp among)
    obtain ⟨lone_eq, opened_eq⟩ := List.append_eq_nil_iff.mp empty
    exact parted.balanced_of_nil (List.map_eq_nil_iff.mp lone_eq) (List.map_eq_nil_iff.mp opened_eq)

theorem Stylesheet.loneBraces_eq {text : Text} {sheet : Stylesheet}
    (analyzed : ofText? text = some sheet) :
  sheet.loneBraces = unmatchedBraces (mask text)
  := by
  simp only [ofText?, Option.bind_eq_bind, Option.bind_eq_some_iff] at analyzed
  obtain ⟨occurrences, -, sheet_eq⟩ := analyzed
  rw [← Option.some.inj sheet_eq]

/--
Validation reports the braces of the masked stylesheet that have no partner, each of them once, at
its own byte, and in the order in which they stand; all closing ones come before all opening ones.
It reports none exactly when the masked stylesheet is balanced.
-/
theorem Worker.problems?_lone_braces (w : Worker) (text : Text)
    (reported : w.options.unbalancedBraces ≠ .ignore) :
  ∃ braces : List LoneBrace,
    w.problems? text = some (braces.map fun b =>
      ⟨⟨b.offset, b.offset + 1⟩, b.imbalance.message, w.options.unbalancedBraces⟩)
    ∧ (∀ b, b ∈ braces ↔ b.IsOf (mask text))
    ∧ braces.Pairwise (fun a b => a.offset < b.offset)
    ∧ (∀ a ∈ braces, ∀ b ∈ braces, a.imbalance = .unexpected → b.imbalance = .missing →
      a.offset < b.offset)
    ∧ (w.problems? text = some [] ↔ Balanced (mask text))
  := by
  obtain ⟨sheet, analyzed, -⟩ := Stylesheet.exists_ofText? text
  obtain ⟨mem_iff, in_order, closing_first⟩ := unmatchedBraces_spec (mask text)
  have problems_eq : w.problems? text = some ((unmatchedBraces (mask text)).map fun b =>
      ⟨⟨b.offset, b.offset + 1⟩, b.imbalance.message, w.options.unbalancedBraces⟩) := by
    rw [problems?, if_neg reported, analyzed, Option.map_some, Stylesheet.loneBraces_eq analyzed]
    rfl
  refine ⟨unmatchedBraces (mask text), problems_eq, mem_iff, in_order, closing_first, ?_⟩
  rw [problems_eq, Option.some.injEq, List.map_eq_nil_iff, List.eq_nil_iff_forall_not_mem,
    balanced_iff]
  exact forall_congr' fun b => not_congr (mem_iff b)

/-- The closing brace in a comment is no partner of the opening one before the comment. -/
theorem Worker.problems?_lone_braces_commented :
  let w : Worker := { options := { unbalancedBraces := .warning } }
  let text : Text := ['\x7d', 'a', '\x7b', '/', '*', '\x7d', '*', '/', '\x7b', '\x7d']
  w.options.unbalancedBraces ≠ .ignore
    ∧ ∃ problems, w.problems? text = some problems
      ∧ ⟨⟨2, 3⟩, "missing '\x7d'", .warning⟩ ∈ problems ∧ ¬ Balanced (mask text)
  := by
  intro w text
  have reported : w.options.unbalancedBraces ≠ .ignore := by decide
  obtain ⟨braces, problems_eq, mem_iff, -⟩ := w.problems?_lone_braces text reported
  have behind : Balanced [' ', ' ', ' ', ' ', ' ', '\x7b', '\x7d'] := by
    have blank {t : Text} : Balanced t → Balanced (' ' :: t) := .cons (by decide) (by decide)
    exact blank (blank (blank (blank (blank (.block .nil .nil)))))
  have isOf : LoneBrace.IsOf ⟨2, .missing⟩ (mask text) :=
    isOf_missing ['\x7d', 'a'] fun _ => behind.le_braceBalance
  refine ⟨reported, _, problems_eq, List.mem_map.mpr ⟨_, (mem_iff _).mpr isOf, rfl⟩, ?_⟩
  intro balanced
  exact (balanced_iff _).mp balanced _ isOf

end Less

end EditorModes
