import EditorModes.Mode.Less.Indentation
import EditorModes.Proofs.Mode.Less.Brace
import EditorModes.Proofs.Mode.Less.MaskBytes

/-!
# Lines and the regions they begin in

No mark that opens or closes a region goes over a line feed, so that masking goes on behind a line
feed in a region that the text before it tells (`Less.exists_goesOn`).  Each line is therefore
masked on its own, and indented by the depth that the lines before it lead to
(`Less.mem_indentEdits_iff`).  Where a line begins in code, its edit replaces white space of the
code.  A line that begins in a comment, a string or a script is edited too, when it is blank or has
code behind the end of the region, unless it has its indentation already
(`Less.indentEdits_in_code`).
-/

namespace EditorModes.Less

open Text

variable {t s piece before masked shown unit : Text} {c : Char} {region next : Region}
  {start number n : Nat} {depth : Int} {e : IndentEdit}

/-! ### Regions behind a line feed -/

/-- Masking goes on behind a part of a text in another region, whatever the rest is. -/
def Region.Leads (region : Region) (part : Text) (next : Region) : Prop :=
  ∀ rest, maskFrom region (part ++ rest) = maskFrom region part ++ maskFrom next rest

/-- Strings stand between double quotes or single ones. -/
def Region.Proper (region : Region) : Prop :=
  ∀ quote, region = .quoted quote → quote = '"' ∨ quote = '\''

/-- Masking goes on behind a part of a text and a line feed, where the part has the given mask. -/
def GoesOn (region : Region) (part masked : Text) : Prop :=
  ∃ next : Region, next.Proper
    ∧ ∀ rest, maskFrom region (part ++ '\n' :: rest) = masked ++ '\n' :: maskFrom next rest

/-- Masking goes on behind a part when it does behind what is left after the first characters. -/
theorem GoesOn.behind (goes : GoesOn next s masked) (shown : Text)
    (first : ∀ rest, maskFrom region (t ++ '\n' :: rest)
      = shown ++ maskFrom next (s ++ '\n' :: rest)) :
  GoesOn region t (shown ++ masked)
  := by
  obtain ⟨last, proper, goes⟩ := goes
  refine ⟨last, proper, fun rest => ?_⟩
  rw [first, goes, List.append_assoc]

/-- A mark of two characters that a text does not start with does not go over a line feed. -/
theorem apart_append_feed {a b : Char} (inside : b ≠ '\n')
    (apart : ∀ u, c = a → s = b :: u → False) (rest : Text) :
  ∀ u, c = a → s ++ '\n' :: rest = b :: u → False
  := by
  intro u first second
  cases s with
  | nil => exact inside (List.cons.inj second).1.symm
  | cons d s => exact apart s first (congrArg (· :: s) (List.cons.inj second).1)

/-- Behind each line feed masking goes on in a region that the text before it tells. -/
theorem exists_goesOn (proper : region.Proper) (t : Text) :
  GoesOn region t (maskFrom region t)
  := by
  have other {region : Region} (unquoted : ∀ q, region ≠ .quoted q) : region.Proper :=
    fun q same => absurd same (unquoted q)
  fun_induction maskFrom region t with
  | case1 region =>
    cases region with
    | code => exact ⟨.code, proper, fun rest => rfl⟩
    | block => exact ⟨.block, proper, fun rest => rfl⟩
    | line => exact ⟨.code, other (by simp), fun rest => rfl⟩
    | quoted q => exact ⟨.code, other (by simp), fun rest => by simp [maskFrom]⟩
    | script => exact ⟨.script, proper, fun rest => rfl⟩
  | case2 t ih => exact (ih (other (by simp))).behind [' ', ' '] fun rest => rfl
  | case3 t ih => exact (ih (other (by simp))).behind [' ', ' '] fun rest => rfl
  | case4 c t star slash quote ih =>
    have quoting : Region.Proper (.quoted c) := by
      intro q same
      rw [← Region.quoted.inj same]
      simpa using quote
    apply (ih quoting).behind [c]
    intro rest
    rw [List.cons_append, maskFrom, if_pos quote]
    · rfl
    · exact apart_append_feed (by decide) star rest
    · exact apart_append_feed (by decide) slash rest
  | case5 t star slash quote ih => exact (ih (other (by simp))).behind ['`'] fun rest => rfl
  | case6 c t star slash quote tick ih =>
    apply (ih proper).behind [c]
    intro rest
    rw [List.cons_append, maskFrom, if_neg quote, if_neg tick]
    · rfl
    · exact apart_append_feed (by decide) star rest
    · exact apart_append_feed (by decide) slash rest
  | case7 t ih => exact (ih (other (by simp))).behind [' ', ' '] fun rest => rfl
  | case8 c t star ih =>
    apply (ih proper).behind
    intro rest
    rw [List.cons_append, maskFrom]
    exact apart_append_feed (by decide) star rest
  | case9 c t ih =>
    apply (ih (other (by split <;> simp))).behind
    intro rest
    rw [List.cons_append, maskFrom]
  | case10 q c t ih =>
    apply (ih proper).behind (' ' :: blank c)
    intro rest
    rfl
  | case11 q c t single ends ih =>
    have mark : q ≠ '\\' := by
      rcases proper q rfl with rfl | rfl <;> decide
    apply (ih (other (by simp))).behind [c]
    intro rest
    rw [List.cons_append, maskFrom_quoted_closed mark (by simpa using ends)]
    rfl
  | case12 q c t single inside ih =>
    obtain ⟨no_quote, no_feed⟩ : c ≠ q ∧ c ≠ '\n' := by simpa using inside
    by_cases hides : c = '\\' ∧ t = []
    · obtain ⟨rfl, rfl⟩ := hides
      exact ⟨.quoted q, proper, fun rest => rfl⟩
    · apply (ih proper).behind
      intro rest
      have hides_none : c ≠ '\\' := by
        rintro rfl
        cases t with
        | nil => exact hides ⟨rfl, rfl⟩
        | cons d t => exact single d t rfl rfl
      rw [List.cons_append, maskFrom_quoted_hidden no_quote no_feed (absurd · hides_none)]
  | case13 t ih => exact (ih (other (by simp))).behind ['`'] fun rest => rfl
  | case14 c t tick ih =>
    apply (ih proper).behind
    intro rest
    rw [List.cons_append, maskFrom, if_neg tick]

/-- Masking a text puts no characters into it but spaces. -/
theorem Blanked.eq_space_or_mem (blanked : Blanked t masked) (among : c ∈ masked) :
  c = ' ' ∨ c ∈ t
  := by
  induction blanked with
  | nil => simp at among
  | keep d _ ih =>
    rcases List.mem_cons.mp among with rfl | among
    · exact .inr List.mem_cons_self
    · exact (ih among).imp_right (List.mem_cons_of_mem d)
  | blank d _ all_spaces _ ih =>
    rcases List.mem_append.mp among with among | among
    · exact .inl (all_spaces c among)
    · exact (ih among).imp_right (List.mem_cons_of_mem d)

theorem notMem_maskFrom (within : '\n' ∉ piece) :
  '\n' ∉ maskFrom region piece
  := by
  intro among
  rcases (maskFrom_blanked region piece).eq_space_or_mem among with same | among
  · simp at same
  · exact within among

/-! ### Edits of lines -/

/-- The indentation of a line with code on it, which stands behind a number of open blocks. -/
def lineIndentation (unit : Text) (depth : Int) (masked : Text) : Text :=
  indentation unit (if masked.trim.head? = some '\x7d' then depth - 1 else depth).toNat

/-- The edit of a line, which stands behind a number of open blocks. -/
def editLine? (unit : Text) (number : Nat) (depth : Int) (content masked : Text) :
    Option IndentEdit :=
  if masked.trim = [] then if content.trim = [] then editIndent? number content [] else none
  else editIndent? number content (lineIndentation unit depth masked)

/-- White space has no braces. -/
theorem braceBalance_trim (t : Text) :
  braceBalance t.trim = braceBalance t
  := by
  have balance_eq {spaces : Text} (all_spaces : ∀ c ∈ spaces, Property.isSpace c = true) :
      braceBalance spaces = 0 := by
    have no_opening : '\x7b' ∉ spaces := fun among => absurd (all_spaces _ among) (by decide)
    have no_closing : '\x7d' ∉ spaces := fun among => absurd (all_spaces _ among) (by decide)
    rw [braceBalance, List.count_eq_zero.mpr no_opening, List.count_eq_zero.mpr no_closing]
    rfl
  obtain ⟨lead, trail, parts, -, lead_spaces, trail_spaces⟩ := exists_trim t
  conv_rhs => rw [parts]
  rw [braceBalance_append, braceBalance_append, balance_eq lead_spaces, balance_eq trail_spaces]
  omega

/-- The first line is edited on its own, and the lines behind it by the depth that it leads to. -/
theorem indentFrom_cons (unit : Text) (number : Nat) (depth : Int) (line masked : Text)
    (rest : List (Text × Text)) :
  indentFrom unit number depth ((line, masked) :: rest)
    = (editLine? unit number depth line.dropCarriageReturn masked).toList
      ++ indentFrom unit (number + 1) (depth + braceBalance masked) rest
  := by
  rw [indentFrom, editLine?, ← braceBalance_trim masked]
  split
  · next empty =>
    rw [empty]
    simp [braceBalance]
  · rfl

/--
The parts around a line of a text, and the region that it begins in, where the text itself begins in
a region.
-/
structure LineIn (region : Region) (start : Nat) (t : Text) (n : Nat) (before piece : Text)
    (next : Region) : Prop where
  place : ∃ after line, t = before ++ piece ++ after ∧ LineAt start before piece after n line
  leads : region.Leads before next

namespace LineIn

/-- A text without a line feed has one line. -/
theorem iff_of_notMem (whole : '\n' ∉ t) :
  LineIn region start t n before piece next
    ↔ n = 0 ∧ before = [] ∧ piece = t ∧ region.Leads [] next
  := by
  constructor
  · rintro ⟨⟨after, line, rfl, place⟩, leads⟩
    obtain rfl : before = [] := by
      by_contra nonempty
      apply whole
      simp [place.feed_mem nonempty]
    obtain rfl : after = [] := by
      cases after with
      | nil => rfl
      | cons c later =>
        obtain rfl := place.ahead c rfl
        simp at whole
    exact ⟨place.number.symm, rfl, by simp, leads⟩
  · rintro ⟨rfl, rfl, rfl, leads⟩
    exact ⟨⟨[], _, by simp, (LineAt.first_iff whole (by simp)).mpr rfl⟩, leads⟩

/-- The other lines of a text are those of the rest behind its first line feed. -/
theorem iff_of_feed {first rest : Text} {last : Region} (whole : '\n' ∉ first)
    (goes : ∀ rest, maskFrom region (first ++ '\n' :: rest)
      = maskFrom region first ++ '\n' :: maskFrom last rest) :
  LineIn region start (first ++ '\n' :: rest) n before piece next
    ↔ n = 0 ∧ before = [] ∧ piece = first ∧ region.Leads [] next
      ∨ ∃ m behind, n = m + 1 ∧ before = first ++ '\n' :: behind
        ∧ LineIn last (start + first.byteSize + 1) rest m behind piece next
  := by
  have leads_iff (behind : Text) :
      region.Leads (first ++ '\n' :: behind) next ↔ last.Leads behind next := by
    simp [Region.Leads, goes]
  constructor
  · rintro ⟨⟨after, line, parts, place⟩, leads⟩
    cases n with
    | zero =>
      obtain rfl := place.before_eq_nil
      rw [List.nil_append] at parts
      cases after with
      | nil =>
        rw [List.append_nil] at parts
        exact absurd place.within (by simp [← parts])
      | cons c later =>
        obtain rfl := place.ahead c rfl
        exact .inl ⟨rfl, rfl, (append_feed_inj whole place.within parts).1.symm, leads⟩
    | succ m =>
      have feed : '\n' ∈ before := by
        rw [← List.count_pos_iff, place.number]
        exact Nat.succ_pos m
      obtain ⟨other, behind, rfl, within⟩ := List.eq_append_cons_of_mem feed
      rw [List.append_assoc, List.append_assoc, List.cons_append] at parts
      obtain ⟨rfl, rfl⟩ := append_feed_inj whole within parts
      exact .inr ⟨m, behind, rfl, rfl,
        ⟨after, line, by simp, (LineAt.later_iff whole).mp place⟩, (leads_iff behind).mp leads⟩
  · rintro (⟨rfl, rfl, rfl, leads⟩ | ⟨m, behind, rfl, rfl, ⟨after, line, rfl, place⟩, leads⟩)
    · exact ⟨⟨_, _, rfl, (LineAt.first_iff whole (by simp)).mpr rfl⟩, leads⟩
    · exact ⟨⟨after, line, by simp, (LineAt.later_iff whole).mpr place⟩,
        (leads_iff behind).mpr leads⟩

end LineIn

/-- The first line of a text is edited like a text of its own. -/
theorem editLine?_first_iff (unit : Text) (number : Nat) (depth : Int) (content piece : Text) :
  (∃ next, region.Leads [] next
      ∧ editLine? unit (number + 0) (depth + braceBalance (maskFrom region [])) content
        (maskFrom next piece) = some e)
    ↔ editLine? unit number depth content (maskFrom region piece) = some e
  := by
  have balance_eq : braceBalance [] = 0 := rfl
  rw [maskFrom_nil, balance_eq, Nat.add_zero, Int.add_zero]
  constructor
  · rintro ⟨next, leads, edited⟩
    have same := leads piece
    rw [maskFrom_nil, List.nil_append, List.nil_append] at same
    rwa [same]
  · intro edited
    exact ⟨region, fun rest => by rw [maskFrom_nil]; rfl, edited⟩

/-- The edits of a text are those of its lines. -/
theorem mem_indentFrom_iff (proper : region.Proper) (start : Nat) (t : Text) :
  e ∈ indentFrom unit number depth
      ((t.splitOnChar '\n').zip ((maskFrom region t).splitOnChar '\n'))
    ↔ ∃ n before piece next, LineIn region start t n before piece next
      ∧ editLine? unit (number + n) (depth + braceBalance (maskFrom region before))
        piece.dropCarriageReturn (maskFrom next piece) = some e
  := by
  induction t using piece_induction '\n' generalizing region start number depth with
  | last t whole =>
    rw [splitOnChar_of_notMem whole, splitOnChar_of_notMem (notMem_maskFrom whole),
      List.zip_cons_cons, indentFrom_cons, List.zip_nil_left, indentFrom, List.append_nil,
      Option.mem_toList, ← editLine?_first_iff]
    simp [LineIn.iff_of_notMem whole, and_assoc]
  | more first rest whole ih =>
    obtain ⟨last, last_proper, goes⟩ := exists_goesOn proper first
    rw [goes, splitOnChar_append whole, splitOnChar_append (notMem_maskFrom whole),
      List.zip_cons_cons, indentFrom_cons, List.mem_append, Option.mem_toList,
      ih last_proper (start + first.byteSize + 1), ← editLine?_first_iff]
    have feed (behind : Text) : braceBalance (maskFrom region (first ++ '\n' :: behind))
        = braceBalance (maskFrom region first) + braceBalance (maskFrom last behind) := by
      rw [goes, braceBalance_append, braceBalance_cons]
      simp
    simp only [LineIn.iff_of_feed whole goes]
    constructor
    · rintro (⟨next, leads, edited⟩ | ⟨n, before, piece, next, line, edited⟩)
      · exact ⟨0, [], first, next, .inl ⟨rfl, rfl, rfl, leads⟩, edited⟩
      · refine ⟨n + 1, _, piece, next, .inr ⟨n, before, rfl, rfl, line⟩, ?_⟩
        rwa [feed, ← Int.add_assoc, Nat.add_comm n, ← Nat.add_assoc]
    · rintro ⟨_, _, piece, next, ⟨rfl, rfl, rfl, leads⟩ | ⟨n, before, rfl, rfl, line⟩, edited⟩
      · exact .inl ⟨next, leads, edited⟩
      · refine .inr ⟨n, before, piece, next, line, ?_⟩
        rwa [feed, ← Int.add_assoc, Nat.add_comm n, ← Nat.add_assoc] at edited

theorem mem_indentEdits_iff {text : Text} :
  e ∈ indentEdits text unit
    ↔ ∃ n before piece region, LineIn .code 0 text n before piece region
      ∧ editLine? unit n (braceBalance (mask before)) piece.dropCarriageReturn
        (maskFrom region piece) = some e
  := by
  have proper : Region.Proper .code := nofun
  rw [indentEdits, mask, mem_indentFrom_iff proper 0 text]
  simp only [Nat.zero_add, Int.zero_add, mask]

/-- A line is edited when its white space differs from the indentation that it gets. -/
theorem editLine?_eq_some_iff {content : Text} :
  editLine? unit number depth content masked = some e
    ↔ ∃ indent, (masked.trim = [] ∧ content.trim = [] ∧ indent = []
        ∨ masked.trim ≠ [] ∧ indent = lineIndentation unit depth masked)
      ∧ content.takeWhile Property.isSpace ≠ indent
      ∧ e = ⟨number, Text.byteSize (content.takeWhile Property.isSpace), indent⟩
  := by
  have indent_iff (indent : Text) : editIndent? number content indent = some e
      ↔ content.takeWhile Property.isSpace ≠ indent
        ∧ e = ⟨number, Text.byteSize (content.takeWhile Property.isSpace), indent⟩ := by
    rw [editIndent?]
    split
    · next same => simp [same]
    · next other => simp [other, eq_comm]
  rw [editLine?]
  split
  · next hidden =>
    split
    · next blank => simp [hidden, blank, indent_iff]
    · next marked => simp [hidden, marked]
  · next code => simp [code, indent_iff]

/-- Edits are in the order of their lines, at most one for a line. -/
theorem indentFrom_in_order (unit : Text) (number : Nat) (depth : Int)
    (lines : List (Text × Text)) :
  (indentFrom unit number depth lines).Pairwise (·.line < ·.line)
    ∧ ∀ e ∈ indentFrom unit number depth lines, number ≤ e.line
  := by
  induction lines generalizing number depth with
  | nil => simp [indentFrom]
  | cons line lines ih =>
    obtain ⟨line, masked⟩ := line
    obtain ⟨in_order, number_le⟩ := ih (number + 1) (depth + braceBalance masked)
    rw [indentFrom_cons, List.pairwise_append]
    cases edited : editLine? unit number depth line.dropCarriageReturn masked with
    | none =>
      refine ⟨⟨by simp, in_order, by simp⟩, fun e among => ?_⟩
      exact Nat.le_of_succ_le (number_le e (by simpa using among))
    | some first =>
      obtain ⟨indent, -, -, rfl⟩ := editLine?_eq_some_iff.mp edited
      refine ⟨⟨by simp, in_order, ?_⟩, fun e among => ?_⟩
      · rintro _ (_ | ⟨_, ⟨⟩⟩) e among
        exact number_le e among
      · rcases List.mem_cons.mp among with rfl | among
        · exact Nat.le_refl number
        · exact Nat.le_of_succ_le (number_le e among)

/-! ### Lines that begin in code -/

/-- A text has nothing but white space when nothing is left without it. -/
theorem trim_eq_nil_iff : t.trim = [] ↔ ∀ c ∈ t, Property.isSpace c = true := by
  constructor
  · intro empty
    obtain ⟨lead, trail, parts, -, lead_spaces, trail_spaces⟩ := exists_trim t
    rw [parts, empty, List.append_nil]
    intro c among
    exact (List.mem_append.mp among).elim (lead_spaces c) (trail_spaces c)
  · intro all_spaces
    have start_empty : t.trimStart = [] := List.dropWhile_eq_nil_iff.mpr all_spaces
    rw [Text.trim, start_empty]
    rfl

/-- White space opens no region. -/
theorem maskFrom_code_append {spaces : Text} (all_spaces : ∀ c ∈ spaces, Property.isSpace c = true)
    (rest : Text) :
  maskFrom .code (spaces ++ rest) = spaces ++ maskFrom .code rest
  := by
  induction spaces with
  | nil => rfl
  | cons c spaces ih =>
    have space := all_spaces c List.mem_cons_self
    have other {mark : Char} (mark_eq : Property.isSpace mark = false) : c ≠ mark := by
      rintro rfl
      rw [mark_eq] at space
      contradiction
    have no_slash : c ≠ '/' := other (by decide)
    have no_tick : c ≠ '`' := other (by decide)
    have no_quote : ¬ (decide (c = '"') || decide (c = '\'')) = true := by
      have double : c ≠ '"' := other (by decide)
      have single : c ≠ '\'' := other (by decide)
      simp [double, single]
    rw [List.cons_append, maskFrom, if_neg no_quote, if_neg no_tick,
      ih fun d among => all_spaces d (List.mem_cons_of_mem c among), List.cons_append]
    · exact fun u same => absurd same no_slash
    · exact fun u same => absurd same no_slash

/-- Only in code does masking go on as it does in code. -/
theorem eq_code_of_leads (code : region.Leads before .code) (leads : region.Leads before next) :
  next = .code
  := by
  have same (rest : Text) : maskFrom next rest = maskFrom .code rest :=
    List.append_cancel_left ((leads rest).symm.trans (code rest))
  cases next with
  | code => rfl
  | block => exact absurd (same ['x']) (by decide)
  | line => exact absurd (same ['x']) (by decide)
  | script => exact absurd (same ['x']) (by decide)
  | quoted q =>
    by_cases first : q = 'x'
    · subst first
      exact absurd (same ['y']) (by decide)
    · have differ := same ['x']
      rw [maskFrom_quoted_hidden (Ne.symm first) (by decide) (by simp), maskFrom] at differ
      exact absurd differ (by decide)

/-- A line stands in one place of a text. -/
theorem LineIn.before_eq {other piece' : Text} {next' : Region}
    (line : LineIn region start t n before piece next)
    (line' : LineIn region start t n other piece' next') :
  before = other
  := by
  obtain ⟨after, found, rfl, place⟩ := line.place
  obtain ⟨after', found', parts, place'⟩ := line'.place
  have lines_eq : found = found' := by
    have listed := (linesFrom_getElem?_eq_some_iff _).mpr ⟨before, piece, after, rfl, place⟩
    have listed' := (linesFrom_getElem?_eq_some_iff _).mpr ⟨other, piece', after', parts, place'⟩
    exact Option.some.inj (listed.symm.trans listed')
  have size_eq : before.byteSize = other.byteSize := by
    have start_eq := place.start_eq
    rw [lines_eq, place'.start_eq] at start_eq
    exact (Nat.add_left_cancel start_eq).symm
  rw [List.append_assoc, List.append_assoc] at parts
  exact (append_inj_of_byteSize_eq parts size_eq).1

/-- An edit of a line that begins in code, which replaces white space that masking leaves. -/
def IndentEdit.InCode (e : IndentEdit) (text : Text) : Prop :=
  ∃ before piece space after : Text, LineIn .code 0 text e.line before piece .code ∧ space <+: piece
    ∧ space.byteSize = e.current ∧ text = before ++ space ++ after
    ∧ mask text = mask before ++ space ++ maskFrom .code after

/-- A line that begins in code is edited in code. -/
theorem LineIn.inCode {text : Text} (line : LineIn .code 0 text n before piece .code)
    (edited : editLine? unit n depth piece.dropCarriageReturn masked = some e) :
  e.InCode text
  := by
  obtain ⟨after, found, parts, place⟩ := line.place
  obtain ⟨indent, -, -, rfl⟩ := editLine?_eq_some_iff.mp edited
  let space : Text := piece.dropCarriageReturn.takeWhile Property.isSpace
  have space_prefix : space <+: piece :=
    (List.takeWhile_prefix _).trans (isPrefix_dropCarriageReturn piece)
  obtain ⟨rest, piece_eq⟩ := space_prefix
  refine ⟨before, piece, space, rest ++ after, line, ⟨rest, piece_eq⟩, rfl, ?_, ?_⟩
  · rw [parts, ← piece_eq]
    simp
  · have all_spaces : ∀ c ∈ space, Property.isSpace c = true := fun c => List.mem_takeWhile_imp
    rw [parts, mask, List.append_assoc, line.leads, ← piece_eq, List.append_assoc,
      maskFrom_code_append all_spaces, ← List.append_assoc]
    rfl

/-- A blank line is blank when it is masked. -/
theorem trim_maskFrom_of_blank (blank : piece.dropCarriageReturn.trim = []) :
  (maskFrom region piece).trim = []
  := by
  rw [trim_eq_nil_iff] at blank ⊢
  have all_spaces : ∀ c ∈ piece, Property.isSpace c = true := by
    generalize content_eq : piece.dropCarriageReturn = content at blank
    rcases dropCarriageReturn_eq_iff.mp content_eq with rfl | ⟨rfl, -⟩
    · intro c among
      rcases List.mem_append.mp among with among | among
      · exact blank c among
      · rw [List.mem_singleton.mp among]
        decide
    · exact blank
  intro c among
  rcases (maskFrom_blanked region piece).eq_space_or_mem among with rfl | among
  · decide
  · exact all_spaces c among

theorem takeWhile_eq_of_blank (blank : t.trim = []) :
  t.takeWhile Property.isSpace = t
  := List.takeWhile_eq_self_iff.mpr (trim_eq_nil_iff.mp blank)

/--
A line is left alone when it is blank only if it is empty, and has its indentation already if there
is code on it.
-/
theorem editLine?_eq_none_iff :
  editLine? unit number depth piece.dropCarriageReturn (maskFrom region piece) = none
    ↔ (piece.dropCarriageReturn.trim = [] → piece.dropCarriageReturn = [])
      ∧ ((maskFrom region piece).trim ≠ [] →
        piece.dropCarriageReturn.takeWhile Property.isSpace
          = lineIndentation unit depth (maskFrom region piece))
  := by
  have indent_iff (indent : Text) : editIndent? number piece.dropCarriageReturn indent = none
      ↔ piece.dropCarriageReturn.takeWhile Property.isSpace = indent := by
    rw [editIndent?]
    split <;> simp_all
  rw [editLine?]
  by_cases blank : piece.dropCarriageReturn.trim = []
  · have hidden : (maskFrom region piece).trim = [] := trim_maskFrom_of_blank blank
    rw [if_pos hidden, if_pos blank, indent_iff, takeWhile_eq_of_blank blank]
    simp [blank, hidden]
  · by_cases hidden : (maskFrom region piece).trim = []
    · simp [blank, hidden]
    · simp [blank, hidden, indent_iff]

/--
An edit of a line that begins in code replaces white space that masking leaves, and the line begins
in code.  Other edits are of lines that begin in a comment, a string or a script.  There are none of
these, and all edits are in code, exactly when each line that begins in such a region is empty if it
is blank, and has its indentation already if code follows behind the end of the region.
-/
theorem indentEdits_in_code (text unit : Text) :
  (∀ e ∈ indentEdits text unit, e.InCode text
      ∨ ∃ before piece region, LineIn .code 0 text e.line before piece region ∧ region ≠ .code)
    ∧ ((∀ e ∈ indentEdits text unit, e.InCode text)
      ↔ ∀ n before piece region, LineIn .code 0 text n before piece region → region ≠ .code →
        (piece.dropCarriageReturn.trim = [] → piece.dropCarriageReturn = [])
          ∧ ((maskFrom region piece).trim ≠ [] →
            piece.dropCarriageReturn.takeWhile Property.isSpace
              = lineIndentation unit (braceBalance (mask before)) (maskFrom region piece)))
  := by
  refine ⟨fun e among => ?_, fun in_code => ?_, fun left_alone e among => ?_⟩
  · obtain ⟨n, before, piece, region, line, edited⟩ := mem_indentEdits_iff.mp among
    obtain ⟨indent, -, -, rfl⟩ := editLine?_eq_some_iff.mp edited
    by_cases code : region = .code
    · subst code
      exact .inl (line.inCode edited)
    · exact .inr ⟨before, piece, region, line, code⟩
  · intro n before piece region line other
    have unedited : editLine? unit n (braceBalance (mask before)) piece.dropCarriageReturn
        (maskFrom region piece) = none := by
      by_contra edited
      obtain ⟨e, edited⟩ := Option.ne_none_iff_exists'.mp edited
      have among := mem_indentEdits_iff.mpr ⟨n, before, piece, region, line, edited⟩
      obtain ⟨same, piece', space, after, line', -⟩ := in_code e among
      obtain ⟨indent, -, -, rfl⟩ := editLine?_eq_some_iff.mp edited
      obtain rfl := line.before_eq line'
      exact other (eq_code_of_leads line'.leads line.leads)
    exact editLine?_eq_none_iff.mp unedited
  · obtain ⟨n, before, piece, region, line, edited⟩ := mem_indentEdits_iff.mp among
    by_cases code : region = .code
    · subst code
      exact line.inCode edited
    · rw [editLine?_eq_none_iff.mpr (left_alone n before piece region line code)] at edited
      contradiction

/-- White space in a comment is taken away. -/
theorem indentEdits_in_comment :
  let text : Text := ['/', '*', '\n', ' ', ' ', '\n', '*', '/']
  indentEdits text [' ', ' '] = [⟨1, 2, []⟩] ∧ ¬ ∀ e ∈ indentEdits text [' ', ' '], e.InCode text
  := by
  intro text
  have edits_eq : indentEdits text [' ', ' '] = [⟨1, 2, []⟩] := by decide
  refine ⟨edits_eq, fun in_code => ?_⟩
  rw [edits_eq] at in_code
  obtain ⟨before, piece, space, after, line, -⟩ := in_code _ List.mem_cons_self
  have commented : LineIn .code 0 text 1 ['/', '*', '\n'] [' ', ' '] .block :=
    ⟨⟨['\n', '*', '/'], ⟨3, [' ', ' ']⟩, rfl,
      ⟨rfl, rfl, by simp, by simp, by simp, .inr ⟨rfl, by simp⟩⟩⟩, fun rest => rfl⟩
  obtain rfl := commented.before_eq line
  exact absurd (eq_code_of_leads line.leads commented.leads) (by decide)

end EditorModes.Less
