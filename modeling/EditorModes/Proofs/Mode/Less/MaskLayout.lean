import EditorModes.Proofs.Mode.Less.MaskBytes
import Mathlib.Data.List.Forall2

/-!
# The layout under a mask

A mask shows each character of a stylesheet by its own bytes or by as many spaces, and line feeds
always by themselves (`Less.exists_maskedAs`).  So masking in place leaves the form of a text, in
which every line and every cut of the stylesheet is where it was (`Less.masking_keeps_layout`).
-/

namespace EditorModes.Less

/-- The bytes that a mask shows for a character: its own, or spaces unless it is a line feed. -/
inductive MaskedAs (c : Char) : List UInt8 → Prop
  | kept : MaskedAs c (String.utf8EncodeChar c)
  | blanked : c ≠ '\n' → MaskedAs c (List.replicate c.utf8Size (byteOf ' '))

/-- What a mask shows for a byte: the byte itself, or a space unless the byte is a line feed. -/
def MaskedAsByte (b shown : UInt8) : Prop :=
  shown = b ∨ shown = byteOf ' ' ∧ b ≠ byteOf '\n'

variable {text before after t masked : Text} {c : Char} {part out result other : List UInt8}
  {parts : List (List UInt8)} {i : Nat}

/-! ### Characters under a mask -/

theorem MaskedAs.length_eq (shown : MaskedAs c part) :
  part.length = c.utf8Size
  := by
  cases shown with
  | kept => exact String.length_utf8EncodeChar c
  | blanked => exact List.length_replicate

/-- A character that is blanked out is shown by spaces, or by itself if it is a line feed. -/
theorem maskedAs_blank (c : Char) :
  MaskedAs c (blank c).bytes
  := by
  rw [blank]
  split
  · next feed =>
    subst feed
    exact .kept
  · next no_feed =>
    rw [bytes_replicate_space]
    exact .blanked no_feed

/-- Each byte of a character is shown by itself or by a space. -/
theorem MaskedAs.bytes (shown : MaskedAs c part) :
  List.Forall₂ MaskedAsByte (String.utf8EncodeChar c) part
  := by
  cases shown with
  | kept => exact List.forall₂_same.mpr fun b _ => .inl rfl
  | blanked no_feed =>
    apply List.forall₂_iff_get.mpr
    constructor
    · rw [String.length_utf8EncodeChar, List.length_replicate]
    · intro i inside _
      have other := Text.ne_byteOf_of_mem rfl no_feed (List.get_mem _ ⟨i, inside⟩)
      exact .inr ⟨by simp, other⟩

theorem exists_maskedAs_cons {shown : Text} (first : MaskedAs c shown.bytes)
    (rest : ∃ parts, List.Forall₂ MaskedAs t parts ∧ masked.bytes = parts.flatten) :
  ∃ parts, List.Forall₂ MaskedAs (c :: t) parts ∧ (shown ++ masked).bytes = parts.flatten
  := by
  obtain ⟨parts, all, form⟩ := rest
  exact ⟨shown.bytes :: parts, .cons first all, by rw [Text.bytes_append, form, List.flatten_cons]⟩

/-- A mask shows the characters of a text one behind the other. -/
theorem exists_maskedAs (region : Region) (t : Text) :
  ∃ parts, List.Forall₂ MaskedAs t parts ∧ (maskFrom region t).bytes = parts.flatten
  := by
  have kept (c : Char) : MaskedAs c (Text.bytes [c]) := by
    rw [Text.bytes_cons, Text.bytes_nil, List.append_nil]
    exact .kept
  have slash : MaskedAs '/' (Text.bytes [' ']) := .blanked (by decide)
  have star : MaskedAs '*' (Text.bytes [' ']) := .blanked (by decide)
  have backslash : MaskedAs '\\' (Text.bytes [' ']) := .blanked (by decide)
  fun_induction maskFrom region t with
  | case1 => exact ⟨[], .nil, rfl⟩
  | case2 t ih => exact exists_maskedAs_cons slash (exists_maskedAs_cons star ih)
  | case3 t ih => exact exists_maskedAs_cons slash (exists_maskedAs_cons slash ih)
  | case4 c t _ _ _ ih => exact exists_maskedAs_cons (kept c) ih
  | case5 t _ _ _ ih => exact exists_maskedAs_cons (kept _) ih
  | case6 c t _ _ _ _ ih => exact exists_maskedAs_cons (kept c) ih
  | case7 t ih => exact exists_maskedAs_cons star (exists_maskedAs_cons slash ih)
  | case8 c t _ ih => exact exists_maskedAs_cons (maskedAs_blank c) ih
  | case9 c t ih => exact exists_maskedAs_cons (maskedAs_blank c) ih
  | case10 q c t ih =>
    have escaped := exists_maskedAs_cons backslash (exists_maskedAs_cons (maskedAs_blank c) ih)
    exact escaped
  | case11 q c t _ _ ih => exact exists_maskedAs_cons (kept c) ih
  | case12 q c t _ _ ih => exact exists_maskedAs_cons (maskedAs_blank c) ih
  | case13 t ih => exact exists_maskedAs_cons (kept _) ih
  | case14 c t _ ih => exact exists_maskedAs_cons (maskedAs_blank c) ih

/-- What is shown for the characters of a text is shown for its bytes. -/
theorem bytes_of_maskedAs (all : List.Forall₂ MaskedAs t parts) :
  List.Forall₂ MaskedAsByte t.bytes parts.flatten
  := by
  induction all with
  | nil => exact .nil
  | cons shown _ ih =>
    rw [Text.bytes_cons, List.flatten_cons]
    exact List.rel_append shown.bytes ih

/-- The bytes at the place of a character are those that are shown for it. -/
theorem maskedAs_at (all : List.Forall₂ MaskedAs (before ++ c :: after) parts) :
  MaskedAs c ((parts.flatten.drop before.byteSize).take c.utf8Size)
  := by
  induction before generalizing parts with
  | nil =>
    obtain ⟨part, rest, shown, -, rfl⟩ := List.forall₂_cons_left_iff.mp all
    rw [Text.byteSize_nil, List.drop_zero, List.flatten_cons,
      List.take_append_of_le_length (Nat.le_of_eq shown.length_eq.symm), ← shown.length_eq,
      List.take_length]
    exact shown
  | cons d before ih =>
    obtain ⟨part, rest, shown, behind, rfl⟩ := List.forall₂_cons_left_iff.mp all
    rw [Text.byteSize_cons, List.flatten_cons, ← shown.length_eq, List.drop_length_add_append]
    exact ih behind

/-! ### Masking in place -/

/-- Masking from a place on leaves the same bytes whenever it is done. -/
theorem Masking.unique (masking : Masking text out i result) (again : Masking text out i other) :
  other = result
  := by
  induction masking generalizing other with
  | done ended =>
    cases again with
    | done _ => rfl
    | step inside _ _ => exact absurd ended (Nat.not_le.mpr inside)
  | step inside step _ ih =>
    cases again with
    | done ended => exact absurd ended (Nat.not_le.mpr inside)
    | step _ step' later =>
      obtain ⟨rfl, rfl⟩ := Prod.mk.inj (Option.some.inj (step.symm.trans step'))
      exact ih later

theorem fromUTF8?_bytes (t : Text) :
  String.fromUTF8? t.bytes.toByteArray = some (String.ofList t)
  := by
  have valid : t.bytes.toByteArray.IsValidUTF8 := ⟨t, rfl⟩
  rw [String.fromUTF8?, dif_pos valid]
  rfl

/--
Masking a text in place comes to its end, with one result.  That is the form of a text again, the
mask, and has as many bytes.  Each byte is the one that was there or a space, line feeds stay, and
characters are blanked out as a whole or not at all; every cut of the text is one of the mask.
-/
theorem masking_keeps_layout (text : Text) :
  ∃ result, Masking text text.bytes 0 result
    ∧ (∀ other, Masking text text.bytes 0 other → other = result)
    ∧ String.fromUTF8? result.toByteArray = some (String.ofList (mask text))
    ∧ result.length = text.bytes.length
    ∧ List.Forall₂ MaskedAsByte text.bytes result
    ∧ (∀ (before : Text) c after, text = before ++ c :: after →
      MaskedAs c ((result.drop before.byteSize).take c.utf8Size))
    ∧ ∀ offset, text.IsCut offset → (mask text).IsCut offset
  := by
  obtain ⟨parts, all, form⟩ := exists_maskedAs .code text
  refine ⟨_, masking text, fun other again => (masking text).unique again, fromUTF8?_bytes _, ?_,
    ?_, ?_, fun offset cut => (mask_blanked text).isCut cut⟩
  · rw [Text.length_bytes, Text.length_bytes, byteSize_mask]
  · rw [mask, form]
    exact bytes_of_maskedAs all
  · rintro before c after rfl
    rw [mask, form]
    exact maskedAs_at all

/-- A character that a backslash hides only half of is blanked out as a whole. -/
theorem masking_keeps_layout_escape :
  let text : Text := ['"', '\\', 'é', '"', '/', '/', '\n']
  ∃ result, Masking text text.bytes 0 result ∧ MaskedAs 'é' ((result.drop 2).take 2)
    ∧ text.IsCut 4 ∧ (mask text).IsCut 4
  := by
  intro text
  obtain ⟨result, masking, -, -, -, -, whole, cuts⟩ := masking_keeps_layout text
  have cut : text.IsCut 4 := ⟨['"', '\\', 'é'], ['"', '/', '/', '\n'], rfl, rfl⟩
  exact ⟨result, masking, whole ['"', '\\'] 'é' ['"', '/', '/', '\n'] rfl, cut, cuts 4 cut⟩

end EditorModes.Less
