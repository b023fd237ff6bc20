import EditorModes.Mode.Less.Mask
import EditorModes.Proofs.Text.Cut

/-!
# What a mask keeps

Masking keeps characters where they are or puts spaces in their place, one for each byte
(`Less.mask_blanked`).  What is left of the code is therefore where it was, and offsets beside it
are cuts of the stylesheet as well as of its mask (`Less.Firm.isCut_of_mask`).
-/

namespace EditorModes.Less

/-- A text, and the same with some characters blanked out by spaces for their bytes. -/
inductive Blanked : Text → Text → Prop
  | nil : Blanked [] []
  | keep (c : Char) {t masked : Text} : Blanked t masked → Blanked (c :: t) (c :: masked)
  | blank (c : Char) {spaces t masked : Text} :
    spaces.byteSize = c.utf8Size → (∀ space ∈ spaces, space = ' ') → Blanked t masked →
      Blanked (c :: t) (spaces ++ masked)

variable {t masked before after : Text} {c : Char} {offset : Nat}

theorem maskFrom_nil (region : Region) :
  maskFrom region [] = []
  := by
  rw [maskFrom]

theorem byteSize_replicate_space (n : Nat) :
  Text.byteSize (List.replicate n ' ') = n
  := by
  induction n with
  | zero => rfl
  | succ n ih =>
    rw [List.replicate_succ, Text.byteSize_cons, ih]
    exact Nat.add_comm 1 n

namespace Blanked

/-- A character is blanked out, or stays when it is a line feed. -/
theorem blank_append (c : Char) (blanked : Blanked t masked) :
  Blanked (c :: t) (Less.blank c ++ masked)
  := by
  rw [Less.blank]
  split
  · next feed =>
    subst feed
    exact .keep '\n' blanked
  · exact .blank c (byteSize_replicate_space _) (fun _ => List.eq_of_mem_replicate) blanked

theorem cons_space (ascii : c.utf8Size = 1) (blanked : Blanked t masked) :
  Blanked (c :: t) (' ' :: masked)
  := by
  have size_eq : Text.byteSize [' '] = c.utf8Size := ascii.symm
  exact .blank c size_eq (fun _ => List.mem_singleton.mp) blanked

theorem byteSize_eq (blanked : Blanked t masked) :
  masked.byteSize = t.byteSize
  := by
  induction blanked with
  | nil => rfl
  | keep c _ ih => rw [Text.byteSize_cons, Text.byteSize_cons, ih]
  | blank c size_eq _ _ ih => rw [Text.byteSize_append, size_eq, Text.byteSize_cons, ih]

/-- What is left of the code has not moved, and what comes behind it was blanked out on its own. -/
theorem exists_append (blanked : Blanked t (before ++ c :: after)) (shown : c ≠ ' ') :
  ∃ earlier later : Text, t = earlier ++ c :: later ∧ earlier.byteSize = before.byteSize
    ∧ Blanked later after
  := by
  generalize masked_eq : before ++ c :: after = masked at blanked
  induction blanked generalizing before with
  | nil => simp at masked_eq
  | @keep d t masked blanked ih =>
    rcases List.append_eq_cons_iff.mp masked_eq with ⟨rfl, first⟩ | ⟨more, rfl, rest_eq⟩
    · obtain ⟨rfl, rfl⟩ := List.cons.inj first
      exact ⟨[], t, rfl, rfl, blanked⟩
    · obtain ⟨earlier, later, rfl, size_eq, behind⟩ := ih rest_eq.symm
      exact ⟨d :: earlier, later, rfl, by rw [Text.byteSize_cons, size_eq, Text.byteSize_cons],
        behind⟩
  | @blank d spaces t masked spaces_size all_spaces blanked ih =>
    have behind : ∃ more, before = spaces ++ more ∧ masked = more ++ c :: after := by
      rcases List.append_eq_append_iff.mp masked_eq with ⟨more, spaces_eq, rest_eq⟩ | behind
      · cases more with
        | nil => exact ⟨[], by simpa using spaces_eq.symm, rest_eq.symm⟩
        | cons space more =>
          obtain ⟨rfl, -⟩ := List.cons.inj rest_eq
          exact absurd (all_spaces c (by simp [spaces_eq])) shown
      · exact behind
    obtain ⟨more, rfl, rest_eq⟩ := behind
    obtain ⟨earlier, later, rfl, size_eq, behind⟩ := ih rest_eq.symm
    refine ⟨d :: earlier, later, rfl, ?_, behind⟩
    rw [Text.byteSize_cons, size_eq, Text.byteSize_append, spaces_size]

/-- Several characters that are left of the code one behind the other have not moved either. -/
theorem exists_append_run {run : Text} (blanked : Blanked t (before ++ run ++ after))
    (nonempty : run ≠ []) (shown : ∀ c ∈ run, c ≠ ' ') :
  ∃ earlier later : Text, t = earlier ++ run ++ later ∧ earlier.byteSize = before.byteSize
    ∧ Blanked later after
  := by
  induction run generalizing before t with
  | nil => contradiction
  | cons c run ih =>
    rw [List.append_assoc, List.cons_append] at blanked
    obtain ⟨earlier, later, rfl, size_eq, behind⟩ :=
      blanked.exists_append (shown c List.mem_cons_self)
    by_cases last : run = []
    · subst last
      exact ⟨earlier, later, by simp, size_eq, behind⟩
    · have behind : Blanked later ([] ++ run ++ after) := behind
      obtain ⟨none, later, rfl, none_size, further⟩ :=
        ih behind last fun d among => shown d (List.mem_cons_of_mem c among)
      obtain rfl : none = [] := by
        by_contra some_before
        have := Text.byteSize_pos some_before
        rw [Text.byteSize_nil] at none_size
        omega
      exact ⟨earlier, later, by simp, size_eq, further⟩

/-- Wherever a text may be taken apart, so may what is left. -/
theorem isCut (blanked : Blanked t masked) (cut : t.IsCut offset) :
  masked.IsCut offset
  := by
  induction blanked generalizing offset with
  | nil => exact cut
  | keep c _ ih =>
    rcases Text.isCut_cons cut with rfl | ⟨further, behind, rfl⟩
    · apply Text.isCut_zero
    · obtain ⟨before, after, rfl, rfl⟩ := ih behind
      exact ⟨c :: before, after, rfl, Text.byteSize_cons c before⟩
  | @blank c spaces _ _ size_eq _ _ ih =>
    rcases Text.isCut_cons cut with rfl | ⟨further, behind, rfl⟩
    · apply Text.isCut_zero
    · obtain ⟨before, after, rfl, rfl⟩ := ih behind
      exact ⟨spaces ++ before, after, by simp, by rw [Text.byteSize_append, size_eq]⟩

end Blanked

/-- Masking a text that starts in any region keeps characters or blanks them out. -/
theorem maskFrom_blanked (region : Region) (t : Text) :
  Blanked t (maskFrom region t)
  := by
  fun_induction maskFrom region t with
  | case1 => exact .nil
  | case2 t ih => exact .cons_space rfl (.cons_space rfl ih)
  | case3 t ih => exact .cons_space rfl (.cons_space rfl ih)
  | case4 c t _ _ _ ih => exact .keep c ih
  | case5 t _ _ _ ih => exact .keep _ ih
  | case6 c t _ _ _ _ ih => exact .keep c ih
  | case7 t ih => exact .cons_space rfl (.cons_space rfl ih)
  | case8 c t _ ih => exact ih.blank_append c
  | case9 c t ih => exact ih.blank_append c
  | case10 q c t ih => exact .cons_space rfl (ih.blank_append c)
  | case11 q c t _ _ ih => exact .keep c ih
  | case12 q c t _ _ ih => exact ih.blank_append c
  | case13 t ih => exact .keep _ ih
  | case14 c t _ ih => exact ih.blank_append c

theorem mask_blanked (t : Text) :
  Blanked t (mask t)
  := maskFrom_blanked .code t

theorem byteSize_mask (t : Text) :
  (mask t).byteSize = t.byteSize
  := (mask_blanked t).byteSize_eq

/-- An offset before or behind a character that is not a space. -/
def Firm (t : Text) (offset : Nat) : Prop :=
  ∃ (before : Text) (c : Char) (after : Text), t = before ++ c :: after ∧ c ≠ ' '
    ∧ (before.byteSize = offset ∨ Text.byteSize (before ++ [c]) = offset)

/-- An offset stays beside the same character when more text comes behind. -/
theorem Firm.append (firm : Firm t offset) (more : Text) :
  Firm (t ++ more) offset
  := by
  obtain ⟨before, c, after, rfl, shown, place⟩ := firm
  exact ⟨before, c, after ++ more, by simp, shown, place⟩

/-- An offset beside a character is within the text. -/
theorem Firm.le_byteSize (firm : Firm t offset) :
  offset ≤ t.byteSize
  := by
  obtain ⟨before, c, after, rfl, -, rfl | rfl⟩ := firm
  · rw [Text.byteSize_append]
    apply Nat.le_add_right
  · rw [Text.byteSize_append, Text.byteSize_append, Text.byteSize_cons, Text.byteSize_cons,
      Text.byteSize_nil]
    omega

/-- An offset beside what is left of the code is a cut of the stylesheet. -/
theorem Firm.isCut_of_mask (firm : Firm (mask t) offset) :
  t.IsCut offset
  := by
  obtain ⟨before, c, after, parts, shown, place⟩ := firm
  have blanked := mask_blanked t
  rw [parts] at blanked
  obtain ⟨earlier, later, rfl, size_eq, -⟩ := blanked.exists_append shown
  rcases place with rfl | rfl
  · exact ⟨earlier, c :: later, rfl, size_eq⟩
  · refine ⟨earlier ++ [c], later, by simp, ?_⟩
    rw [Text.byteSize_append, size_eq, Text.byteSize_append]

/-- An offset beside what is left of the code, or at its end, is a cut of the stylesheet. -/
theorem isCut_of_firm_or_eq (place : Firm (mask t) offset ∨ offset = (mask t).byteSize) :
  t.IsCut offset
  := by
  rcases place with firm | rfl
  · exact firm.isCut_of_mask
  · rw [byteSize_mask]
    apply Text.isCut_byteSize

end EditorModes.Less
