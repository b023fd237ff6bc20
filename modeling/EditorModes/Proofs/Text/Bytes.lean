import EditorModes.Proofs.Text.Cut

/-!
# Bytes of a text

The UTF-8 form of a text has as many bytes as the text measures.  A character of one byte, such as
a bracket or a quote, is known by its byte: no other character has that byte in its form
(`Text.eq_of_byteOf_mem`).
-/

namespace EditorModes

/-- The byte of a character of one byte. -/
def byteOf (c : Char) : UInt8 :=
  UInt8.ofNat c.toNat

namespace Text

variable {c mark : Char} {s t before after : Text}

/-- The UTF-8 form of a text. -/
def bytes (t : Text) : List UInt8 :=
  t.flatMap String.utf8EncodeChar

@[simp]
theorem bytes_nil :
  bytes [] = []
  := rfl

@[simp]
theorem bytes_cons (c : Char) (t : Text) :
  bytes (c :: t) = String.utf8EncodeChar c ++ bytes t
  := List.flatMap_cons

@[simp]
theorem bytes_append (s t : Text) :
  bytes (s ++ t) = bytes s ++ bytes t
  := List.flatMap_append

@[simp]
theorem length_bytes (t : Text) :
  t.bytes.length = t.byteSize
  := by
  induction t with
  | nil => rfl
  | cons c t ih =>
    rw [bytes_cons, List.length_append, String.length_utf8EncodeChar, ih, byteSize_cons]

theorem utf8EncodeChar_of_ascii (ascii : c.utf8Size = 1) :
  String.utf8EncodeChar c = [byteOf c]
  := by
  rw [String.utf8EncodeChar_eq_singleton ascii]
  rfl

/-- The bytes of a longer character are none of a character of one byte. -/
theorem le_of_mem_utf8EncodeChar (long : c.utf8Size ≠ 1) {b : UInt8}
    (among : b ∈ String.utf8EncodeChar c) :
  128 ≤ b.toNat
  := by
  have beyond : ¬ c.val.toNat ≤ 127 := by
    intro small
    exact long (Char.utf8Size_eq_one_iff.mpr (UInt32.le_iff_toNat_le.mpr small))
  rw [String.utf8EncodeChar] at among
  rw [if_neg beyond] at among
  split at among
  · simp only [List.mem_cons, List.not_mem_nil, or_false] at among
    rcases among with rfl | rfl <;> rw [UInt8.toNat_ofNat'] <;> omega
  split at among
  · simp only [List.mem_cons, List.not_mem_nil, or_false] at among
    rcases among with rfl | rfl | rfl <;> rw [UInt8.toNat_ofNat'] <;> omega
  · simp only [List.mem_cons, List.not_mem_nil, or_false] at among
    rcases among with rfl | rfl | rfl | rfl <;> rw [UInt8.toNat_ofNat'] <;> omega

/-- A character of one byte has a small byte. -/
theorem toNat_byteOf (ascii : c.utf8Size = 1) :
  (byteOf c).toNat = c.toNat ∧ c.toNat < 128
  := by
  have small := UInt32.le_iff_toNat_le.mp (Char.utf8Size_eq_one_iff.mp ascii)
  change c.toNat ≤ 127 at small
  constructor
  · rw [byteOf, UInt8.toNat_ofNat']
    omega
  · omega

/-- A character of one byte is known by its byte. -/
theorem eq_of_byteOf_mem (ascii : mark.utf8Size = 1)
    (among : byteOf mark ∈ String.utf8EncodeChar c) :
  c = mark
  := by
  obtain ⟨mark_eq, small⟩ := toNat_byteOf ascii
  by_cases short : c.utf8Size = 1
  · obtain ⟨c_eq, -⟩ := toNat_byteOf short
    rw [utf8EncodeChar_of_ascii short, List.mem_singleton] at among
    apply Char.toNat_inj.mp
    rw [← mark_eq, ← c_eq, among]
  · have := le_of_mem_utf8EncodeChar short among
    omega

theorem ne_byteOf_of_mem (ascii : mark.utf8Size = 1) (other : c ≠ mark) {b : UInt8}
    (among : b ∈ String.utf8EncodeChar c) :
  b ≠ byteOf mark
  := by
  rintro rfl
  exact other (eq_of_byteOf_mem ascii among)

/-- A text that starts with the byte of a character of one byte starts with the character. -/
theorem head?_eq_of_head?_bytes (ascii : mark.utf8Size = 1)
    (first : t.bytes.head? = some (byteOf mark)) :
  t.head? = some mark
  := by
  cases t with
  | nil => simp at first
  | cons c t =>
    rw [List.head?_cons, Option.some.injEq]
    apply eq_of_byteOf_mem ascii
    have nonempty : String.utf8EncodeChar c ≠ [] := by
      rw [← List.length_pos_iff, String.length_utf8EncodeChar]
      exact c.utf8Size_pos
    rw [bytes_cons, List.head?_append_of_ne_nil _ nonempty] at first
    exact List.mem_of_mem_head? first

theorem drop_bytes (before after : Text) :
  (before ++ after).bytes.drop before.byteSize = after.bytes
  := by
  rw [bytes_append, List.drop_append_of_le_length (by simp), ← length_bytes, List.drop_length,
    List.nil_append]

end Text

end EditorModes
