import EditorModes.Proofs.Text.Bytes

/-!
# The order of texts

Texts are ordered by their characters, and their UTF-8 forms by their bytes.  The two orders are the
same (`Text.bytes_lt_bytes`): of two characters, the one that comes first has the form that
comes first, whatever stands behind them.
-/

namespace EditorModes.Text

variable {c d : Char} {s t : Text}

theorem toNat_val_lt (c : Char) :
  c.val.toNat < 0x110000
  := by
  rcases c.valid with below | within
  · have below : c.val.toNat < 0xd800 := below
    omega
  · exact within.2

/-- The form of a character decides over what stands behind it. -/
theorem utf8EncodeChar_append_lt (less : c < d) (x y : List UInt8) :
  String.utf8EncodeChar c ++ x < String.utf8EncodeChar d ++ y
  := by
  have less : c.val.toNat < d.val.toNat := UInt32.lt_iff_toNat_lt.mp less
  have bound := toNat_val_lt d
  simp only [String.utf8EncodeChar]
  generalize c.val.toNat = n at *
  generalize d.val.toNat = m at *
  split_ifs <;>
    simp only [List.cons_append, List.nil_append, List.cons_lt_cons_iff, UInt8.lt_iff_toNat_lt,
      ← UInt8.toNat_inj, UInt8.toNat_ofNat'] <;>
    simp (disch := omega) only [Nat.mod_eq_of_lt] <;>
    omega

/-- A text that comes before another one does so by its bytes. -/
theorem bytes_lt_bytes (less : s < t) :
  s.bytes < t.bytes
  := by
  induction s generalizing t with
  | nil =>
    cases t with
    | nil => exact absurd less (List.lt_irrefl [])
    | cons d t =>
      have nonempty : 0 < (String.utf8EncodeChar d).length := by
        rw [String.length_utf8EncodeChar]
        exact d.utf8Size_pos
      obtain ⟨b, more, form⟩ := List.exists_cons_of_length_pos nonempty
      rw [bytes_cons, form, List.cons_append, bytes_nil]
      exact List.nil_lt_cons b _
  | cons c s ih =>
    cases t with
    | nil => exact absurd less (List.not_lt_nil _)
    | cons d t =>
      rw [bytes_cons, bytes_cons]
      rcases List.cons_lt_cons_iff.mp less with first | ⟨rfl, later⟩
      · exact utf8EncodeChar_append_lt first _ _
      · exact List.append_left_lt (ih later)

end EditorModes.Text
