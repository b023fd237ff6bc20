import EditorModes.Proofs.Mode.Less.Mask
import EditorModes.Proofs.Text.Bytes
import EditorModes.Proofs.Text.Cursor

/-!
# Masking bytes

A stylesheet may be masked byte by byte, in place.  What is blanked out is looked for in the text
behind a byte offset, so each such offset has to be a cut of the text, and what is left has to be
the form of a text again.  Both are the case, and the text is the mask (`Less.masking`): quotes,
slashes and script marks are characters of one byte, and no byte of another character is taken for
one of them.
-/

namespace EditorModes.Less

/-- A byte that is blanked out becomes a space, unless it ends a line. -/
def blankByte (b : UInt8) : UInt8 :=
  if b = byteOf '\n' then b else byteOf ' '

/--
Bytes with those from one place up to another blanked out; none when the places are not in order or
outside.
-/
def blankOut? (out : List UInt8) (start stop : Nat) : Option (List UInt8) :=
  if start ≤ stop ∧ stop ≤ out.length then
    some (out.take start ++ ((out.take stop).drop start).map blankByte ++ out.drop stop)
  else none

/-- Where the first quote, or else the line, ends from a place on; a backslash hides a byte. -/
def quoteEnd (bytes : List UInt8) (quote : UInt8) (j : Nat) : Nat :=
  if inside : j < bytes.length then
    if bytes[j] = quote ∨ bytes[j] = byteOf '\n' then j
    else quoteEnd bytes quote (j + if bytes[j] = byteOf '\\' then 2 else 1)
  else j
termination_by bytes.length - j
decreasing_by split <;> omega

/--
Where a text that is looked for behind a byte offset comes first, or some bytes further, and
otherwise the end; none when the offset is no cut.
-/
def searchEnd? (text : Text) (i : Nat) (needle : Text) (further : Nat) : Option Nat :=
  (text.splitAt? i).map fun (_, rest) =>
    ((rest.findBytes? needle).map (i + · + further)).getD text.byteSize

/-- The bytes with those from one place up to another blanked out, and where masking goes on. -/
def hide? (out : List UInt8) (start stop next : Nat) : Option (List UInt8 × Nat) :=
  (blankOut? out start stop).map (·, next)

/--
The bytes of a text that was masked up to a place, and the place where masking goes on; none when
the text is taken apart where it has no cut.
-/
def maskStep? (text : Text) (out : List UInt8) (i : Nat) : Option (List UInt8 × Nat) :=
  let here := text.bytes[i]?
  let next := text.bytes[i + 1]?
  if here = some (byteOf '/') ∧ next = some (byteOf '*') then do
    let stop ← searchEnd? text (i + 2) ['*', '/'] 2
    hide? out i stop stop
  else if here = some (byteOf '/') ∧ next = some (byteOf '/') then do
    let stop ← searchEnd? text i ['\n'] 0
    hide? out i stop stop
  else if here = some (byteOf '"') ∨ here = some (byteOf '\'') then do
    let stop := min (quoteEnd text.bytes (← here) (i + 1)) text.byteSize
    hide? out (i + 1) stop (stop + 1)
  else if here = some (byteOf '`') then do
    let stop ← searchEnd? text (i + 1) ['`'] 0
    hide? out (i + 1) stop (stop + 1)
  else some (out, i + 1)

/-- Masking a text from a place on comes to its end with some bytes. -/
inductive Masking (text : Text) : List UInt8 → Nat → List UInt8 → Prop
  | done {out : List UInt8} {i : Nat} : text.byteSize ≤ i → Masking text out i out
  | step {out next result : List UInt8} {i j : Nat} :
    i < text.byteSize → maskStep? text out i = some (next, j) → Masking text next j result →
      Masking text out i result

variable {t before after done : Text} {c : Char} {result out : List UInt8}

/-! ### Blanking out -/

theorem bytes_replicate_space (n : Nat) :
  Text.bytes (List.replicate n ' ') = List.replicate n (byteOf ' ')
  := by
  induction n with
  | zero => rfl
  | succ n ih =>
    rw [List.replicate_succ, Text.bytes_cons, ih, List.replicate_succ]
    rfl

/-- The form of a character that is blanked out. -/
theorem bytes_blank (c : Char) :
  (blank c).bytes = (String.utf8EncodeChar c).map blankByte
  := by
  rw [blank]
  split
  · next feed =>
    subst feed
    rfl
  · next other =>
    have no_feed : ∀ b ∈ String.utf8EncodeChar c, blankByte b = byteOf ' ' := by
      intro b among
      rw [blankByte, if_neg]
      rintro rfl
      exact other (Text.eq_of_byteOf_mem rfl among)
    rw [List.map_congr_left no_feed, List.map_const', String.length_utf8EncodeChar,
      bytes_replicate_space]

theorem bytes_flatMap_blank (t : Text) :
  Text.bytes (t.flatMap blank) = t.bytes.map blankByte
  := by
  induction t with
  | nil => rfl
  | cons c t ih =>
    rw [List.flatMap_cons, Text.bytes_append, ih, bytes_blank, Text.bytes_cons, List.map_append]

theorem byteSize_flatMap_blank (t : Text) :
  Text.byteSize (t.flatMap blank) = t.byteSize
  := by
  rw [← Text.length_bytes, bytes_flatMap_blank, List.length_map, Text.length_bytes]

/-- A part of a text is blanked out between two cuts. -/
theorem blankOut?_bytes (done part after : Text) :
  blankOut? (done ++ part ++ after).bytes done.byteSize (done ++ part).byteSize
    = some (done ++ part.flatMap blank ++ after).bytes
  := by
  have in_order : done.byteSize ≤ (done ++ part).byteSize
      ∧ (done ++ part).byteSize ≤ (done ++ part ++ after).bytes.length := by
    simp
  rw [blankOut?, if_pos in_order, Text.drop_bytes (done ++ part) after]
  have upTo : (done ++ part ++ after).bytes.take (done ++ part).byteSize
      = (done ++ part).bytes := by
    rw [Text.bytes_append, List.take_append_of_le_length (by simp), ← Text.length_bytes,
      List.take_length]
  have first : (done ++ part ++ after).bytes.take done.byteSize = done.bytes := by
    rw [List.append_assoc, Text.bytes_append, List.take_append_of_le_length (by simp),
      ← Text.length_bytes, List.take_length]
  rw [upTo, first, Text.drop_bytes, Text.bytes_append, Text.bytes_append, bytes_flatMap_blank]

/-! ### Parts that are blanked out -/

/--
A region at the start of a text is blanked out up to a byte offset, and so many bytes further, or
else at the end, the code goes on.
-/
def HiddenUpTo (region : Region) (before t : Text) (stop size : Nat) : Prop :=
  ∃ hidden closing rest : Text, t = hidden ++ closing ++ rest
    ∧ maskFrom region t = hidden.flatMap blank ++ closing ++ maskFrom .code rest
    ∧ stop = (before ++ hidden).byteSize
    ∧ (closing.byteSize = size ∨ closing = [] ∧ rest = [])

/-- A region is blanked out up to what ends it, of which so many bytes belong to it. -/
theorem hiddenUpTo_searchEnd {region : Region} {needle : Text} (ending closing behind : Text)
    (nonempty : needle ≠ []) (parts : needle = ending ++ closing ++ behind)
    (goes_on : ∀ c t, Text.dropPrefix? needle (c :: t) = none →
      maskFrom region (c :: t) = blank c ++ maskFrom region t)
    (ends : ∀ t, maskFrom region (needle ++ t)
      = ending.flatMap blank ++ closing ++ maskFrom .code (behind ++ t)) (before t : Text) :
  ∃ stop, searchEnd? (before ++ t) before.byteSize needle ending.byteSize = some stop
    ∧ HiddenUpTo region before t stop closing.byteSize
  := by
  rw [searchEnd?, Text.splitAt?_append, Option.map_some]
  refine ⟨_, rfl, ?_⟩
  simp only [Text.findBytes?]
  induction t generalizing before with
  | nil =>
    have absent : Text.splitFirst? needle [] = none := by
      cases needle with
      | nil => contradiction
      | cons => rfl
    rw [absent]
    refine ⟨[], [], [], rfl, by simp [maskFrom_nil], rfl, .inr ⟨rfl, rfl⟩⟩
  | cons c t ih =>
    rw [Text.splitFirst?]
    cases found : Text.dropPrefix? needle (c :: t) with
    | some after =>
      rw [Text.dropPrefix?_eq_some_iff.mp found]
      refine ⟨ending, closing, behind ++ after, by simp [parts], ends after, ?_, .inl rfl⟩
      simp
    | none =>
      obtain ⟨hidden, closing, rest, rfl, masked_eq, stop_eq, closes⟩ := ih (before ++ [c])
      refine ⟨c :: hidden, closing, rest, by simp, ?_, ?_, closes⟩
      · rw [goes_on c _ found, masked_eq]
        simp
      · have shifted : before ++ c :: hidden = before ++ [c] ++ hidden := by simp
        rw [shifted, ← stop_eq]
        cases Text.splitFirst? needle (hidden ++ closing ++ rest) with
        | none => simp
        | some parts => simp [Nat.add_assoc]

/-- A comment is blanked out up to its end. -/
theorem exists_hiddenUpTo_block (before t : Text) :
  ∃ stop, searchEnd? (before ++ t) before.byteSize ['*', '/'] 2 = some stop
    ∧ HiddenUpTo .block before t stop 0
  := by
  apply hiddenUpTo_searchEnd ['*', '/'] [] [] (by simp) rfl
  · intro c t absent
    rw [maskFrom]
    rintro after rfl rfl
    simp [Text.dropPrefix?] at absent
  · intro t
    rfl

/-- A comment that ends with its line is blanked out up to there. -/
theorem exists_hiddenUpTo_line (before t : Text) :
  ∃ stop, searchEnd? (before ++ t) before.byteSize ['\n'] 0 = some stop
    ∧ HiddenUpTo .line before t stop 0
  := by
  apply hiddenUpTo_searchEnd [] [] ['\n'] (by simp) rfl
  · intro c t absent
    have other : c ≠ '\n' := by
      rintro rfl
      simp [Text.dropPrefix?] at absent
    rw [maskFrom, if_neg other]
  · intro t
    rfl

/-- A script block is blanked out up to the mark that ends it. -/
theorem exists_hiddenUpTo_script (before t : Text) :
  ∃ stop, searchEnd? (before ++ t) before.byteSize ['`'] 0 = some stop
    ∧ HiddenUpTo .script before t stop 1
  := by
  apply hiddenUpTo_searchEnd [] ['`'] [] (by simp) rfl
  · intro c t absent
    have other : c ≠ '`' := by
      rintro rfl
      simp [Text.dropPrefix?] at absent
    rw [maskFrom, if_neg other]
  · intro t
    rfl

/-- A quote or a line feed ends a string, and stays. -/
theorem maskFrom_quoted_closed {q : Char} (other : q ≠ '\\') (ends : c = q ∨ c = '\n')
    (t : Text) :
  maskFrom (.quoted q) (c :: t) = c :: maskFrom .code t
  := by
  have no_backslash : c ≠ '\\' := by
    rcases ends with rfl | rfl
    · exact other
    · simp
  rw [maskFrom]
  · simp [ends]
  · intro d behind same
    contradiction

/-- Another character of a string is blanked out, also a backslash that hides nothing. -/
theorem maskFrom_quoted_hidden {q : Char} (no_quote : c ≠ q) (no_feed : c ≠ '\n')
    (hides_none : c = '\\' → t = []) :
  maskFrom (.quoted q) (c :: t) = blank c ++ maskFrom (.quoted q) t
  := by
  rw [maskFrom]
  · simp [no_quote, no_feed]
  · rintro d behind same rfl
    exact absurd (hides_none same) (by simp)

/-! ### Ends of strings -/

section

variable {quote b : UInt8} {pre part post bytes : List UInt8} {j : Nat}

theorem quoteEnd_ended (ends : b = quote ∨ b = byteOf '\n') :
  quoteEnd (pre ++ b :: post) quote pre.length = pre.length
  := by
  rw [quoteEnd, dif_pos (by simp)]
  simp [ends]

theorem quoteEnd_hidden (other : byteOf '\\' ≠ quote) :
  quoteEnd (pre ++ byteOf '\\' :: post) quote pre.length
    = quoteEnd (pre ++ byteOf '\\' :: post) quote (pre.length + 2)
  := by
  have no_feed : byteOf '\\' ≠ byteOf '\n' := by decide
  rw [quoteEnd, dif_pos (by simp)]
  simp [other, no_feed]

/-- A string goes on with other bytes. -/
theorem quoteEnd_passed (others : ∀ b ∈ part, b ≠ quote ∧ b ≠ byteOf '\n' ∧ b ≠ byteOf '\\') :
  quoteEnd (pre ++ part ++ post) quote pre.length
    = quoteEnd (pre ++ part ++ post) quote (pre ++ part).length
  := by
  induction part generalizing pre with
  | nil => rw [List.append_nil]
  | cons b part ih =>
    obtain ⟨no_quote, no_feed, no_backslash⟩ := others b List.mem_cons_self
    have further : quoteEnd (pre ++ [b] ++ part ++ post) quote (pre ++ [b]).length
        = quoteEnd (pre ++ [b] ++ part ++ post) quote (pre ++ [b] ++ part).length :=
      ih fun b among => others b (List.mem_cons_of_mem _ among)
    have step : quoteEnd (pre ++ b :: part ++ post) quote pre.length
        = quoteEnd (pre ++ b :: part ++ post) quote (pre ++ [b]).length := by
      rw [quoteEnd, dif_pos (by simp)]
      simp [no_quote, no_feed, no_backslash]
    rw [step]
    simpa using further

end

variable {q : Char}

/-- A string goes on with another character. -/
theorem quoteEnd_char (ascii : q.utf8Size = 1) (no_quote : c ≠ q) (no_feed : c ≠ '\n')
    (no_backslash : c ≠ '\\') (before t : Text) :
  quoteEnd (before ++ c :: t).bytes (byteOf q) before.byteSize
    = quoteEnd (before ++ c :: t).bytes (byteOf q) (before ++ [c]).byteSize
  := by
  have others : ∀ b ∈ String.utf8EncodeChar c,
      b ≠ byteOf q ∧ b ≠ byteOf '\n' ∧ b ≠ byteOf '\\' :=
    fun b among => ⟨Text.ne_byteOf_of_mem ascii no_quote among,
      Text.ne_byteOf_of_mem rfl no_feed among, Text.ne_byteOf_of_mem rfl no_backslash among⟩
  have passed : quoteEnd (before.bytes ++ String.utf8EncodeChar c ++ t.bytes) (byteOf q)
      before.bytes.length
        = quoteEnd (before.bytes ++ String.utf8EncodeChar c ++ t.bytes) (byteOf q)
          (before.bytes ++ String.utf8EncodeChar c).length :=
    quoteEnd_passed others
  simpa using passed

/-- A string goes on behind a backslash and the character that it hides. -/
theorem quoteEnd_escape (ascii : q.utf8Size = 1) (other : byteOf '\\' ≠ byteOf q)
    (before t : Text) (c : Char) :
  quoteEnd (before ++ '\\' :: c :: t).bytes (byteOf q) before.byteSize
    = quoteEnd (before ++ '\\' :: c :: t).bytes (byteOf q) (before ++ ['\\', c]).byteSize
  := by
  obtain ⟨b, more, form⟩ : ∃ b more, String.utf8EncodeChar c = b :: more := by
    apply List.exists_cons_of_length_pos
    rw [String.length_utf8EncodeChar]
    exact c.utf8Size_pos
  have others : ∀ b ∈ more, b ≠ byteOf q ∧ b ≠ byteOf '\n' ∧ b ≠ byteOf '\\' := by
    intro b among
    have long : c.utf8Size ≠ 1 := by
      intro short
      rw [Text.utf8EncodeChar_of_ascii short] at form
      obtain ⟨-, rfl⟩ := List.cons.inj form
      contradiction
    have large : 128 ≤ b.toNat := by
      apply Text.le_of_mem_utf8EncodeChar long
      rw [form]
      exact List.mem_cons_of_mem _ among
    have distinct : ∀ mark : Char, mark.utf8Size = 1 → b ≠ byteOf mark := by
      rintro mark short rfl
      obtain ⟨mark_eq, small⟩ := Text.toNat_byteOf short
      omega
    exact ⟨distinct q ascii, distinct '\n' rfl, distinct '\\' rfl⟩
  have size_eq : more.length + 1 = c.utf8Size := by
    rw [← String.length_utf8EncodeChar, form, List.length_cons]
  have bytes_eq : (before ++ '\\' :: c :: t).bytes
      = before.bytes ++ byteOf '\\' :: (b :: more ++ t.bytes) := by
    rw [Text.bytes_append, Text.bytes_cons, Text.bytes_cons, form]
    rfl
  have passed : quoteEnd (before.bytes ++ [byteOf '\\', b] ++ more ++ t.bytes) (byteOf q)
      (before.bytes ++ [byteOf '\\', b]).length
        = quoteEnd (before.bytes ++ [byteOf '\\', b] ++ more ++ t.bytes) (byteOf q)
          (before.bytes ++ [byteOf '\\', b] ++ more).length :=
    quoteEnd_passed others
  have place : (before ++ ['\\', c]).byteSize
      = (before.bytes ++ [byteOf '\\', b] ++ more).length := by
    simp only [Text.byteSize_append, Text.byteSize_cons, Text.byteSize_nil, List.length_append,
      Text.length_bytes, List.length_cons, List.length_nil, ← size_eq]
    have : '\\'.utf8Size = 1 := rfl
    omega
  rw [bytes_eq, ← Text.length_bytes before, quoteEnd_hidden other, place]
  simpa using passed

/-- A string is blanked out up to the quote or the line feed that ends it. -/
theorem hiddenUpTo_quoteEnd (ascii : q.utf8Size = 1) (other : q ≠ '\\') (before t : Text) :
  HiddenUpTo (.quoted q) before t
    (min (quoteEnd (before ++ t).bytes (byteOf q) before.byteSize) (before ++ t).byteSize) 1
  := by
  have byte_other : byteOf '\\' ≠ byteOf q := by
    intro same
    apply other
    apply Text.eq_of_byteOf_mem rfl
    rw [same, Text.utf8EncodeChar_of_ascii ascii]
    exact List.mem_singleton_self _
  induction size : t.length using Nat.strongRecOn generalizing t before with
  | _ n ih =>
  by_cases ended : ∃ c behind, t = c :: behind ∧ (c = q ∨ c = '\n')
  · obtain ⟨c, behind, rfl, ends⟩ := ended
    have short : c.utf8Size = 1 := by
      rcases ends with rfl | rfl
      · exact ascii
      · rfl
    refine ⟨[], [c], behind, rfl, maskFrom_quoted_closed other ends behind, ?_, .inl short⟩
    have byte_ends : byteOf c = byteOf q ∨ byteOf c = byteOf '\n' := by
      rcases ends with rfl | rfl
      · exact .inl rfl
      · exact .inr rfl
    have found : quoteEnd (before.bytes ++ byteOf c :: Text.bytes behind) (byteOf q)
        before.bytes.length = before.bytes.length :=
      quoteEnd_ended byte_ends
    rw [Text.bytes_append, Text.bytes_cons, Text.utf8EncodeChar_of_ascii short,
      List.singleton_append, ← Text.length_bytes before, found]
    simp
  match t with
  | [] =>
    refine ⟨[], [], [], rfl, rfl, ?_, .inr ⟨rfl, rfl⟩⟩
    rw [quoteEnd, dif_neg (by simp), List.append_nil, Nat.min_self]
  | c :: t =>
    have no_quote : c ≠ q := fun same => ended ⟨c, t, rfl, .inl same⟩
    have no_feed : c ≠ '\n' := fun same => ended ⟨c, t, rfl, .inr same⟩
    by_cases no_backslash : c ≠ '\\'
    · obtain ⟨hidden, closing, rest, rfl, masked_eq, end_eq, closes⟩ :=
        ih t.length (by simp [← size]) (before ++ [c]) t rfl
      refine ⟨c :: hidden, closing, rest, by simp, ?_, ?_, closes⟩
      · have hides_none : c = '\\' → hidden ++ closing ++ rest = [] :=
          fun same => absurd same no_backslash
        rw [maskFrom_quoted_hidden no_quote no_feed hides_none, masked_eq]
        simp
      · rw [quoteEnd_char ascii no_quote no_feed no_backslash]
        simpa using end_eq
    obtain rfl := not_not.mp no_backslash
    match t with
    | [] =>
      refine ⟨['\\'], [], [], rfl, ?_, ?_, .inr ⟨rfl, rfl⟩⟩
      · rw [maskFrom_quoted_hidden no_quote no_feed fun _ => rfl]
        rfl
      · have hidden : quoteEnd (before.bytes ++ [byteOf '\\']) (byteOf q) before.bytes.length
            = quoteEnd (before.bytes ++ [byteOf '\\']) (byteOf q) (before.bytes.length + 2) :=
          quoteEnd_hidden byte_other
        have form : (before ++ ['\\']).bytes = before.bytes ++ [byteOf '\\'] :=
          Text.bytes_append before ['\\']
        rw [form, ← Text.length_bytes before, hidden, quoteEnd, dif_neg (by simp)]
        have : '\\'.utf8Size = 1 := rfl
        simp [this]
    | c :: t =>
      have shorter : t.length < n := by
        rw [← size, List.length_cons, List.length_cons]
        omega
      obtain ⟨hidden, closing, rest, rfl, masked_eq, end_eq, closes⟩ :=
        ih t.length shorter (before ++ ['\\', c]) t rfl
      refine ⟨'\\' :: c :: hidden, closing, rest, by simp, ?_, ?_, closes⟩
      · have : blank '\\' = [' '] := rfl
        rw [maskFrom, masked_eq]
        simp [this]
      · rw [quoteEnd_escape ascii byte_other]
        simpa using end_eq

/-! ### Steps -/

section

variable {text : Text} {i j : Nat} {b : UInt8} {pre part post : List UInt8}

/-- Nothing is blanked out from a byte on that starts no comment, string or script. -/
theorem maskStep?_idle (here : text.bytes[i]? = some b)
    (no_comment : b = byteOf '/' → text.bytes[i + 1]? ≠ some (byteOf '*')
      ∧ text.bytes[i + 1]? ≠ some (byteOf '/'))
    (no_mark : b ≠ byteOf '"' ∧ b ≠ byteOf '\'' ∧ b ≠ byteOf '`') :
  maskStep? text out i = some (out, i + 1)
  := by
  obtain ⟨no_double, no_single, no_backtick⟩ := no_mark
  have no_block : ¬ (b = byteOf '/' ∧ text.bytes[i + 1]? = some (byteOf '*')) :=
    fun ⟨slash, star⟩ => (no_comment slash).1 star
  have no_line : ¬ (b = byteOf '/' ∧ text.bytes[i + 1]? = some (byteOf '/')) :=
    fun ⟨slash, slashes⟩ => (no_comment slash).2 slashes
  simp [maskStep?, here, no_block, no_line, no_double, no_single, no_backtick]

/-- Bytes that start no comment, string or script are passed one by one. -/
theorem Masking.pass (bytes_eq : text.bytes = pre ++ part ++ post)
    (idle : ∀ b ∈ part, b ≠ byteOf '/' ∧ b ≠ byteOf '"' ∧ b ≠ byteOf '\'' ∧ b ≠ byteOf '`')
    (further : Masking text out (pre ++ part).length result) :
  Masking text out pre.length result
  := by
  induction part generalizing pre with
  | nil => rwa [List.append_nil] at further
  | cons b part ih =>
    obtain ⟨no_slash, no_mark⟩ := idle b List.mem_cons_self
    have here : text.bytes[pre.length]? = some b := by
      rw [bytes_eq]
      simp
    have inside : pre.length < text.byteSize := by
      rw [← Text.length_bytes, bytes_eq]
      simp
    apply Masking.step inside (maskStep?_idle here (fun same => absurd same no_slash) no_mark)
    have rest : Masking text out (pre ++ [b]).length result := by
      apply ih (by simpa using bytes_eq) fun b among => idle b (List.mem_cons_of_mem _ among)
      simpa using further
    simpa using rest

end

theorem getElem?_bytes (before t : Text) :
  (before ++ t).bytes[before.byteSize]? = t.bytes.head?
  := by
  rw [← Text.drop_bytes before t, List.head?_drop]

theorem getElem?_bytes_next (short : c.utf8Size = 1) (before t : Text) :
  (before ++ c :: t).bytes[before.byteSize + 1]? = t.bytes.head?
  := by
  have place : (before ++ [c]).byteSize = before.byteSize + 1 := by simp [short]
  rw [← getElem?_bytes (before ++ [c]) t, place, List.append_assoc, List.singleton_append]

/-! ### Masking -/

/-- Masking comes to the mask of what is behind a cut, at the cuts with so few characters behind. -/
def MasksBehind (text : Text) (length : Nat) : Prop :=
  ∀ before done after : Text, text = before ++ after → done.byteSize = before.byteSize →
    after.length < length →
      Masking text (done ++ after).bytes before.byteSize (done ++ maskFrom .code after).bytes

variable {text : Text}

/-- Masking hides a region and goes on behind it. -/
theorem MasksBehind.region {region : Region} {t : Text} {stop size : Nat} (kept opening : Text)
    (masks : MasksBehind text after.length) (text_eq : text = before ++ after)
    (after_eq : after = kept ++ opening ++ t) (nonempty : kept ++ opening ≠ [])
    (hidden : HiddenUpTo region (before ++ kept ++ opening) t stop size)
    (masked_eq : maskFrom .code after = kept ++ opening.flatMap blank ++ maskFrom region t)
    (size_eq : done.byteSize = before.byteSize)
    (step : maskStep? text (done ++ after).bytes before.byteSize
      = hide? (done ++ after).bytes (before ++ kept).byteSize stop (stop + size)) :
  Masking text (done ++ after).bytes before.byteSize (done ++ maskFrom .code after).bytes
  := by
  obtain ⟨part, closing, rest, rfl, rest_eq, rfl, closes⟩ := hidden
  have some_left : 0 < (kept ++ opening).length := List.length_pos_iff.mpr nonempty
  have inside : before.byteSize < text.byteSize := by
    have := Text.byteSize_pos nonempty
    simp only [text_eq, after_eq, Text.byteSize_append] at this ⊢
    omega
  have start_eq : (before ++ kept).byteSize = (done ++ kept).byteSize := by
    simp [size_eq]
  have stop_eq : (before ++ kept ++ opening ++ part).byteSize
      = (done ++ kept ++ (opening ++ part)).byteSize := by
    simp [size_eq]
  have blanked := blankOut?_bytes (done ++ kept) (opening ++ part) (closing ++ rest)
  have out_eq : done ++ after = done ++ kept ++ (opening ++ part) ++ (closing ++ rest) := by
    simp [after_eq]
  rw [hide?, start_eq, stop_eq, out_eq, blanked, ← stop_eq, ← out_eq] at step
  apply Masking.step inside step
  rw [masked_eq, rest_eq]
  rcases closes with rfl | ⟨rfl, rfl⟩
  · have behind := masks (before ++ kept ++ opening ++ part ++ closing)
      (done ++ kept ++ (opening ++ part).flatMap blank ++ closing) rest
      (by simp [text_eq, after_eq]) (by simp [size_eq, byteSize_flatMap_blank])
      (by simp [after_eq] at some_left ⊢; omega)
    simpa [Nat.add_assoc] using behind
  · have masked : Masking text
        (done ++ kept ++ (opening ++ part).flatMap blank ++ ([] ++ [])).bytes
        ((before ++ kept ++ opening ++ part).byteSize + size)
        (done ++ kept ++ (opening ++ part).flatMap blank ++ ([] ++ [])).bytes := by
      apply Masking.done
      simp [text_eq, after_eq]
    simpa [maskFrom_nil] using masked

/-- A comment that ends with its line is looked for from its start on. -/
theorem searchEnd?_line (before t : Text) :
  searchEnd? (before ++ '/' :: '/' :: t) before.byteSize ['\n'] 0
    = searchEnd? (before ++ ['/', '/'] ++ t) (before ++ ['/', '/']).byteSize ['\n'] 0
  := by
  rw [searchEnd?, searchEnd?, Text.splitAt?_append, Text.splitAt?_append]
  have : '/'.utf8Size = 1 := rfl
  simp only [Option.map_some, Text.findBytes?]
  cases found : Text.splitFirst? ['\n'] t with
  | none => simp [Text.splitFirst?, Text.dropPrefix?, found]
  | some parts =>
    simp [Text.splitFirst?, Text.dropPrefix?, found, this]
    omega

theorem head?_bytes_ne {mark : Char} (short : mark.utf8Size = 1) (other : t.head? ≠ some mark) :
  t.bytes.head? ≠ some (byteOf mark)
  := fun first => other (Text.head?_eq_of_head?_bytes short first)

/-- Masking passes a character that starts no comment, string or script. -/
theorem MasksBehind.keep (masks : MasksBehind text (c :: t).length)
    (text_eq : text = before ++ c :: t)
    (no_comment : c = '/' → t.head? ≠ some '*' ∧ t.head? ≠ some '/')
    (no_mark : c ≠ '"' ∧ c ≠ '\'' ∧ c ≠ '`') (size_eq : done.byteSize = before.byteSize) :
  Masking text (done ++ c :: t).bytes before.byteSize (done ++ maskFrom .code (c :: t)).bytes
  := by
  have masked_eq : maskFrom .code (c :: t) = c :: maskFrom .code t := by
    rw [maskFrom]
    · simp [no_mark]
    · rintro behind rfl rfl
      exact (no_comment rfl).1 rfl
    · rintro behind rfl rfl
      exact (no_comment rfl).2 rfl
  have behind : Masking text (done ++ [c] ++ t).bytes (before ++ [c]).byteSize
      (done ++ [c] ++ maskFrom .code t).bytes :=
    masks (before ++ [c]) (done ++ [c]) t (by simp [text_eq]) (by simp [size_eq]) (by simp)
  rw [masked_eq]
  obtain ⟨no_double, no_single, no_backtick⟩ := no_mark
  by_cases slash : c = '/'
  · subst slash
    obtain ⟨no_star, no_slash⟩ := no_comment rfl
    have here : text.bytes[before.byteSize]? = some (byteOf '/') := by
      rw [text_eq]
      exact getElem?_bytes before _
    have next : text.bytes[before.byteSize + 1]? = t.bytes.head? := by
      rw [text_eq]
      exact getElem?_bytes_next rfl before t
    have inside : before.byteSize < text.byteSize := by
      rw [text_eq, Text.byteSize_append, Text.byteSize_cons]
      have := '/'.utf8Size_pos
      omega
    have place : (before ++ ['/']).byteSize = before.byteSize + 1 :=
      Text.byteSize_append before ['/']
    apply Masking.step inside (maskStep?_idle here _ _)
    · rw [← place]
      simpa using behind
    · intro _
      rw [next]
      exact ⟨head?_bytes_ne rfl no_star, head?_bytes_ne rfl no_slash⟩
    · decide
  · have bytes_eq : text.bytes = before.bytes ++ String.utf8EncodeChar c ++ t.bytes := by
      rw [text_eq, Text.bytes_append, Text.bytes_cons, List.append_assoc]
    rw [← Text.length_bytes]
    apply Masking.pass bytes_eq
    · intro b among
      exact ⟨Text.ne_byteOf_of_mem rfl slash among, Text.ne_byteOf_of_mem rfl no_double among,
        Text.ne_byteOf_of_mem rfl no_single among, Text.ne_byteOf_of_mem rfl no_backtick among⟩
    · simpa using behind

/-- A comment is blanked out up to the end that is found for it. -/
theorem maskStep?_block {before t : Text} {stop : Nat}
    (search : searchEnd? (before ++ ['/', '*'] ++ t) (before ++ ['/', '*']).byteSize ['*', '/'] 2
      = some stop) (out : List UInt8) :
  maskStep? (before ++ '/' :: '*' :: t) out before.byteSize = hide? out before.byteSize stop stop
  := by
  have here : (before ++ '/' :: '*' :: t).bytes[before.byteSize]? = some (byteOf '/') :=
    getElem?_bytes before _
  have next : (before ++ '/' :: '*' :: t).bytes[before.byteSize + 1]? = some (byteOf '*') :=
    getElem?_bytes_next rfl before _
  have place : (before ++ ['/', '*']).byteSize = before.byteSize + 2 :=
    Text.byteSize_append before ['/', '*']
  rw [List.append_assoc, place] at search
  rw [maskStep?, here, next, if_pos ⟨rfl, rfl⟩]
  exact congrArg (Option.bind · _) search

/-- A comment that ends with its line is blanked out up to the end that is found for it. -/
theorem maskStep?_line {before t : Text} {stop : Nat}
    (search : searchEnd? (before ++ ['/', '/'] ++ t) (before ++ ['/', '/']).byteSize ['\n'] 0
      = some stop) (out : List UInt8) :
  maskStep? (before ++ '/' :: '/' :: t) out before.byteSize = hide? out before.byteSize stop stop
  := by
  have here : (before ++ '/' :: '/' :: t).bytes[before.byteSize]? = some (byteOf '/') :=
    getElem?_bytes before _
  have next : (before ++ '/' :: '/' :: t).bytes[before.byteSize + 1]? = some (byteOf '/') :=
    getElem?_bytes_next rfl before _
  rw [← searchEnd?_line] at search
  rw [maskStep?, here, next, if_neg (by decide), if_pos ⟨rfl, rfl⟩]
  exact congrArg (Option.bind · _) search

/-- A script block is blanked out up to the mark that is found for it. -/
theorem maskStep?_script {before t : Text} {stop : Nat}
    (search : searchEnd? (before ++ ['`'] ++ t) (before ++ ['`']).byteSize ['`'] 0 = some stop)
    (out : List UInt8) :
  maskStep? (before ++ '`' :: t) out before.byteSize
    = hide? out (before ++ ['`']).byteSize stop (stop + 1)
  := by
  have here : (before ++ '`' :: t).bytes[before.byteSize]? = some (byteOf '`') :=
    getElem?_bytes before _
  have place : (before ++ ['`']).byteSize = before.byteSize + 1 := Text.byteSize_append before ['`']
  have no_slash : some (byteOf '`') ≠ some (byteOf '/') := by decide
  rw [List.append_assoc, place] at search
  rw [maskStep?, here, if_neg fun both => no_slash both.1, if_neg fun both => no_slash both.1,
    if_neg (by decide), if_pos rfl, place]
  exact congrArg (Option.bind · _) search

/-- A string is blanked out up to its end. -/
theorem maskStep?_quoted {q : Char} (mark : q = '"' ∨ q = '\'') (before t : Text)
    (out : List UInt8) :
  maskStep? (before ++ q :: t) out before.byteSize
    = let stop := min (quoteEnd (before ++ [q] ++ t).bytes (byteOf q) (before ++ [q]).byteSize)
        (before ++ [q] ++ t).byteSize
      hide? out (before ++ [q]).byteSize stop (stop + 1)
  := by
  have short : q.utf8Size = 1 := by
    rcases mark with rfl | rfl <;> rfl
  have here : (before ++ q :: t).bytes[before.byteSize]? = some (byteOf q) := by
    rw [getElem?_bytes, Text.bytes_cons, Text.utf8EncodeChar_of_ascii short]
    rfl
  have place : (before ++ [q]).byteSize = before.byteSize + 1 := by
    simp [short]
  have no_slash : some (byteOf q) ≠ some (byteOf '/') := by
    rcases mark with rfl | rfl <;> decide
  have is_mark : some (byteOf q) = some (byteOf '"') ∨ some (byteOf q) = some (byteOf '\'') := by
    rcases mark with rfl | rfl
    · exact .inl rfl
    · exact .inr rfl
  rw [maskStep?, here, if_neg fun both => no_slash both.1, if_neg fun both => no_slash both.1,
    if_pos is_mark, place, List.append_assoc]
  rfl

/--
Masking goes on behind any place with less text left than a bound.  The induction is on the bound
because a step may pass over a whole region.
-/
theorem masksBehind (text : Text) (length : Nat) :
  MasksBehind text length
  := by
  induction length with
  | zero =>
    intro before done after _ _ shorter
    exact absurd shorter (Nat.not_lt_zero _)
  | succ length ih =>
  intro before done after text_eq size_eq shorter
  have masks : MasksBehind text after.length := by
    intro before' done' rest text_eq' size_eq' shorter'
    exact ih before' done' rest text_eq' size_eq' (by omega)
  by_cases block : ∃ t, after = '/' :: '*' :: t
  · obtain ⟨t, rfl⟩ := block
    obtain ⟨stop, search, hidden⟩ := exists_hiddenUpTo_block (before ++ ['/', '*']) t
    apply masks.region [] ['/', '*'] text_eq rfl (by simp) (by simpa using hidden) rfl size_eq
    rw [text_eq, maskStep?_block search, List.append_nil, Nat.add_zero]
  by_cases line : ∃ t, after = '/' :: '/' :: t
  · obtain ⟨t, rfl⟩ := line
    obtain ⟨stop, search, hidden⟩ := exists_hiddenUpTo_line (before ++ ['/', '/']) t
    apply masks.region [] ['/', '/'] text_eq rfl (by simp) (by simpa using hidden) rfl size_eq
    rw [text_eq, maskStep?_line search, List.append_nil, Nat.add_zero]
  match after with
  | [] =>
    rw [text_eq, List.append_nil, maskFrom_nil]
    exact .done (Nat.le_refl _)
  | c :: t =>
    by_cases quotes : c = '"' ∨ c = '\''
    · have short : c.utf8Size = 1 := by
        rcases quotes with rfl | rfl <;> rfl
      have other : c ≠ '\\' := by
        rcases quotes with rfl | rfl <;> decide
      have hidden := hiddenUpTo_quoteEnd short other (before ++ [c]) t
      apply masks.region [c] [] text_eq rfl (by simp) (by simpa using hidden) _ size_eq
      · rw [text_eq, maskStep?_quoted quotes]
        simp
      · rcases quotes with rfl | rfl <;> rfl
    by_cases script : c = '`'
    · subst script
      obtain ⟨stop, search, hidden⟩ := exists_hiddenUpTo_script (before ++ ['`']) t
      apply masks.region ['`'] [] text_eq rfl (by simp) (by simpa using hidden) rfl size_eq
      rw [text_eq, maskStep?_script search]
    · obtain ⟨no_double, no_single⟩ := not_or.mp quotes
      apply masks.keep text_eq _ ⟨no_double, no_single, script⟩ size_eq
      rintro rfl
      constructor
      · intro star
        obtain ⟨behind, rfl⟩ := List.head?_eq_some_iff.mp star
        exact block ⟨behind, rfl⟩
      · intro slash
        obtain ⟨behind, rfl⟩ := List.head?_eq_some_iff.mp slash
        exact line ⟨behind, rfl⟩

/--
Masking a text byte by byte comes to its end, takes the text apart at cuts only, blanks out no
bytes outside, and leaves the form of the mask.
-/
theorem masking (text : Text) :
  Masking text text.bytes 0 (mask text).bytes
  := masksBehind text (text.length + 1) [] [] text rfl rfl (Nat.lt_succ_self _)

end EditorModes.Less
