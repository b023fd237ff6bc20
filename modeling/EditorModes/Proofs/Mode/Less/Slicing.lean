import EditorModes.Mode.Less.Color
import EditorModes.Mode.Less.Indentation
import EditorModes.Proofs.Mode.Less.SlicedSheet

/-!
# Analysis by byte offsets

Completions, colors and indentation are found by byte offsets into a stylesheet and into its mask,
which differ in where they have characters.  A word that is typed starts at a cut of the stylesheet,
which is one of the mask; a color starts and ends at cuts of the mask, which are some of the
stylesheet.  So every cut is found and the same comes out (`Less.slicedSuggestions?_eq`,
`Less.slicedColors?_eq`, `Less.slicedIndentation?_eq`).
-/

namespace EditorModes.Less

variable {text masked prior : Text} {c : Char}

/-! ### Statements -/

/-- The part of a text behind the last end of a statement, cut out behind its byte. -/
def slicedStatement? (t : Text) : Option Text :=
  match (t.indices 0).reverse.find? fun c => isStatementEnd c.2 with
  | none => some t
  | some (i, _) => (t.splitAt? (i + 1)).map (·.2)

/-- Statements are cut out behind the byte that ends the one before. -/
theorem slicedStatement?_eq (t : Text) :
  slicedStatement? t = some (openStatement t)
  := by
  obtain ⟨before, parts, all, last⟩ := Text.exists_suffixWhile (fun c => !isStatementEnd c) t
  have found := (Text.indices_suffix all last).2
  rw [← parts] at found
  simp only [Bool.not_not] at found
  rw [slicedStatement?, found, openStatement]
  rcases List.eq_nil_or_concat before with rfl | ⟨first, c, rfl⟩
  · rw [List.nil_append] at parts
    rw [← parts]
    rfl
  · have ends : isStatementEnd c = true := by simpa using last c
    have size_eq : Text.byteSize first + 1 = Text.byteSize (first ++ [c]) := by
      simp [utf8Size_of_isStatementEnd ends]
    have cut := Text.splitAt?_append (first ++ [c]) (t.suffixWhile fun c => !isStatementEnd c)
    rw [List.concat_eq_append] at parts
    rw [← parts, ← size_eq] at cut
    have last_eq : (Text.indices 0 (first ++ [c])).getLast? = some (Text.byteSize first, c) := by
      rw [Text.indices_append, Nat.zero_add]
      simp [Text.indices]
    rw [List.concat_eq_append, last_eq]
    simp [cut]

theorem openStatement_append_singleton (t : Text) (c : Char) :
  openStatement (t ++ [c]) = if isStatementEnd c then [] else openStatement t ++ [c]
  := by
  simp only [openStatement, Text.suffixWhile, List.reverse_append, List.reverse_singleton,
    List.singleton_append, List.takeWhile_cons]
  cases isStatementEnd c with
  | true => rfl
  | false => simp

/-! ### Choices -/

/-- The members of a list that are chosen; none when it cannot be told of one of them. -/
def sift? (choose : α → Option Bool) : List α → Option (List α)
  | [] => some []
  | a :: l => do
    let chosen ← choose a
    let rest ← sift? choose l
    return if chosen then a :: rest else rest

/-- The members are chosen when it can be told of each of them. -/
theorem sift?_eq_filter {choose : α → Option Bool} {p : α → Bool} {l : List α}
    (told : ∀ a ∈ l, choose a = some (p a)) :
  sift? choose l = some (l.filter p)
  := by
  induction l with
  | nil => rfl
  | cons a l ih =>
    rw [sift?, told a List.mem_cons_self, ih fun b among => told b (List.mem_cons_of_mem a among),
      List.filter_cons]
    rfl

/-- The chosen members are those of which it is told. -/
theorem mem_sift?_iff {choose : α → Option Bool} {l chosen : List α} {a : α}
    (sifted : sift? choose l = some chosen) :
  a ∈ chosen ↔ a ∈ l ∧ choose a = some true
  := by
  induction l generalizing chosen with
  | nil =>
    rw [← Option.some.inj sifted]
    simp
  | cons b l ih =>
    simp only [sift?, Option.bind_eq_bind, Option.bind_eq_some_iff, Option.pure_def,
      Option.some.injEq] at sifted
    obtain ⟨first, told, rest, sifted, rfl⟩ := sifted
    rw [List.mem_cons, or_and_right, ← ih sifted]
    cases first with
    | true =>
      rw [if_pos rfl, List.mem_cons]
      exact or_congr_left (iff_self_and.mpr fun same => same ▸ told)
    | false =>
      rw [if_neg Bool.false_ne_true]
      refine (or_iff_right ?_).symm
      rintro ⟨rfl, chosen⟩
      rw [told] at chosen
      simp at chosen

/-! ### Completions -/

/-- Where the word that is being typed at the end of a text starts. -/
def typedStart (before : Text) : Nat :=
  (((before.indices 0).reverse.takeWhile fun c => isTyped c.2).getLast?.map (·.1)).getD
    before.byteSize

/-- What may be typed at a byte offset, found by byte offsets. -/
def slicedSuggestions? (text : Text) (offset : Nat) : Option (List Suggestion) := do
  let (before, _) ← text.splitAt? (text.floorCut (min offset text.byteSize))
  let start := typedStart before
  match ← text.slice? start before.byteSize with
  | '@' :: name =>
    let sheet ← slicedSheet? text
    let declared := sheet.suggestVariables start [] sheet.occurrences
    let rules := atRules.map fun rule => (⟨'@' :: rule.toList, .keyword, none⟩ : Suggestion)
    sift? (fun s => (s.label.splitAt? 1).map fun (_, rest) => Text.startsWith rest name)
      (declared ++ rules)
  | typed =>
    let (masked, _) ← (mask text).splitAt? start
    if braceBalance masked ≤ 0 then return []
    if (← slicedStatement? masked).contains ':' then return suggestWords typed .value values
    return suggestWords typed .property properties

theorem typedStart_append {before typed : Text} (all : ∀ c ∈ typed, isTyped c = true)
    (last : ∀ c ∈ before.getLast?, isTyped c = false) :
  typedStart (before ++ typed) = before.byteSize
  := by
  rw [typedStart, (Text.indices_suffix all last).1, List.getLast?_reverse]
  cases typed with
  | nil => simp [Text.indices]
  | cons c typed => rfl

/-- Variables that are suggested have their names for labels. -/
theorem exists_of_mem_suggestVariables {sheet : Stylesheet} {start : Nat} {seen : List Text}
    {occurrences : List Occurrence} {s : Suggestion}
    (among : s ∈ sheet.suggestVariables start seen occurrences) :
  ∃ o ∈ occurrences, s.label = o.name
  := by
  induction occurrences generalizing seen with
  | nil => simp [Stylesheet.suggestVariables] at among
  | cons o rest ih =>
    have later {seen : List Text} (among : s ∈ sheet.suggestVariables start seen rest) :
        ∃ o' ∈ o :: rest, s.label = o'.name := by
      obtain ⟨o', listed, label_eq⟩ := ih among
      exact ⟨o', List.mem_cons_of_mem _ listed, label_eq⟩
    rw [Stylesheet.suggestVariables] at among
    split at among
    · exact later among
    · rcases List.mem_cons.mp among with rfl | among
      · exact ⟨o, List.mem_cons_self, rfl⟩
      · exact later among

/-- The labels of variables and at-rules may be cut behind their `@`. -/
theorem sift?_labels {sheet : Stylesheet} (isOf : sheet.IsOf text) (start : Nat) (name : Text) :
  let declared := sheet.suggestVariables start [] sheet.occurrences
  let rules := atRules.map fun rule => (⟨'@' :: rule.toList, .keyword, none⟩ : Suggestion)
  sift? (fun s => (s.label.splitAt? 1).map fun (_, rest) => Text.startsWith rest name)
      (declared ++ rules)
    = some ((declared ++ rules).filter fun s => Text.startsWith (s.label.drop 1) name)
  := by
  intro declared rules
  apply sift?_eq_filter
  intro s among
  obtain ⟨rest, label_eq⟩ : ∃ rest, s.label = '@' :: rest := by
    rcases List.mem_append.mp among with among | among
    · obtain ⟨o, listed, label_eq⟩ := exists_of_mem_suggestVariables among
      obtain ⟨use, used, same⟩ := exists_of_mem_forall₂ isOf.occurrences listed
      obtain ⟨before, rest, -, read⟩ := exists_variableAt?_of_mem used
      exact ⟨_, label_eq.trans (same.name_eq.trans (eq_of_variableAt? read).1)⟩
    · obtain ⟨rule, -, rfl⟩ := List.mem_map.mp among
      exact ⟨_, rfl⟩
  have cut : Text.splitAt? ('@' :: rest) 1 = some (['@'], rest) :=
    Text.splitAt?_append ['@'] rest
  rw [label_eq, cut]
  rfl

/-- Completions are found by byte offsets, which are all cuts. -/
theorem slicedSuggestions?_eq (text : Text) (offset : Nat) :
  ∃ suggestions, slicedSuggestions? text offset = some suggestions
    ∧ suggestionsAt? text offset = some suggestions
  := by
  obtain ⟨text_eq, size_le, -⟩ := Text.splitFloor_spec text offset
  have within : (text.splitFloor offset).1.byteSize ≤ text.byteSize :=
    Text.IsCut.le_byteSize ⟨_, _, text_eq, rfl⟩
  have floor_eq := Text.floorCut_eq (Nat.le_min.mpr ⟨size_le, within⟩) (Nat.min_le_left _ _)
  rw [slicedSuggestions?, suggestionsAt?, floor_eq]
  generalize text.splitFloor offset = parts at *
  obtain ⟨before, after⟩ := parts
  obtain ⟨prior, before_eq, all, last⟩ := Text.exists_suffixWhile isTyped before
  dsimp only at text_eq ⊢
  generalize Text.suffixWhile isTyped before = written at *
  have start_eq : typedStart before = prior.byteSize := by
    rw [before_eq, typedStart_append all last]
  have size_eq : before.byteSize - written.byteSize = prior.byteSize := by
    rw [before_eq, Text.byteSize_append, Nat.add_sub_cancel]
  have cut : text.splitAt? before.byteSize = some (before, after) := by
    rw [text_eq, Text.splitAt?_append]
  have word : text.slice? prior.byteSize before.byteSize = some written := by
    rw [text_eq, before_eq, Text.slice?_append]
  rw [cut]
  simp only [Option.bind_eq_bind, Option.bind_some, start_eq, size_eq, word]
  split
  · next name =>
    obtain ⟨sheet, analyzed, isOf⟩ := Stylesheet.exists_ofText? text
    rw [slicedSheet?_eq, analyzed]
    exact ⟨_, sift?_labels isOf _ name, rfl⟩
  · have isCut : text.IsCut prior.byteSize :=
      ⟨prior, written ++ after, by rw [text_eq, before_eq, List.append_assoc], rfl⟩
    obtain ⟨⟨masked, rest⟩, mask_cut⟩ := Option.isSome_iff_exists.mp
      (Text.isSome_splitAt?_iff.mpr ((mask_blanked text).isCut isCut))
    rw [mask_cut]
    simp only [Option.bind_some, slicedStatement?_eq]
    split
    · exact ⟨_, rfl, rfl⟩
    split
    · exact ⟨_, rfl, rfl⟩
    · exact ⟨_, rfl, rfl⟩

/-! ### Colors -/

/-- The spans of the colors in a masked text that starts at a byte offset, in values or not. -/
def colorsFrom (offset : Nat) (before : Option Char) : (skip : Nat) → Text → List Span
  | _, [] => []
  | skip, c :: t =>
    let rest (skip : Nat) := colorsFrom (offset + c.utf8Size) (some c) skip t
    match skip with
    | skip + 1 => rest skip
    | 0 =>
      match colorLength? before (c :: t) with
      | none => rest 0
      | some length =>
        ⟨offset, offset + Text.byteSize ((c :: t).take length)⟩ :: rest (length - 1)

/-- Whether a span of a masked text is in a value, told by the text before and behind it. -/
def slicedInValue? (masked : Text) (span : Span) : Option Bool := do
  let (before, _) ← masked.splitAt? span.start
  if !(← slicedStatement? before).contains ':' then return false
  let (_, after) ← masked.splitAt? span.stop
  return (Text.trimStart after).head? ≠ some '\x7b'

/-- The colors of a stylesheet in their order, found by byte offsets. -/
def slicedColors? (text : Text) : Option (List ColorUse) := do
  let masked := mask text
  let spans ← sift? (slicedInValue? masked) (colorsFrom 0 none 0 masked)
  let literals ← spans.mapM fun span => do
    return (⟨span, ← text.slice? span.start span.stop⟩ : ColorUse)
  let sheet ← slicedSheet? text
  return (literals ++ sheet.colorVariables).mergeSort fun a b => a.span.start ≤ b.span.start

/-- Whether a span is in a value is told by cuts before and behind it. -/
theorem slicedInValue?_append (before between after : Text) :
  slicedInValue? (before ++ between ++ after) ⟨before.byteSize, (before ++ between).byteSize⟩
    = some ((openStatement before).contains ':' && (Text.trimStart after).head? ≠ some '\x7b')
  := by
  have first : (before ++ between ++ after).splitAt? before.byteSize
      = some (before, between ++ after) := by
    rw [List.append_assoc, Text.splitAt?_append]
  rw [slicedInValue?, first, Text.splitAt?_append]
  simp only [Option.bind_eq_bind, Option.bind_some, slicedStatement?_eq]
  cases (openStatement before).contains ':' with
  | true => simp
  | false => rfl

theorem contains_openStatement_append (t : Text) (c : Char) :
  (openStatement (t ++ [c])).contains ':'
    = (!isStatementEnd c && ((openStatement t).contains ':' || c = ':'))
  := by
  rw [openStatement_append_singleton]
  cases isStatementEnd c with
  | true => rfl
  | false => simp [eq_comm]

/-- The colors in values are found by cuts of the masked text. -/
theorem sift?_colorsFrom (prior t : Text) (mark : Option Char) (skip : Nat) :
  sift? (slicedInValue? (prior ++ t)) (colorsFrom prior.byteSize mark skip t)
    = some (valueColorsFrom prior.byteSize mark ((openStatement prior).contains ':') skip t)
  := by
  induction t generalizing prior mark skip with
  | nil => rfl
  | cons c t ih =>
    have behind (skip : Nat) :
        sift? (slicedInValue? (prior ++ c :: t))
            (colorsFrom (prior.byteSize + c.utf8Size) (some c) skip t)
          = some (valueColorsFrom (prior.byteSize + c.utf8Size) (some c)
            (!isStatementEnd c && ((openStatement prior).contains ':' || c = ':')) skip t) := by
      have rest := ih (prior ++ [c]) (some c) skip
      rw [contains_openStatement_append, List.append_assoc, Text.byteSize_append] at rest
      exact rest
    cases skip with
    | succ skip =>
      rw [colorsFrom, valueColorsFrom]
      exact behind skip
    | zero =>
      rw [colorsFrom, valueColorsFrom]
      cases found : colorLength? mark (c :: t) with
      | none => exact behind 0
      | some length =>
        have told := slicedInValue?_append prior ((c :: t).take length) ((c :: t).drop length)
        rw [List.append_assoc, List.take_append_drop, Text.byteSize_append] at told
        simp only [sift?, told, behind, Option.bind_eq_bind, Option.bind_some]
        simp

/-- The name of a color function starts with a letter. -/
theorem exists_of_mem_colorFunctions {name : Text}
    (known : colorFunctions.contains (String.ofList name) = true) :
  ∃ c rest, name = c :: rest ∧ c ≠ ' ' ∧ c ≠ '@'
  := by
  rw [List.contains_iff_mem] at known
  simp only [colorFunctions, List.mem_cons, List.not_mem_nil, or_false] at known
  rw [← String.toList_ofList (l := name)]
  rcases known with name_eq | name_eq | name_eq | name_eq
  all_goals
    rw [name_eq]
    exact ⟨_, _, rfl, by decide, by decide⟩

/-- Calls of color functions start with the name of the function and end with a parenthesis. -/
theorem edged_of_callLength? {t : Text} {length : Nat} (found : callLength? t = some length) :
  Edged (t.take length)
  := by
  simp only [callLength?, Option.bind_eq_bind] at found
  split at found
  · simp at found
  next known =>
  split at found
  · next closing =>
    obtain rfl := Option.some.inj found
    rw [Bool.not_eq_true, Bool.not_eq_false'] at known
    obtain ⟨c, rest, name_eq, shown, -⟩ := exists_of_mem_colorFunctions known
    generalize List.length (List.takeWhile _ (List.drop _ t)) = arguments at *
    rw [name_eq] at closing ⊢
    have isFirst : c :: rest <+: t := by
      rw [← name_eq]
      exact (List.takeWhile_prefix _).trans (List.take_prefix _ _)
    constructor
    · obtain ⟨more, rfl⟩ := isFirst
      exact ⟨c, by simp, shown⟩
    · rw [List.head?_drop] at closing
      have length_eq : (c :: rest).length + arguments + 2
          = (c :: rest).length + 1 + arguments + 1 := by
        omega
      rw [length_eq, List.take_add_one, closing]
      exact ⟨')', by simp, by decide⟩
  · simp at found

/-- Colors start with a hash or with a name, and end with a digit or a parenthesis. -/
theorem edged_of_colorLength? {before : Option Char} {t : Text} {length : Nat}
    (found : colorLength? before t = some length) :
  Edged (t.take length)
  := by
  rw [colorLength?.eq_def] at found
  split at found
  · simp at found
  · next t =>
    dsimp only at found
    split at found
    · obtain rfl := Option.some.inj found
      have digits_eq : t.take (t.takeWhile isHexDigit).length = t.takeWhile isHexDigit :=
        (List.prefix_iff_eq_take.mp (List.takeWhile_prefix _)).symm
      rw [List.take_succ_cons, digits_eq]
      refine ⟨⟨'#', rfl, by decide⟩, ?_⟩
      rcases List.eq_nil_or_concat (t.takeWhile isHexDigit) with none | ⟨digits, c, digits_eq⟩
      · rw [none]
        exact ⟨'#', rfl, by decide⟩
      · have digit : isHexDigit c = true := by
          apply List.mem_takeWhile_imp (l := t)
          rw [digits_eq]
          simp
        refine ⟨c, ?_, ?_⟩
        · rw [digits_eq, List.concat_eq_append, ← List.cons_append]
          exact List.getLast?_concat
        · rintro rfl
          revert digit
          decide
    · simp at found
  · split at found
    · simp at found
    · exact edged_of_callLength? found

/-- No color starts like a variable. -/
theorem head?_ne_of_colorLength? {before : Option Char} {t : Text} {length : Nat}
    (found : colorLength? before t = some length) :
  t.head? ≠ some '@'
  := by
  intro first
  obtain ⟨t, rfl⟩ := List.head?_eq_some_iff.mp first
  rw [colorLength?] at found
  · split at found
    · simp at found
    · simp only [callLength?, Option.bind_eq_bind] at found
      split at found
      · simp at found
      next known =>
      rw [Bool.not_eq_true, Bool.not_eq_false'] at known
      obtain ⟨c, rest, name_eq, -, other⟩ := exists_of_mem_colorFunctions known
      exact other (List.cons.inj name_eq).1.symm
  · simp

/-- Each color stands where one is read. -/
theorem exists_colorLength?_of_mem {t : Text} {mark : Option Char} {skip : Nat} {span : Span}
    (among : span ∈ colorsFrom prior.byteSize mark skip t) :
  ∃ (before rest : Text) (last : Option Char) (length : Nat), prior ++ t = before ++ rest
    ∧ colorLength? last rest = some length
    ∧ span = ⟨before.byteSize, Text.byteSize (before ++ rest.take length)⟩
  := by
  induction t generalizing prior mark skip with
  | nil => simp [colorsFrom] at among
  | cons c t ih =>
    have later {skip : Nat}
        (among : span ∈ colorsFrom (prior.byteSize + c.utf8Size) (some c) skip t) :
        ∃ (before rest : Text) (last : Option Char) (length : Nat),
          prior ++ c :: t = before ++ rest ∧ colorLength? last rest = some length
            ∧ span = ⟨before.byteSize, Text.byteSize (before ++ rest.take length)⟩ := by
      have size_eq : (prior ++ [c]).byteSize = prior.byteSize + c.utf8Size :=
        Text.byteSize_append prior [c]
      rw [← size_eq] at among
      have found := ih among
      rwa [List.append_assoc] at found
    cases skip with
    | succ skip =>
      rw [colorsFrom] at among
      exact later among
    | zero =>
      rw [colorsFrom] at among
      cases found : colorLength? mark (c :: t) with
      | none =>
        rw [found] at among
        exact later among
      | some length =>
        rw [found] at among
        rcases List.mem_cons.mp among with rfl | among
        · exact ⟨prior, c :: t, mark, length, rfl, found, by rw [Text.byteSize_append]⟩
        · exact later among

theorem firmSpan_of_mem_colorsFrom {t : Text} {mark : Option Char} {skip : Nat} {span : Span}
    (among : span ∈ colorsFrom prior.byteSize mark skip t) :
  FirmSpan (prior ++ t) span
  := by
  obtain ⟨before, rest, last, length, parts, found, rfl⟩ := exists_colorLength?_of_mem among
  have firm := (edged_of_colorLength? found).firmSpan before (rest.drop length)
  rwa [List.append_assoc before, List.take_append_drop, ← parts] at firm

theorem firmSpan_of_mem_valueColors {span : Span}
    (among : span ∈ valueColorsFrom 0 none false 0 masked) :
  FirmSpan masked span
  := by
  have listed : span ∈ colorsFrom (Text.byteSize []) none 0 masked :=
    ((mem_sift?_iff (sift?_colorsFrom [] masked none 0)).mp among).1
  exact firmSpan_of_mem_colorsFrom listed

/-- Variables that stand for colors are variables of the stylesheet. -/
theorem Stylesheet.exists_of_mem_colorVariables {sheet : Stylesheet} {color : ColorUse}
    (among : color ∈ sheet.colorVariables) :
  ∃ o ∈ sheet.occurrences, color.span = o.span
  := by
  obtain ⟨o, listed, made⟩ := List.mem_filterMap.mp among
  split at made
  · simp at made
  · obtain ⟨value, -, rfl⟩ := Option.map_eq_some_iff.mp made
    exact ⟨o, listed, rfl⟩

/-- The colors in the values of a stylesheet can all be cut out of it. -/
theorem exists_literals (text : Text) :
  ∃ literals : List ColorUse,
    (valueColorsFrom 0 none false 0 (mask text)).mapM (fun span => do
        return (⟨span, ← text.slice? span.start span.stop⟩ : ColorUse)) = some literals
      ∧ List.Forall₂ (fun span color => color.span = span)
        (valueColorsFrom 0 none false 0 (mask text)) literals
  := by
  apply exists_mapM
  intro span among
  obtain ⟨first, last⟩ := (firmSpan_of_mem_valueColors among).isCut_of_mask
  obtain ⟨value, value_cut⟩ :=
    Text.exists_slice? first last (firmSpan_of_mem_valueColors among).start_le
  exact ⟨⟨span, value⟩, by simp [value_cut], rfl⟩

/-- Colors are found by byte offsets, which are all cuts. -/
theorem slicedColors?_eq (text : Text) :
  ∃ sheet literals, Stylesheet.ofText? text = some sheet ∧ sheet.IsOf text
    ∧ (∀ color ∈ literals, FirmSpan (mask text) color.span)
    ∧ let colors := (literals ++ sheet.colorVariables).mergeSort fun a b =>
        a.span.start ≤ b.span.start
      slicedColors? text = some colors ∧ colors? text = some colors
  := by
  obtain ⟨literals, mapped, related⟩ := exists_literals text
  obtain ⟨sheet, analyzed, isOf⟩ := Stylesheet.exists_ofText? text
  refine ⟨sheet, literals, analyzed, isOf, fun color among => ?_, ?_, ?_⟩
  · obtain ⟨span, listed, span_eq⟩ := exists_of_mem_forall₂ related among
    rw [span_eq]
    exact firmSpan_of_mem_valueColors listed
  · have sifted := sift?_colorsFrom [] (mask text) none 0
    rw [List.nil_append, Text.byteSize_nil] at sifted
    rw [slicedColors?, sifted, slicedSheet?_eq, analyzed]
    exact congrArg (Option.bind · _) mapped
  · rw [colors?, analyzed]
    exact congrArg (Option.bind · _) mapped

/-! ### Indentation -/

/-- The edit that gives a line its indentation, when the one that is cut out is another. -/
def slicedEdit? (number : Nat) (line indent : Text) : Option (Option IndentEdit) := do
  let current := line.byteSize - line.trimStart.byteSize
  let (space, _) ← line.splitAt? current
  return if space = indent then none else some ⟨number, current, indent⟩

/-- The edits for lines and their masked forms, found by byte offsets. -/
def slicedIndentFrom? (unit : Text) (number : Nat) (depth : Int) :
    List (Text × Text) → Option (List IndentEdit)
  | [] => some []
  | (line, masked) :: rest => do
    let line := line.dropCarriageReturn
    let content := masked.trim
    if content = [] then
      let edit ← if line.trim = [] then slicedEdit? number line [] else some none
      return edit.toList ++ (← slicedIndentFrom? unit (number + 1) depth rest)
    else
      let level := if content.head? = some '\x7d' then depth - 1 else depth
      let edit ← slicedEdit? number line (indentation unit level.toNat)
      return edit.toList
        ++ (← slicedIndentFrom? unit (number + 1) (depth + braceBalance content) rest)

/-- The edits that indent a stylesheet, found by byte offsets. -/
def slicedIndentation? (text unit : Text) : Option (List IndentEdit) :=
  slicedIndentFrom? unit 0 0 ((text.splitOnChar '\n').zip ((mask text).splitOnChar '\n'))

/-- The white space of a line is cut out behind it. -/
theorem slicedEdit?_eq (number : Nat) (line indent : Text) :
  slicedEdit? number line indent = some (editIndent? number line indent)
  := by
  obtain ⟨space, rest, line_eq, space_eq, rest_eq⟩ : ∃ space rest : Text, line = space ++ rest
      ∧ line.takeWhile Property.isSpace = space ∧ line.trimStart = rest :=
    ⟨_, _, List.takeWhile_append_dropWhile.symm, rfl, rfl⟩
  have size_eq : line.byteSize - rest.byteSize = space.byteSize := by
    rw [line_eq, Text.byteSize_append, Nat.add_sub_cancel]
  have cut : line.splitAt? space.byteSize = some (space, rest) := by
    rw [line_eq, Text.splitAt?_append]
  rw [slicedEdit?, rest_eq, size_eq, cut, editIndent?, space_eq]
  rfl

/-- The edits for lines are found by byte offsets, which are all cuts. -/
theorem slicedIndentFrom?_eq (unit : Text) (number : Nat) (depth : Int)
    (lines : List (Text × Text)) :
  slicedIndentFrom? unit number depth lines = some (indentFrom unit number depth lines)
  := by
  induction lines generalizing number depth with
  | nil => rfl
  | cons line lines ih =>
    obtain ⟨line, masked⟩ := line
    rw [slicedIndentFrom?, indentFrom]
    simp only [slicedEdit?_eq, ih]
    split
    · split <;> rfl
    · rfl

theorem slicedIndentation?_eq (text unit : Text) :
  slicedIndentation? text unit = some (indentEdits text unit)
  := slicedIndentFrom?_eq unit 0 0 _

end EditorModes.Less
