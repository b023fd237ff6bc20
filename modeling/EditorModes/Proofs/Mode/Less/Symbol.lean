import EditorModes.Proofs.Mode.Less.Looking
import EditorModes.Proofs.Mode.Less.Stylesheet

/-!
# Queries about a variable

Whoever asks for the places of a variable, for its declarations or for its value is told about the
same places, whichever of them is asked at (`Stylesheet.occurrencesAt_eq`).  No two variables of a
stylesheet overlap, though they may touch.  A variable stands on one line and its name is not
blanked out, so its range leads back to its name (`Stylesheet.IsOf.exists_append`).
-/

namespace EditorModes.Less

variable {text masked : Text} {sheet : Stylesheet} {o : Occurrence} {offset q : Nat}

/-! ### Variables do not overlap -/

theorem ne_of_mem_variableUses {use : VariableUse} {name : Text} {c : Char}
    (used : use ∈ variableUses masked) (name_eq : use.name = '@' :: name) (among : c ∈ name) :
  c ≠ '@' ∧ c ≠ '\n' ∧ c ≠ '\r'
  := by
  obtain ⟨before, rest, -, read⟩ := exists_variableAt?_of_mem used
  obtain ⟨-, rfl⟩ := List.cons.inj (name_eq.symm.trans (eq_of_variableAt? read).1)
  have other : ∀ d ∈ ['@', '\n', '\r'], c ≠ d := ne_of_mem_nameAt among (by decide) (by decide)
  exact ⟨other _ (by simp), other _ (by simp), other _ (by simp)⟩

/-- A variable ends before the next one starts. -/
theorem stop_le_start {use next : VariableUse} (used : use ∈ variableUses masked)
    (next_used : next ∈ variableUses masked) (in_order : use.span.start < next.span.start) :
  use.span.stop ≤ next.span.start
  := by
  obtain ⟨before, name, after, masked_eq, stands⟩ := standsAt_of_mem_variableUses used
  obtain ⟨upTo, name', after', masked_eq', stands'⟩ := standsAt_of_mem_variableUses next_used
  rw [stands.span_eq, stands'.span_eq] at *
  dsimp only at in_order ⊢
  by_contra short
  have sign : Text.byteSize ['@'] = 1 := rfl
  have whole : before ++ '@' :: name <+: masked := by
    rw [masked_eq]
    apply List.prefix_append
  have first : before ++ ['@'] <+: upTo := by
    apply Text.prefix_of_byteSize_le (t := masked)
    · exact ⟨name ++ after, by simp [masked_eq]⟩
    · exact ⟨'@' :: name' ++ after', by simp [masked_eq']⟩
    · rw [Text.byteSize_append, sign]
      exact in_order
  obtain ⟨between, rfl⟩ := first
  have second : before ++ ['@'] ++ between ++ ['@'] <+: before ++ '@' :: name := by
    apply Text.prefix_of_byteSize_le (t := masked)
    · exact ⟨name' ++ after', by simp [masked_eq']⟩
    · exact whole
    · rw [Text.byteSize_append, sign]
      omega
  have part : between ++ ['@'] <+: name := by
    simpa using second
  exact (ne_of_mem_variableUses used stands.name_eq (part.subset (by simp))).1 rfl

/-- The variables of a masked stylesheet come in order and do not overlap. -/
theorem variableUses_apart (masked : Text) :
  (variableUses masked).Pairwise fun a b => a.span.stop ≤ b.span.start
  := by
  refine (variablesFrom_in_order 0 none masked).2.imp_of_mem fun used next_used in_order => ?_
  exact stop_le_start used next_used in_order

namespace Stylesheet

/-! ### The places of a variable -/

theorem IsOf.apart (isOf : sheet.IsOf text) :
  sheet.occurrences.Pairwise fun a b => a.span.stop ≤ b.span.start
  := isOf.pairwise_occurrences (R := fun a b => a.stop ≤ b.start) (variableUses_apart (mask text))

/-- A variable of a stylesheet stands in its text, on one line. -/
theorem IsOf.exists_append (isOf : sheet.IsOf text) (among : o ∈ sheet.occurrences) :
  ∃ before after : Text, text = before ++ o.name ++ after
    ∧ o.span = ⟨before.byteSize, (before ++ o.name).byteSize⟩
    ∧ o.name ≠ [] ∧ ∀ c ∈ o.name, c ≠ '\n' ∧ c ≠ '\r'
  := by
  obtain ⟨use, used, same⟩ := exists_of_mem_forall₂ isOf.occurrences among
  obtain ⟨before, name, after, masked_eq, stands⟩ := standsAt_of_mem_variableUses used
  have name_eq : o.name = '@' :: name := same.name_eq.trans stands.name_eq
  have blanked := mask_blanked text
  rw [masked_eq] at blanked
  obtain ⟨earlier, later, rfl, size_eq, -⟩ := by
    apply blanked.exists_append_run (List.cons_ne_nil _ _)
    intro c among
    rcases List.mem_cons.mp among with rfl | among
    · decide
    · exact (stands.plain c among).2
  refine ⟨earlier, later, by rw [name_eq], ?_, by simp [name_eq], fun c among => ?_⟩
  · rw [same.span_eq, stands.span_eq, name_eq, Text.byteSize_append, Text.byteSize_append, size_eq]
  · rw [name_eq] at among
    rcases List.mem_cons.mp among with rfl | among
    · decide
    · exact (ne_of_mem_variableUses used stands.name_eq among).2

theorem IsOf.start_lt_stop (isOf : sheet.IsOf text) (among : o ∈ sheet.occurrences) :
  o.span.start < o.span.stop
  := by
  obtain ⟨before, after, -, span_eq, nonempty, -⟩ := isOf.exists_append among
  rw [span_eq, Text.byteSize_append]
  exact Nat.lt_add_of_pos_right (Text.byteSize_pos nonempty)

/-- Behind the start of a variable and up to its end, it is the variable that stands there. -/
theorem IsOf.occurrenceAt?_eq (isOf : sheet.IsOf text) (among : o ∈ sheet.occurrences)
    (inside : o.span.start < q) (upTo : q ≤ o.span.stop) :
  sheet.occurrenceAt? q = some o
  := by
  obtain ⟨before, after, parts⟩ := List.append_of_mem among
  have apart := isOf.apart
  rw [parts] at apart
  rw [occurrenceAt?, List.find?_eq_some_iff_append]
  refine ⟨by simp [Nat.le_of_lt inside, upTo], before, after, parts, fun earlier listed => ?_⟩
  have ends := (List.pairwise_append.mp apart).2.2 earlier listed o List.mem_cons_self
  simp only [Bool.not_eq_true', Bool.and_eq_false_iff, decide_eq_false_iff_not]
  omega

theorem mem_occurrencesAt_iff :
  o ∈ sheet.occurrencesAt offset
    ↔ o ∈ sheet.occurrences ∧ ∃ here, sheet.occurrenceAt? offset = some here ∧ o.name = here.name
  := by
  rw [occurrencesAt]
  cases sheet.occurrenceAt? offset with
  | none => simp
  | some here => simp

theorem IsOf.occurrencesAt_eq (isOf : sheet.IsOf text) (among : o ∈ sheet.occurrencesAt offset)
    (inside : o.span.start < q) (upTo : q ≤ o.span.stop) :
  sheet.occurrencesAt q = sheet.occurrencesAt offset
  := by
  obtain ⟨listed, here, found, name_eq⟩ := mem_occurrencesAt_iff.mp among
  rw [occurrencesAt, isOf.occurrenceAt?_eq listed inside upTo, occurrencesAt, found]
  dsimp only
  rw [name_eq]

/-- The places of a variable come in order and do not overlap. -/
theorem IsOf.occurrencesAt_apart (isOf : sheet.IsOf text) (offset : Nat) :
  (sheet.occurrencesAt offset).Pairwise fun a b => a.span.stop ≤ b.span.start
  := by
  rw [occurrencesAt]
  cases sheet.occurrenceAt? offset with
  | none => exact .nil
  | some here => exact isOf.apart.filter _

theorem referencesAt_true (sheet : Stylesheet) (offset : Nat) :
  sheet.referencesAt offset true = (sheet.occurrencesAt offset).map (·.span)
  := by
  simp [referencesAt]

theorem declarationsAt_append_perm (sheet : Stylesheet) (offset : Nat) :
  (sheet.declarationsAt offset ++ sheet.referencesAt offset false).Perm
    (sheet.referencesAt offset true)
  := by
  rw [referencesAt_true, declarationsAt, referencesAt, ← List.map_append]
  exact (List.filter_append_perm _ _).map _

theorem exists_of_mem_referencesAt {s : Span} {all : Bool}
    (among : s ∈ sheet.referencesAt offset all) :
  ∃ o ∈ sheet.occurrencesAt offset, o.span = s
  := by
  obtain ⟨o, filtered, span_eq⟩ := List.mem_map.mp among
  exact ⟨o, List.mem_of_mem_filter filtered, span_eq⟩

theorem exists_of_mem_declarationsAt {s : Span} (among : s ∈ sheet.declarationsAt offset) :
  ∃ o ∈ sheet.occurrencesAt offset, o.span = s
  := by
  obtain ⟨o, filtered, span_eq⟩ := List.mem_map.mp among
  exact ⟨o, List.mem_of_mem_filter filtered, span_eq⟩

/-- The value of a variable is shown at the place where it was asked for. -/
theorem mem_referencesAt_of_hoverAt? {s : Span} {declaration : Text}
    (shown : sheet.hoverAt? offset = some (s, declaration)) :
  s ∈ sheet.referencesAt offset true
  := by
  simp only [hoverAt?, Option.bind_eq_bind, Option.bind_eq_some_iff, Option.pure_def,
    Option.some.injEq, Prod.mk.injEq] at shown
  obtain ⟨here, found, value, -, rfl, -⟩ := shown
  rw [referencesAt_true]
  apply List.mem_map_of_mem
  exact mem_occurrencesAt_iff.mpr ⟨List.mem_of_find?_eq_some found, here, found, rfl⟩

/-- No place of a variable is listed twice. -/
theorem IsOf.nodup_referencesAt (isOf : sheet.IsOf text) (offset : Nat) :
  (sheet.referencesAt offset true).Nodup
  := by
  rw [referencesAt_true, List.Nodup, List.pairwise_map]
  refine (isOf.occurrencesAt_apart offset).imp_of_mem fun among _ apart same => ?_
  have := isOf.start_lt_stop (mem_occurrencesAt_iff.mp among).1
  rw [same] at apart this
  omega

/-- The value of a variable is known when it is declared somewhere. -/
theorem isSome_valueOf?_iff (sheet : Stylesheet) (name : Text) :
  (sheet.valueOf? name).isSome ↔ ∃ o ∈ sheet.occurrences, o.name = name ∧ o.isDeclaration = true
  := by
  rw [valueOf?]
  cases last_eq : (sheet.occurrences.filter fun o => o.name = name && o.isDeclaration).getLast? with
  | none =>
    rw [List.getLast?_eq_none_iff, List.filter_eq_nil_iff] at last_eq
    simpa using last_eq
  | some last =>
    have among := List.mem_of_getLast? last_eq
    simp only [List.mem_filter, Bool.and_eq_true, decide_eq_true_eq] at among
    obtain ⟨listed, name_eq, declared⟩ := among
    exact iff_of_true declared ⟨last, listed, name_eq, declared⟩

/-- The value of a variable is shown when it is declared somewhere. -/
theorem isSome_hoverAt?_iff (sheet : Stylesheet) (offset : Nat) :
  (sheet.hoverAt? offset).isSome ↔ sheet.declarationsAt offset ≠ []
  := by
  rw [hoverAt?, declarationsAt, Ne, List.map_eq_nil_iff, List.filter_eq_nil_iff, occurrencesAt]
  cases sheet.occurrenceAt? offset with
  | none => simp
  | some here =>
    have known := sheet.isSome_valueOf?_iff here.name
    cases value_eq : sheet.valueOf? here.name with
    | none =>
      rw [value_eq] at known
      simpa [value_eq] using known
    | some value =>
      rw [value_eq] at known
      simpa [value_eq] using known

end Stylesheet

/-! ### Ranges of a variable -/

variable {d : Document} {p : Position}

theorem Stylesheet.IsOf.exists_range (isOf : sheet.IsOf text) (among : o ∈ sheet.occurrences) :
  ∃ r, text.rangeOf? o.span = some r ∧ text.spanOf? r = some o.span
  := by
  obtain ⟨before, after, rfl, span_eq, nonempty, one_line⟩ := isOf.exists_append among
  rw [span_eq]
  exact Text.exists_rangeOf?_of_append nonempty one_line

theorem Stylesheet.IsOf.slice?_eq (isOf : sheet.IsOf text) (among : o ∈ sheet.occurrences) :
  text.slice? o.span.start o.span.stop = some o.name
  := by
  obtain ⟨before, after, rfl, span_eq, -⟩ := isOf.exists_append among
  rw [span_eq]
  apply Text.slice?_append

/-- Locations in a document whose ranges lead back to spans. -/
def LeadBack (d : Document) (locations : List Location) (spans : List Span) : Prop :=
  locations.map (fun l => (l.uri, d.text.spanOf? l.range)) = spans.map fun s => (d.uri, some s)

/-- The span that a location leads back to is one of those that it was made for. -/
theorem LeadBack.mem {found : List Location} {spans : List Span} {l : Location} {s : Span}
    (back : LeadBack d found spans) (among : l ∈ found)
    (span_eq : d.text.spanOf? l.range = some s) :
  s ∈ spans
  := by
  have listed : (l.uri, d.text.spanOf? l.range) ∈ spans.map fun s => (d.uri, some s) := by
    rw [← back]
    exact List.mem_map.mpr ⟨l, among, rfl⟩
  obtain ⟨other, other_listed, pair_eq⟩ := List.mem_map.mp listed
  rw [span_eq] at pair_eq
  obtain rfl := Option.some.inj (Prod.mk.inj pair_eq).2
  exact other_listed

theorem finds_rangeOf {s : Span} {r : Range} (found : d.text.rangeOf? s = some r) :
  Finds (rangeOf d s) (.ok r)
  := by
  rw [rangeOf, found]
  apply Finds.pure

/-- The places of a variable are found at locations that lead back to them. -/
theorem exists_finds_locations {spans : List Span}
    (each : ∀ s ∈ spans, ∃ r, d.text.rangeOf? s = some r ∧ d.text.spanOf? r = some s) :
  ∃ found, Finds (locations d spans) (.ok (answerOfList found)) ∧ LeadBack d found spans
  := by
  obtain ⟨found, all_found, back⟩ : ∃ found,
      Finds (spans.mapM fun span => do return ⟨d.uri, ← rangeOf d span⟩) (.ok found)
        ∧ LeadBack d found spans := by
    apply Finds.exists_mapM
    intro s among
    obtain ⟨r, range_eq, back⟩ := each s among
    exact ⟨⟨d.uri, r⟩, (finds_rangeOf range_eq).bind_ok (.pure _), by rw [back]⟩
  exact ⟨found, all_found.bind_ok (.pure _), back⟩

/-- A query about a position is one about its offset in what is known of the stylesheet. -/
theorem finds_query (query : Stylesheet → Nat → T) {answer : T → Asking Workers α}
    {result : Except ProviderError α} (reached : d.text.offsetAt? p = some offset)
    (analyzed : Stylesheet.ofText? d.text = some sheet)
    (answered : Finds (answer (query sheet offset)) result) :
  Finds (do
    let offset ← offsetOf d p
    answer (← analyzeSheet d (query · offset))) result
  := by
  have at_offset : Finds (offsetOf d p) (.ok offset) := by
    rw [offsetOf, reached]
    apply Finds.pure
  have on_sheet : Finds (analyzeSheet d (query · offset)) (.ok (query sheet offset)) := by
    rw [analyzeSheet, analyzed]
    apply Finds.analyze
  exact at_offset.bind_ok (on_sheet.bind_ok answered)

theorem finds_outside (outside : d.text.offsetAt? p = none) :
  ∃ error, Finds (offsetOf d p) (.error error)
  := by
  rw [offsetOf, outside]
  exact ⟨_, .throw _⟩

section

variable (isOf : sheet.IsOf d.text) (reached : d.text.offsetAt? p = some offset)
  (analyzed : Stylesheet.ofText? d.text = some sheet)

include isOf reached analyzed

/-- The places of the variable at a position are found. -/
theorem exists_finds_references (all : Bool) :
  ∃ found, Finds (references d p all) (.ok (answerOfList found))
    ∧ LeadBack d found (sheet.referencesAt offset all)
  := by
  obtain ⟨found, all_found, back⟩ : ∃ found,
      Finds (locations d (sheet.referencesAt offset all)) (.ok (answerOfList found))
        ∧ LeadBack d found (sheet.referencesAt offset all) := by
    apply exists_finds_locations
    intro s among
    obtain ⟨o, listed, rfl⟩ := Stylesheet.exists_of_mem_referencesAt among
    exact isOf.exists_range (Stylesheet.mem_occurrencesAt_iff.mp listed).1
  exact ⟨found, finds_query (fun sheet offset => sheet.referencesAt offset all) reached analyzed
    all_found, back⟩

/-- The places where the variable at a position is declared are found. -/
theorem exists_finds_declarations :
  ∃ found, Finds (declarations d p) (.ok (answerOfList found))
    ∧ LeadBack d found (sheet.declarationsAt offset)
  := by
  obtain ⟨found, all_found, back⟩ : ∃ found,
      Finds (locations d (sheet.declarationsAt offset)) (.ok (answerOfList found))
        ∧ LeadBack d found (sheet.declarationsAt offset) := by
    apply exists_finds_locations
    intro s among
    obtain ⟨o, listed, rfl⟩ := Stylesheet.exists_of_mem_declarationsAt among
    exact isOf.exists_range (Stylesheet.mem_occurrencesAt_iff.mp listed).1
  exact ⟨found, finds_query Stylesheet.declarationsAt reached analyzed all_found, back⟩

/-- The places of the variable at a position are highlighted, where it is declared as written. -/
theorem exists_finds_highlights :
  ∃ lit, Finds (highlights d p) (.ok (answerOfList lit))
    ∧ lit.map (fun h => (d.text.spanOf? h.range, h.kind))
      = (sheet.occurrencesAt offset).map fun o =>
        (some o.span, some (if o.isDeclaration then HighlightKind.write else HighlightKind.read))
  := by
  obtain ⟨lit, all_found, back⟩ : ∃ lit,
      Finds ((sheet.occurrencesAt offset).mapM fun o => do
        return (⟨← rangeOf d o.span,
          some (if o.isDeclaration then HighlightKind.write else HighlightKind.read)⟩ : Highlight))
        (.ok lit)
      ∧ lit.map (fun h => (d.text.spanOf? h.range, h.kind))
        = (sheet.occurrencesAt offset).map fun o =>
          (some o.span,
            some (if o.isDeclaration then HighlightKind.write else HighlightKind.read)) := by
    apply Finds.exists_mapM
    intro o listed
    obtain ⟨r, range_eq, back⟩ :=
      isOf.exists_range (Stylesheet.mem_occurrencesAt_iff.mp listed).1
    exact ⟨_, (finds_rangeOf range_eq).bind_ok (.pure _), by rw [back]⟩
  exact ⟨lit, finds_query Stylesheet.occurrencesAt reached analyzed
    (all_found.bind_ok (.pure _)), back⟩

/-- The value of the variable at a position is shown at one of its places, if it has one. -/
theorem exists_finds_hover :
  ∃ shown, Finds (hover d p) (.ok shown)
    ∧ (shown.isSome ↔ (sheet.hoverAt? offset).isSome)
    ∧ ∀ h ∈ shown, ∃ r s, h.range = some r ∧ d.text.spanOf? r = some s
      ∧ s ∈ sheet.referencesAt offset true
  := by
  cases hover_eq : sheet.hoverAt? offset with
  | none =>
    refine ⟨none, finds_query Stylesheet.hoverAt? reached analyzed ?_, by simp, by simp⟩
    rw [hover_eq]
    apply Finds.pure
  | some found =>
    obtain ⟨span, declaration⟩ := found
    have among := Stylesheet.mem_referencesAt_of_hoverAt? hover_eq
    obtain ⟨o, listed, rfl⟩ := Stylesheet.exists_of_mem_referencesAt among
    obtain ⟨r, range_eq, back⟩ :=
      isOf.exists_range (Stylesheet.mem_occurrencesAt_iff.mp listed).1
    let contents : HoverContents :=
      .markup "markdown" ("```less\n" ++ String.ofList declaration ++ "\n```")
    refine ⟨some ⟨contents, some r⟩, finds_query Stylesheet.hoverAt? reached analyzed ?_, by simp,
      ?_⟩
    · rw [hover_eq]
      exact (finds_rangeOf range_eq).bind_ok (.pure _)
    · rintro _ ⟨⟩
      exact ⟨r, _, rfl, back, among⟩

end

/--
When some place is found for the variable at a position, all queries about it agree.  The places
where it is declared and the others are all its places, each of them once; they come in the order
of the text and do not overlap.  Its value is shown when it is declared somewhere.  Behind the start
of any of its places and up to its end, the places are the same.  Its name stands at each of them,
and the ranges that an editor gets lead back to them.
-/
theorem symbol_queries_agree {pool : Workers} {options : Options} {places : List Location}
    (holds : Holds pool options)
    (answered : ((references d p true).run.run pool).1 = .ok (some places)) :
  ∃ offset sheet here, d.text.offsetAt? p = some offset
    ∧ Stylesheet.ofText? d.text = some sheet
    ∧ sheet.occurrenceAt? offset = some here
    ∧ sheet.referencesAt offset true = (sheet.occurrencesAt offset).map (·.span)
    ∧ (sheet.declarationsAt offset ++ sheet.referencesAt offset false).Perm
      (sheet.referencesAt offset true)
    ∧ (∀ s ∈ sheet.declarationsAt offset, s ∉ sheet.referencesAt offset false)
    ∧ (sheet.referencesAt offset true).Pairwise (fun a b => a.stop ≤ b.start)
    ∧ ((sheet.hoverAt? offset).isSome ↔ sheet.declarationsAt offset ≠ [])
    ∧ (∀ s ∈ sheet.referencesAt offset true, s.start < s.stop
      ∧ d.text.slice? s.start s.stop = some here.name
      ∧ ∀ q, s.start < q → q ≤ s.stop → sheet.occurrencesAt q = sheet.occurrencesAt offset)
    ∧ LeadBack d places (sheet.referencesAt offset true)
    ∧ (∃ uses, ((references d p false).run.run pool).1 = .ok (answerOfList uses)
      ∧ LeadBack d uses (sheet.referencesAt offset false))
    ∧ (∃ declared, ((declarations d p).run.run pool).1 = .ok (answerOfList declared)
      ∧ LeadBack d declared (sheet.declarationsAt offset))
    ∧ (∃ lit, ((highlights d p).run.run pool).1 = .ok (answerOfList lit)
      ∧ lit.map (fun h => (d.text.spanOf? h.range, h.kind))
        = (sheet.occurrencesAt offset).map fun o =>
          (some o.span, some (if o.isDeclaration then HighlightKind.write else HighlightKind.read)))
    ∧ ∃ shown, ((hover d p).run.run pool).1 = .ok shown
      ∧ (shown.isSome ↔ sheet.declarationsAt offset ≠ [])
      ∧ ∀ h ∈ shown, ∃ r s, h.range = some r ∧ d.text.spanOf? r = some s
        ∧ s ∈ sheet.referencesAt offset true
  := by
  cases reached : d.text.offsetAt? p with
  | none =>
    obtain ⟨error, found⟩ := finds_outside reached
    have failed : Finds (references d p true) (.error error) := found.bind_error
    nomatch answered.symm.trans (failed.result_eq holds)
  | some offset =>
  obtain ⟨sheet, analyzed, isOf⟩ := Stylesheet.exists_ofText? d.text
  obtain ⟨all, all_found, all_back⟩ := exists_finds_references isOf reached analyzed true
  obtain ⟨uses, uses_found, uses_back⟩ := exists_finds_references isOf reached analyzed false
  obtain ⟨declared, declared_found, declared_back⟩ :=
    exists_finds_declarations isOf reached analyzed
  obtain ⟨lit, lit_found, lit_back⟩ := exists_finds_highlights isOf reached analyzed
  obtain ⟨shown, shown_found, shown_iff, shown_back⟩ := exists_finds_hover isOf reached analyzed
  obtain ⟨rfl, nonempty⟩ := eq_of_answerOfList
    (Except.ok.inj ((all_found.result_eq holds).symm.trans answered))
  obtain ⟨here, found⟩ : ∃ here, sheet.occurrenceAt? offset = some here := by
    apply Option.ne_none_iff_exists'.mp
    intro missing
    apply nonempty
    rw [LeadBack, Stylesheet.referencesAt_true, Stylesheet.occurrencesAt, missing] at all_back
    exact List.map_eq_nil_iff.mp all_back
  have perm := sheet.declarationsAt_append_perm offset
  obtain ⟨-, -, disjoint⟩ :=
    List.nodup_append.mp (perm.nodup_iff.mpr (isOf.nodup_referencesAt offset))
  refine ⟨offset, sheet, here, rfl, analyzed, found, sheet.referencesAt_true offset, perm,
    fun s declared used => disjoint s declared s used rfl, ?_, sheet.isSome_hoverAt?_iff offset,
    fun s among => ?_, all_back, ⟨uses, uses_found.result_eq holds, uses_back⟩,
    ⟨declared, declared_found.result_eq holds, declared_back⟩,
    ⟨lit, lit_found.result_eq holds, lit_back⟩,
    ⟨shown, shown_found.result_eq holds, ?_, shown_back⟩⟩
  · rw [sheet.referencesAt_true, List.pairwise_map]
    apply isOf.occurrencesAt_apart
  · obtain ⟨o, listed, rfl⟩ := Stylesheet.exists_of_mem_referencesAt among
    obtain ⟨o_listed, other, other_found, name_eq⟩ := Stylesheet.mem_occurrencesAt_iff.mp listed
    obtain rfl := Option.some.inj (found.symm.trans other_found)
    refine ⟨isOf.start_lt_stop o_listed, ?_, fun q => isOf.occurrencesAt_eq listed⟩
    rw [isOf.slice?_eq o_listed, name_eq]
  · rw [shown_iff, sheet.isSome_hoverAt?_iff]

/-- Where two places of a variable touch it is asked for, and right behind it is the second one. -/
theorem symbol_queries_agree_touching :
  let d : Document := ⟨"a.less", "less", 1,
    ['@', 'a', ':', '1', ';', 'b', '\x7b', 'c', ':', '@', 'a', '@', 'a', '\x7d']⟩
  ((references d ⟨0, 11⟩ true).run.run (workers 2 {})).1
      = .ok (some [⟨"a.less", ⟨⟨0, 0⟩, ⟨0, 2⟩⟩⟩, ⟨"a.less", ⟨⟨0, 9⟩, ⟨0, 11⟩⟩⟩,
        ⟨"a.less", ⟨⟨0, 11⟩, ⟨0, 13⟩⟩⟩])
    ∧ ∃ sheet, Stylesheet.ofText? d.text = some sheet ∧ ⟨11, 13⟩ ∈ sheet.referencesAt 11 true
      ∧ sheet.occurrencesAt 12 = sheet.occurrencesAt 11
      ∧ d.text.slice? 11 13 = d.text.slice? 9 11
  := by
  intro d
  have answered : ((references d ⟨0, 11⟩ true).run.run (workers 2 {})).1
      = .ok (some [⟨"a.less", ⟨⟨0, 0⟩, ⟨0, 2⟩⟩⟩, ⟨"a.less", ⟨⟨0, 9⟩, ⟨0, 11⟩⟩⟩,
        ⟨"a.less", ⟨⟨0, 11⟩, ⟨0, 13⟩⟩⟩]) := rfl
  obtain ⟨offset, sheet, here, reached, analyzed, -, -, -, -, -, -, same, back, -⟩ :=
    symbol_queries_agree (holds_workers 2 {}) answered
  obtain rfl : 11 = offset := Option.some.inj reached
  have first := back.mem (l := ⟨"a.less", ⟨⟨0, 9⟩, ⟨0, 11⟩⟩⟩) (s := ⟨9, 11⟩) (by simp) rfl
  have second := back.mem (l := ⟨"a.less", ⟨⟨0, 11⟩, ⟨0, 13⟩⟩⟩) (s := ⟨11, 13⟩) (by simp) rfl
  obtain ⟨-, first_name, -⟩ := same _ first
  obtain ⟨-, second_name, further⟩ := same _ second
  exact ⟨answered, sheet, analyzed, second, further 12 (by decide) (by decide),
    second_name.trans first_name.symm⟩

end EditorModes.Less
