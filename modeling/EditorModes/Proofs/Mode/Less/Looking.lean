import EditorModes.Proofs.Mode.Validation

/-!
# Requests that only look

Most requests about a stylesheet have it analyzed by the worker that answers requests, which is the
same worker afterwards.  What such a request finds depends neither on the workers nor on how many of
them there are (`Less.Finds`), as long as the worker can be created.
-/

namespace EditorModes.Less

/-- The result of an analysis, or that the worker crashed on it. -/
def resultOf (analysis : Option T) : Except ProviderError T :=
  match analysis with
  | some result => .ok result
  | none => .error (.worker (.crashed language))

/-- An analysis comes to its result on all pools with a property, and leaves them with it. -/
def Looking (property : Workers → Prop) : Prop :=
  ∀ {T : Type} (analysis : Option T), Meets property (analyze analysis) (resultOf analysis)

/-- A request that finds the same on all pools on which analyses come to their results. -/
def Finds (x : Asking Workers α) (result : Except ProviderError α) : Prop :=
  ∀ property, Looking property → Meets property x result

/-- Pools whose workers have the same options are such pools. -/
theorem looking_holds (o : Options) :
  Looking (Holds · o)
  := by
  intro T analysis pool holds
  have inside : WorkerPool.electedSlot < pool.slots.length := List.length_pos_iff.mpr holds.nonempty
  have keeps (w : Worker) : (w, analysis).1.options = w.options := rfl
  obtain ⟨worker, next, -, holds, -, ran⟩ := holds.exists_run inside keeps
  refine ⟨next, ?_, holds⟩
  rw [analyze, run_onWorkers, WorkerPool.runOnElected, ran]
  cases analysis with
  | some => rfl
  | none =>
    rw [WorkerPool.outcome, holds.language_eq]
    rfl

namespace Finds

theorem pure (a : α) :
  Finds (Pure.pure a) (.ok a)
  := fun _ _ => Meets.pure a

theorem throw (e : ProviderError) :
  Finds (MonadExcept.throw e : Asking Workers α) (.error e)
  := fun _ _ => Meets.throw e

theorem analyze (analysis : Option T) :
  Finds (Less.analyze analysis) (resultOf analysis)
  := fun _ looking => looking analysis

theorem bind {x : Asking Workers α} {f : α → Asking Workers β} {result : Except ProviderError α}
    {g : α → Except ProviderError β} (first : Finds x result)
    (more : ∀ a, result = .ok a → Finds (f a) (g a)) :
  Finds (x >>= f) (result.bind g)
  := fun _ looking => (first _ looking).bind fun a found => more a found _ looking

theorem mapM {f : α → Asking Workers β} {g : α → Except ProviderError β}
    (each : ∀ a, Finds (f a) (g a)) (l : List α) :
  Finds (l.mapM f) (l.mapM g)
  := fun _ looking => Meets.mapM (fun a => each a _ looking) l

theorem bind_ok {x : Asking Workers α} {f : α → Asking Workers β} {a : α}
    {result : Except ProviderError β} (first : Finds x (.ok a)) (more : Finds (f a) result) :
  Finds (x >>= f) result
  := by
  have all := first.bind (f := f) (g := fun _ => result) fun b found => by
    rwa [← Except.ok.inj found]
  exact all

theorem bind_error {x : Asking Workers α} {f : α → Asking Workers β} {e : ProviderError}
    (first : Finds x (.error e)) :
  Finds (x >>= f) (.error e)
  := by
  have all := first.bind (f := f) (g := fun _ => .error e) fun a found => by
    cases found
  exact all

/-- What is found for each member is found for all, one after another. -/
theorem exists_mapM {f : α → Asking Workers β} {g : β → γ} {h : α → γ} {l : List α}
    (each : ∀ a ∈ l, ∃ b, Finds (f a) (.ok b) ∧ g b = h a) :
  ∃ results, Finds (l.mapM f) (.ok results) ∧ results.map g = l.map h
  := by
  induction l with
  | nil => exact ⟨[], .pure [], rfl⟩
  | cons a l ih =>
    obtain ⟨b, found, same⟩ := each a List.mem_cons_self
    obtain ⟨results, all_found, all_same⟩ :=
      ih fun other among => each other (List.mem_cons_of_mem a among)
    refine ⟨b :: results, ?_, by rw [List.map_cons, List.map_cons, same, all_same]⟩
    rw [List.mapM_cons]
    exact found.bind_ok (all_found.bind_ok (.pure _))

theorem result_eq {x : Asking Workers α} {result : Except ProviderError α} {pool : Workers}
    {o : Options} (found : Finds x result) (holds : Holds pool o) :
  (x.run.run pool).1 = result
  := by
  obtain ⟨next, ran, -⟩ := found _ (looking_holds o) pool holds
  rw [ran]

end Finds

/-- A request that finds something, the same on all pools on which analyses come to their results. -/
def Looks (x : Asking Workers α) : Prop :=
  ∃ result, Finds x result

namespace Looks

theorem pure (a : α) :
  Looks (Pure.pure a)
  := ⟨_, .pure a⟩

theorem throw (e : ProviderError) :
  Looks (MonadExcept.throw e : Asking Workers α)
  := ⟨_, .throw e⟩

theorem analyze (analysis : Option T) :
  Looks (Less.analyze analysis)
  := ⟨_, .analyze analysis⟩

theorem ofCut? (value : Option α) :
  Looks (.ofCut? value)
  := by
  cases value with
  | some value => apply pure
  | none => apply throw

theorem bind {x : Asking Workers α} {f : α → Asking Workers β} (first : Looks x)
    (more : ∀ a, Looks (f a)) :
  Looks (x >>= f)
  := by
  obtain ⟨result, found⟩ := first
  choose g found_more using more
  exact ⟨_, found.bind fun a _ => found_more a⟩

theorem mapM {f : α → Asking Workers β} (each : ∀ a, Looks (f a)) (l : List α) :
  Looks (l.mapM f)
  := by
  choose g found using each
  exact ⟨_, .mapM found l⟩

end Looks

/-! ### The requests -/

variable (d : Document) (p : Position)

theorem looks_offsetOf :
  Looks (offsetOf d p)
  := by
  rw [offsetOf]
  cases d.text.offsetAt? p with
  | some offset => apply Looks.pure
  | none => apply Looks.throw

theorem looks_rangeOf (s : Span) :
  Looks (rangeOf d s)
  := Looks.ofCut? _

theorem looks_locations (spans : List Span) :
  Looks (locations d spans)
  := by
  apply Looks.bind
  · apply Looks.mapM
    intro span
    apply (looks_rangeOf d span).bind
    intro range
    apply Looks.pure
  · intro found
    apply Looks.pure

theorem looks_hover :
  Looks (hover d p)
  := by
  apply (looks_offsetOf d p).bind
  intro offset
  apply (Looks.analyze _).bind
  rintro (_ | ⟨span, declaration⟩)
  · apply Looks.pure
  · apply (looks_rangeOf d span).bind
    intro range
    apply Looks.pure

theorem looks_references (declarations : Bool) :
  Looks (references d p declarations)
  := by
  apply (looks_offsetOf d p).bind
  intro offset
  apply (Looks.analyze _).bind
  apply looks_locations

theorem looks_declarations :
  Looks (declarations d p)
  := by
  apply (looks_offsetOf d p).bind
  intro offset
  apply (Looks.analyze _).bind
  apply looks_locations

theorem looks_highlights :
  Looks (highlights d p)
  := by
  apply (looks_offsetOf d p).bind
  intro offset
  apply (Looks.analyze _).bind
  intro occurrences
  apply Looks.bind
  · apply Looks.mapM
    intro o
    apply (looks_rangeOf d o.span).bind
    intro range
    apply Looks.pure
  · intro found
    apply Looks.pure

theorem looks_outlineEntries (nodes : List OutlineNode) :
  Looks (outlineEntries d nodes)
  := by
  induction nodes using outlineEntries.induct with
  | case1 =>
    rw [outlineEntries]
    apply Looks.pure
  | case2 name kind span selection children nodes inside ih =>
    rw [outlineEntries]
    apply (looks_rangeOf d span).bind
    intro range
    apply (looks_rangeOf d selection).bind
    intro selected
    apply inside.bind
    intro entries
    apply ih.bind
    intro more
    apply Looks.pure

theorem looks_outline :
  Looks (outline d)
  := by
  apply (Looks.analyze _).bind
  intro nodes
  apply (looks_outlineEntries d nodes).bind
  intro entries
  apply Looks.pure

theorem looks_suggestions (cancelled : Bool) :
  Looks (suggestions d p cancelled)
  := by
  apply (looks_offsetOf d p).bind
  intro offset
  apply (Looks.analyze _).bind
  intro suggested
  cases cancelled <;> apply Looks.pure

theorem looks_stepValue (r : Range) (up : Bool) :
  Looks (stepValue d r up)
  := by
  rw [stepValue]
  split
  · apply Looks.pure
  · next span _ =>
    apply (Looks.ofCut? _).bind
    intro value
    apply (Looks.analyze _).bind
    rintro (_ | value)
    · apply Looks.pure
    · apply (looks_rangeOf d span).bind
      intro range
      apply Looks.pure

theorem looks_format (tabSize : Nat) (insertSpaces : Bool) :
  Looks (format d tabSize insertSpaces)
  := by
  apply (Looks.analyze _).bind
  intro edits
  apply Looks.pure

theorem looks_colors :
  Looks (colors d)
  := by
  apply (Looks.analyze _).bind
  intro uses
  apply Looks.bind
  · apply Looks.mapM
    intro c
    apply (looks_rangeOf d c.span).bind
    intro range
    apply Looks.pure
  · intro found
    apply Looks.pure

end EditorModes.Less
