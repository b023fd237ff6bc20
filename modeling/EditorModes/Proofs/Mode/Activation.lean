import EditorModes.Mode.Builtin
import EditorModes.Proofs.Lexer.Order
import EditorModes.Proofs.Registry.Order
import Mathlib.Data.List.Basic
import Mathlib.Logic.Relation

/-!
# Activation of modes

Activating a mode starts known modes that are not active, one after another
(`ModeSet.exists_starts`).  As no provider has a score, a registry then holds what the active modes
provide in the order of their starts, and the services for a language are those of its mode when
it is active (`ModeSet.Orderly`).
-/

namespace EditorModes

/-! ### Registries without scores -/

namespace Registry

variable {r : Registry P} {selector : Selector} {provider : P} {language : String}
  {scheme : Option String}

/-- No provider is preferred to another, and the entries stand in the order of their numbers. -/
structure Unscored (r : Registry P) : Prop extends r.Numbered where
  score_eq : ∀ e ∈ r.entries, e.score = 0

theorem unscored_empty :
  Unscored ({} : Registry P)
  := by
  constructor
  · constructor <;> simp
  · simp

/-- One more provider without a score keeps the others from being preferred. -/
theorem Unscored.register (unscored : r.Unscored) (selector : Selector) (provider : P) :
  (r.register selector 0 provider).2.Unscored
  := by
  refine ⟨unscored.toNumbered.register selector 0 provider, ?_⟩
  intro e among
  rcases List.mem_append.mp among with before | new
  · exact unscored.score_eq e before
  · obtain rfl := List.mem_singleton.mp new
    rfl

/-- Providers that apply are asked in the order of their registration. -/
theorem Unscored.ordered_eq (unscored : r.Unscored) :
  r.ordered language scheme
    = (r.entries.filter (·.selector.selects language scheme)).map (·.provider)
  := by
  rw [ordered, matchingEntries, List.mergeSort_of_pairwise]
  apply ((unscored.in_order.filter _).imp_of_mem _)
  intro a b first second earlier
  rw [Registered.isNoLater_iff, unscored.score_eq a (List.mem_filter.mp first).1,
    unscored.score_eq b (List.mem_filter.mp second).1]
  exact .inr ⟨rfl, Nat.le_of_lt earlier⟩

theorem Unscored.ordered_register (unscored : r.Unscored) :
  (r.register selector 0 provider).2.ordered language scheme
    = r.ordered language scheme
      ++ if selector.selects language scheme then [provider] else []
  := by
  rw [(unscored.register selector provider).ordered_eq, unscored.ordered_eq,
    Registry.register, List.filter_append, List.map_append]
  congr 1
  by_cases selects : selector.selects language scheme <;> simp [selects]

theorem Unscored.best?_register (unscored : r.Unscored) :
  (r.register selector 0 provider).2.best? language
    = (r.best? language).or (if selector.selects language none then some provider else none)
  := by
  rw [best?, best?, unscored.ordered_register, List.head?_append]
  split <;> rfl

end Registry

theorem Selector.selects_ofLanguage {language other : String} {scheme : Option String} :
  (Selector.ofLanguage language).selects other scheme ↔ language = "*" ∨ other = language
  := by
  by_cases any : language = "*" <;> simp [selects, ofLanguage, any, eq_comm]

/-! ### Provisions of a mode -/

/-- The service of a kind that a provision is. -/
def Provision.service? (kind : ServiceKind) : Provision → Option Service
  | .service k offered => if k = kind then some offered else none
  | _ => none

namespace Mode

/-- The services of one kind that a mode provides. -/
def services (m : Mode) (kind : ServiceKind) : List Service :=
  m.provisions.filterMap (·.service? kind)

/-- The mode of stylesheets checks them and takes options; other modes do neither. -/
def ChecksOnlyStylesheets (mode : Mode) : Prop :=
  (mode.id = Less.language ∧ mode.services .validation = [.stylesheets]
      ∧ mode.services .configuration = [.stylesheets])
    ∨ mode.services .validation = [] ∧ mode.services .configuration = []

/--
A mode that serves one language, with tokenizers that follow rules; only the one of stylesheets
checks documents and depends on another mode.
-/
structure IsUsual (mode : Mode) : Prop where
  any_language : mode.id = "*" → ∀ kind, mode.services kind = []
  checks : mode.ChecksOnlyStylesheets
  depends : ∀ dependency ∈ mode.dependencies,
    mode.id = Less.language ∧ dependency = JavaScript.language
  rules : ∀ t, .tokenizer t ∈ mode.provisions → t.followsRules

end Mode

namespace Features

/-- No provider is preferred to another, in any of the registries. -/
structure Unscored (f : Features) : Prop where
  tokenizers : Registry.Unscored f.tokenizers
  services : ∀ kind, (f.services kind).Unscored

/-- One more provision keeps the others from being preferred. -/
theorem Unscored.register {f : Features} (unscored : f.Unscored) (language : String)
    (p : Provision) :
  (f.register language p).2.Unscored
  := by
  cases p with
  | tokenizer t => exact ⟨Registry.Unscored.register unscored.tokenizers _ t, unscored.services⟩
  | richEdit support => exact ⟨unscored.tokenizers, unscored.services⟩
  | service kind service =>
    refine ⟨unscored.tokenizers, fun k => ?_⟩
    by_cases same : k = kind
    · simpa [Features.register, setServices, same]
        using (unscored.services kind).register (.ofLanguage language) service
    · simpa [Features.register, setServices, same] using unscored.services k

/-- A further service is asked last. -/
theorem Unscored.ordered_register {f : Features} (unscored : f.Unscored) (language : String)
    (p : Provision) (kind : ServiceKind) (other : String) (scheme : Option String) :
  ((f.register language p).2.services kind).ordered other scheme
    = (f.services kind).ordered other scheme
      ++ if (Selector.ofLanguage language).selects other scheme
          then (p.service? kind).toList else []
  := by
  cases p with
  | tokenizer t => simp [Features.register, Provision.service?]
  | richEdit support => simp [Features.register, Provision.service?]
  | service k service =>
    by_cases same : kind = k
    · subst same
      simp [Features.register, setServices, Provision.service?,
        (unscored.services kind).ordered_register]
    · simp [Features.register, setServices, Provision.service?, same, Ne.symm same]

/-- Further provisions keep the others from being preferred. -/
theorem Unscored.registerAll {f : Features} (unscored : f.Unscored) (language : String)
    (provisions : List Provision) :
  (f.registerAll language provisions).2.Unscored
  := by
  induction provisions generalizing f with
  | nil => exact unscored
  | cons p provisions ih => exact ih (unscored.register language p)

/-- Further services are asked last, in their order. -/
theorem Unscored.ordered_registerAll {f : Features} (unscored : f.Unscored) (language : String)
    (provisions : List Provision) (kind : ServiceKind) (other : String)
    (scheme : Option String) :
  ((f.registerAll language provisions).2.services kind).ordered other scheme
    = (f.services kind).ordered other scheme
      ++ if (Selector.ofLanguage language).selects other scheme
          then provisions.filterMap (·.service? kind) else []
  := by
  induction provisions generalizing f with
  | nil => simp [Features.registerAll]
  | cons p provisions ih =>
    rw [Features.registerAll]
    dsimp only
    rw [ih (unscored.register language p), unscored.ordered_register]
    cases found : p.service? kind <;> split <;> simp [found]

/-- Tokenizers that follow rules are added to those that do. -/
theorem followsRules_registerAll {f : Features} (rules : f.tokenizers.followsRules)
    (language : String) {provisions : List Provision}
    (follow : ∀ t, .tokenizer t ∈ provisions → t.followsRules) :
  (f.registerAll language provisions).2.tokenizers.followsRules
  := by
  induction provisions generalizing f with
  | nil => exact rules
  | cons p provisions ih =>
    apply ih _ fun t among => follow t (List.mem_cons_of_mem _ among)
    cases p with
    | tokenizer added =>
      have new := follow added List.mem_cons_self
      simpa [register, TokenizerRegistry.add, Registry.register, TokenizerRegistry.followsRules,
        new] using rules
    | richEdit support | service k service => exact rules

/-- Where there is a tokenizer, it stays the best one. -/
theorem Unscored.best?_registerAll {f : Features} (unscored : f.Unscored) (language : String)
    (provisions : List Provision) {other : String} {t : Tokenizer}
    (best : f.tokenizers.best? other = some t) :
  (f.registerAll language provisions).2.tokenizers.best? other = some t
  := by
  induction provisions generalizing f with
  | nil => exact best
  | cons p provisions ih =>
    apply ih (unscored.register language p)
    cases p with
    | tokenizer added =>
      change Registry.best? (Registry.register _ _ 0 added).2 other = _
      rw [Registry.Unscored.best?_register unscored.tokenizers, best]
      rfl
    | richEdit support | service k service => exact best

end Features

/-! ### Starts of modes -/

namespace ModeSet

/-- A known mode that is not active is started, for one of the languages that are allowed. -/
inductive Starts (allowed : String → Prop) : ModeSet → ModeSet → Prop
  | start {s : ModeSet} {mode : Mode} (known : s.find? mode.id = some mode)
      (inactive : s.isActive mode.id = false) (among : allowed mode.id) :
      Starts allowed s (s.start mode)

variable {s t : ModeSet} {allowed : String → Prop}

theorem isActive_start (s : ModeSet) (mode : Mode) (id : String) :
  (s.start mode).isActive id = (s.isActive id || mode.id = id)
  := by
  simp [ModeSet.start, isActive]

theorem id_of_find? {id : String} {mode : Mode} (found : s.find? id = some mode) :
  mode.id = id
  := by
  simpa using List.find?_some found

theorem known_of_starts (started : Relation.ReflTransGen (Starts allowed) s t) :
  t.known = s.known
  := by
  induction started with
  | refl => rfl
  | tail _ last ih =>
    cases last
    exact ih

theorem isActive_of_starts (started : Relation.ReflTransGen (Starts allowed) s t) {id : String}
    (active : s.isActive id) :
  t.isActive id
  := by
  induction started with
  | refl => exact active
  | tail _ last ih =>
    cases last with
    | start => rw [isActive_start, ih, Bool.true_or]

/-- Starts leave inactive modes inactive for languages that are not allowed. -/
theorem isActive_of_starts_of_not (started : Relation.ReflTransGen (Starts allowed) s t)
    {id : String} (excluded : ¬ allowed id) :
  t.isActive id = s.isActive id
  := by
  induction started with
  | refl => rfl
  | tail _ last ih =>
    cases last with
    | @start mode _ _ among =>
      have other : mode.id ≠ id := fun same => excluded (same ▸ among)
      rw [isActive_start, ih]
      simp [other]

/-- The languages that modes depend on are allowed where their own are. -/
def DependsWithin (s : ModeSet) (allowed : String → Prop) : Prop :=
  ∀ mode ∈ s.known, allowed mode.id → ∀ dependency ∈ mode.dependencies, allowed dependency

theorem dependsWithin_all (s : ModeSet) :
  s.DependsWithin fun _ => True
  := fun _ _ _ _ _ => trivial

/--
What starts modes for each dependency, and makes it active unless it is unknown, does so for all of
them.
-/
theorem starts_of_foldlM {activate? : ModeSet → String → Option ModeSet} {ids : List String}
    (each : ∀ u id v, u.known = s.known → id ∈ ids → activate? u id = some v →
      Relation.ReflTransGen (Starts allowed) u v ∧ (v.isActive id ∨ v.find? id = none))
    (followed : ids.foldlM activate? s = some t) :
  Relation.ReflTransGen (Starts allowed) s t
    ∧ ∀ id ∈ ids, t.isActive id ∨ t.find? id = none
  := by
  induction ids generalizing s with
  | nil =>
    obtain rfl := Option.some.inj followed
    exact ⟨.refl, by simp⟩
  | cons id ids ih =>
    rw [List.foldlM_cons] at followed
    obtain ⟨u, first, rest⟩ := Option.bind_eq_some_iff.mp followed
    obtain ⟨started, settled⟩ := each s id u rfl (by simp) first
    have later := ih (fun v id w known_eq among =>
      each v id w (known_eq.trans (known_of_starts started)) (List.mem_cons_of_mem _ among)) rest
    refine ⟨started.trans later.1, List.forall_mem_cons.mpr ⟨?_, later.2⟩⟩
    rcases settled with active | unknown
    · exact .inl (isActive_of_starts later.1 active)
    · rw [find?, known_of_starts later.1]
      exact .inr unknown

/-- Activating a mode starts modes; afterwards the mode is active, unless there is none. -/
theorem exists_starts (within : s.DependsWithin allowed) {depth : Nat} {id : String}
    (among : allowed id) {activated : Bool}
    (done : s.activateWithin depth id = some (activated, t)) :
  Relation.ReflTransGen (Starts allowed) s t ∧ (t.isActive id ∨ t.find? id = none)
  := by
  induction depth generalizing s t id activated with
  | zero => simp [activateWithin] at done
  | succ depth ih =>
    rw [activateWithin] at done
    split at done
    · next unknown =>
      obtain ⟨-, rfl⟩ := Prod.mk.inj (Option.some.inj done)
      exact ⟨.refl, .inr unknown⟩
    · next mode known =>
      have id_eq := id_of_find? known
      split at done
      · next active =>
        obtain ⟨-, rfl⟩ := Prod.mk.inj (Option.some.inj done)
        exact ⟨.refl, .inl active⟩
      · next inactive =>
        simp only [Option.bind_eq_bind, Option.bind_eq_some_iff] at done
        obtain ⟨u, followed, done⟩ := done
        have started : Relation.ReflTransGen (Starts allowed) s u := by
          refine (starts_of_foldlM ?_ followed).1
          intro v dependency w known_eq listed first
          obtain ⟨⟨_, w⟩, activated, rfl⟩ := Option.map_eq_some_iff.mp first
          have needed := within mode (List.mem_of_find?_eq_some known) (id_eq ▸ among) dependency
            (List.mem_filter.mp listed).1
          have still : v.DependsWithin allowed := by
            rw [DependsWithin, known_eq]
            exact within
          exact ih still needed activated
        split at done
        · next active =>
          obtain ⟨-, rfl⟩ := Prod.mk.inj (Option.some.inj done)
          exact ⟨started, .inl active⟩
        · next inactive =>
          obtain ⟨-, rfl⟩ := Prod.mk.inj (Option.some.inj done)
          have still : u.find? mode.id = some mode := by
            rw [id_eq, find?, known_of_starts started]
            exact known
          refine ⟨started.tail (.start still ?_ (id_eq ▸ among)), .inl ?_⟩
          · rw [id_eq]
            exact Bool.eq_false_iff.mpr inactive
          · rw [isActive_start]
            simp [id_eq]

/-! ### What active modes provide -/

/-- The services of a kind for a language: those of its mode, when it is active. -/
def servicesFor (s : ModeSet) (kind : ServiceKind) (language : String) : List Service :=
  if s.isActive language then (s.find? language).elim [] (·.services kind) else []

/--
The known modes are usual ones, no provider is preferred, tokenizers follow rules, and the services
for a language are those of its mode when it is active.
-/
structure Orderly (s : ModeSet) : Prop where
  usual : ∀ mode ∈ s.known, mode.IsUsual
  unscored : s.features.Unscored
  rules : s.features.tokenizers.followsRules
  ordered_eq : ∀ kind language scheme,
    (s.features.services kind).ordered language scheme = s.servicesFor kind language

/-- A start leaves the services of other languages as they are and adds those of the mode. -/
theorem Orderly.start (orderly : s.Orderly) {mode : Mode} (known : s.find? mode.id = some mode)
    (inactive : s.isActive mode.id = false) :
  (s.start mode).Orderly
  := by
  have among : mode ∈ s.known := List.mem_of_find?_eq_some known
  have usual := orderly.usual mode among
  refine ⟨orderly.usual, orderly.unscored.registerAll mode.id mode.provisions,
    Features.followsRules_registerAll orderly.rules mode.id usual.rules, ?_⟩
  intro kind language scheme
  have registered := orderly.unscored.ordered_registerAll mode.id mode.provisions kind language
    scheme
  change ((s.features.registerAll mode.id mode.provisions).2.services kind).ordered _ _ = _
  rw [registered, orderly.ordered_eq]
  by_cases own : mode.id = language
  · subst own
    rw [if_pos (Selector.selects_ofLanguage.mpr (.inr rfl)), servicesFor,
      if_neg (by simp [inactive]), servicesFor, if_pos (by simp [isActive_start])]
    change _ = Option.elim (s.find? mode.id) _ _
    rw [known]
    rfl
  · have same : (s.start mode).servicesFor kind language = s.servicesFor kind language := by
      rw [servicesFor, servicesFor, isActive_start]
      simp [own, ModeSet.start, find?]
    rw [same]
    split
    · next selects =>
      have any := (Selector.selects_ofLanguage.mp selects).resolve_right (Ne.symm own)
      change _ ++ mode.services kind = _
      rw [usual.any_language any kind, List.append_nil]
    · rw [List.append_nil]

theorem Orderly.of_starts (orderly : s.Orderly)
    (started : Relation.ReflTransGen (Starts allowed) s t) :
  t.Orderly
  := by
  induction started with
  | refl => exact orderly
  | tail _ last ih =>
    cases last with
    | start known inactive => exact ih.start known inactive

/-- Starts leave the services for a language alone when its mode is active or not known. -/
theorem servicesFor_of_starts {language : String}
    (started : Relation.ReflTransGen (Starts allowed) s t)
    (settled : s.isActive language ∨ s.find? language = none) (kind : ServiceKind) :
  t.servicesFor kind language = s.servicesFor kind language
  := by
  have found : t.find? language = s.find? language := by
    rw [find?, known_of_starts started]
    rfl
  rcases settled with active | unknown
  · rw [servicesFor, if_pos (isActive_of_starts started active), found, servicesFor, if_pos active]
  · simp [servicesFor, found, unknown]

/-- A start leaves the best tokenizer of a language alone, where there is one. -/
theorem best?_of_starts (unscored : s.features.Unscored)
    (started : Relation.ReflTransGen (Starts allowed) s t) {language : String}
    {tokenizer : Tokenizer} (best : s.features.tokenizers.best? language = some tokenizer) :
  t.features.Unscored ∧ t.features.tokenizers.best? language = some tokenizer
  := by
  induction started with
  | refl => exact ⟨unscored, best⟩
  | tail _ last ih =>
    cases last with
    | @start mode known inactive =>
      exact ⟨ih.1.registerAll mode.id mode.provisions,
        ih.1.best?_registerAll mode.id mode.provisions ih.2⟩

/-! ### The modes that are there -/

/-- Added modes are known, besides those that were. -/
theorem mem_known_foldl_add {modes : List Mode} {mode : Mode}
    (known : mode ∈ (modes.foldl ModeSet.add s).known) :
  mode ∈ s.known ∨ mode ∈ modes
  := by
  induction modes generalizing s with
  | nil => exact .inl known
  | cons added modes ih =>
    rcases ih known with before | later
    · rcases List.mem_append.mp before with kept | new
      · exact .inl (List.mem_filter.mp kept).1
      · exact .inr (by simp [List.mem_singleton.mp new])
    · exact .inr (List.mem_cons_of_mem _ later)

theorem features_foldl_add (modes : List Mode) :
  (modes.foldl ModeSet.add s).features = s.features
    ∧ (modes.foldl ModeSet.add s).active = s.active
  := by
  induction modes generalizing s with
  | nil => exact ⟨rfl, rfl⟩
  | cons mode modes ih => exact ih

/-- The mode that is added last is the one that is known for its language. -/
theorem find?_add (s : ModeSet) (mode : Mode) (id : String) :
  (s.add mode).find? id = if mode.id = id then some mode else s.find? id
  := by
  rw [find?, add, List.find?_append]
  by_cases same : mode.id = id
  · have replaced : (s.known.filter (·.id ≠ mode.id)).find? (·.id = id) = none := by
      simp [← same]
    rw [replaced]
    simp [same]
  · have kept : (s.known.filter (·.id ≠ mode.id)).find? (·.id = id) = s.find? id := by
      rw [List.find?_filter, find?]
      congr
      funext other
      by_cases own : other.id = id <;> simp [own, Ne.symm same]
    rw [kept]
    simp [same]

/-- Of the modes that are added for a language, the last one is known. -/
theorem find?_foldl_add (s : ModeSet) (modes : List Mode) (id : String) :
  (modes.foldl add s).find? id = (modes.reverse.find? (·.id = id)).or (s.find? id)
  := by
  induction modes generalizing s with
  | nil => rfl
  | cons mode modes ih =>
    rw [List.foldl_cons, ih, find?_add, List.reverse_cons, List.find?_append, Option.or_assoc]
    by_cases same : mode.id = id <;> simp [same]

theorem activate?_of_independent {mode : Mode} {id : String} (known : s.find? id = some mode)
    (independent : mode.dependencies = []) (inactive : s.isActive id = false) :
  s.activate? id = some (true, s.start mode)
  := by
  simp [activate?, activateWithin, known, independent, inactive]

end ModeSet

namespace Mode

variable {mode : Mode} {bundle : Bundle} {grammars : List Grammar}

theorem isUsual_of_services_eq_nil (none : ∀ kind, mode.services kind = [])
    (alone : mode.dependencies = [])
    (rules : ∀ t, .tokenizer t ∈ mode.provisions → t.followsRules) :
  mode.IsUsual
  := ⟨fun _ => none, .inr ⟨none _, none _⟩, by simp [alone], rules⟩

/-- The modes that are there are usual ones. -/
theorem isUsual_of_mem_builtin (among : mode ∈ builtin bundle grammars) :
  mode.IsUsual
  := by
  simp only [builtin, List.mem_append, List.mem_singleton, Option.mem_toList,
    List.mem_filterMap] at among
  rcases among with ((rfl | script) | less) | ⟨g, -, custom⟩
  · constructor
    · simp [plainText, PlainText.language]
    · exact .inr ⟨rfl, rfl⟩
    · simp [plainText]
    · simp [plainText, Tokenizer.followsRules]
  · obtain ⟨l, -, rfl⟩ := Option.map_eq_some_iff.mp script
    apply isUsual_of_services_eq_nil fun _ => rfl
    · rfl
    · simp [Provision.ofLexer, Tokenizer.followsRules]
  · obtain ⟨l, -, rfl⟩ := Option.map_eq_some_iff.mp less
    constructor
    · simp [Less.language]
    · exact .inl ⟨rfl, rfl, rfl⟩
    · simp
    · simp [Provision.ofLexer, Tokenizer.followsRules]
  · obtain ⟨l, -, rfl⟩ := Option.map_eq_some_iff.mp custom
    apply isUsual_of_services_eq_nil fun _ => rfl
    · rfl
    · simp [Provision.ofLexer, Tokenizer.followsRules]

theorem find?_builtin {id : String}
    (found : (grammars.filterMap ofGrammar?).reverse.find? (·.id = id) = some mode) :
  ((builtin bundle grammars).foldl ModeSet.add {}).find? id = some mode
  := by
  rw [ModeSet.find?_foldl_add, builtin, List.reverse_append, List.find?_append, found]
  rfl

theorem dependencies_of_ofGrammar? {g : Grammar} (made : ofGrammar? g = some mode) :
  mode.dependencies = []
  := by
  obtain ⟨l, -, rfl⟩ := Option.map_eq_some_iff.mp made
  rfl

/-- The modes that are there are orderly before any of them is active. -/
theorem orderly_builtin (bundle : Bundle) (grammars : List Grammar) :
  ((builtin bundle grammars).foldl ModeSet.add {}).Orderly
  := by
  obtain ⟨features_eq, active_eq⟩ := ModeSet.features_foldl_add (s := {}) (builtin bundle grammars)
  constructor
  · intro mode known
    rcases ModeSet.mem_known_foldl_add known with before | among
    · simp at before
    · exact isUsual_of_mem_builtin among
  · rw [features_eq]
    exact ⟨Registry.unscored_empty, fun _ => Registry.unscored_empty⟩
  · rw [features_eq]
    rfl
  · intro kind language scheme
    have inactive : ((builtin bundle grammars).foldl ModeSet.add {}).isActive language = false := by
      rw [ModeSet.isActive, active_eq]
      rfl
    rw [features_eq, ModeSet.servicesFor, if_neg (by simp [inactive])]
    simp [Registry.ordered, Registry.matchingEntries]

end Mode

end EditorModes
