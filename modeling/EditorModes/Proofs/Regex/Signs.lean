import EditorModes.Regex.Parser
import Mathlib.Data.List.Basic

/-!
# Patterns read sign by sign

The reader of patterns takes one sign after another from the text, and what a sign does to the open
groups depends on the sign alone.  So reading is a relation between a state of the reader, the text
ahead and the expression that comes out (`Reading.Reads`), which the reader follows as far as
its steps go (`Reading.reads_of_parseItems`).
-/

namespace EditorModes.Regex

/-! ### Signs -/

/-- What an item or a sign of a pattern stands for. -/
inductive Sign where
  | flags (flags : Flags)
  | opening (flags : Flags) (capturing : Bool) (name : Option Text)
  | closing
  | bar
  | item (e : Nested Expr)
  | repetition (least : Nat) (most : Option Nat) (greedy : Bool)

/-- The sign that an opening parenthesis introduces. -/
def Opening.sign : Opening → Sign
  | .flags f => .flags f
  | .group f capturing name => .opening f capturing name

/-- The sign of a repetition, before a `?` or not, and what follows it. -/
def repetitionSign (f : Flags) (least : Nat) (most : Option Nat) (t : Text) : Sign × Text :=
  (.repetition least most ((parseLazy t).1 == f.swapGreed), (parseLazy t).2)

/-- The sign at the start of a text, and what follows it. -/
def readSign? (f : Flags) : Text → Option (Sign × Text)
  | [] => none
  | '(' :: t => (parseOpening f t).map fun (opening, t) => (opening.sign, t)
  | ')' :: t => some (.closing, t)
  | '|' :: t => some (.bar, t)
  | '[' :: t => (parseClass f t).map fun (set, t) => (.item ⟨.char set.value, set.depth⟩, t)
  | '?' :: t => some (repetitionSign f 0 (some 1) t)
  | '*' :: t => some (repetitionSign f 0 none t)
  | '+' :: t => some (repetitionSign f 1 none t)
  | '\x7b' :: t => (parseBounds f t).map fun (bounds, t) =>
      repetitionSign f bounds.1 bounds.2 (f.skip t)
  | '\\' :: t => (parseEscape f t).map fun (atom, t) => (.item ⟨atom.expr f, 0⟩, t)
  | '.' :: t => f.dot?.map fun set => (.item ⟨.char set, 0⟩, t)
  | '^' :: t => some (.item ⟨.look f.caret, 0⟩, t)
  | '$' :: t => some (.item ⟨.look f.dollar, 0⟩, t)
  | c :: t => some (.item ⟨.char (f.fold (.single c)), 0⟩, t)

/-! ### The state of the reader -/

/--
What the reader keeps: the flags in force, the names of groups used so far, the groups around the
innermost open one, innermost first, and this one.
-/
structure Reading where
  flags : Flags
  names : List Text
  outer : List OpenGroup
  group : OpenGroup

namespace Reading

/-- The reader at the start of a pattern that is read with some flags in force. -/
def start (f : Flags) : Reading :=
  ⟨f, [], [], ⟨false, f, [], []⟩⟩

/-- The reader after a sign; `none` when the sign cannot stand there. -/
def after? (s : Reading) : Sign → Option Reading
  | .flags f => some { s with flags := f, group.items := .flags :: s.group.items }
  | .opening f capturing name =>
    if name.any s.names.contains then none
    else some ⟨f, name.toList ++ s.names, s.group :: s.outer, ⟨capturing, s.flags, [], []⟩⟩
  | .closing =>
    match s.outer with
    | [] => none
    | enclosing :: outer =>
      let item : Nested Expr := ⟨.group s.group.capturing s.group.close.value,
        s.group.close.depth + 1⟩
      some ⟨s.group.outerFlags, s.names, outer, enclosing.add item⟩
  | .bar => some { s with group := s.group.nextBranch }
  | .item e => some { s with group := s.group.add e }
  | .repetition least most greedy =>
    (s.group.repeatLast? least most greedy).map fun group => { s with group }

/-- Reading the text ahead to its end, with all groups closed there, gives an expression. -/
inductive Reads : Reading → Text → Nested Expr → Prop where
  | done {s : Reading} {t : Text} (at_end : s.flags.skip t = []) (closed : s.outer = []) :
    Reads s t s.group.close
  | sign {s s' : Reading} {t r : Text} {sign : Sign} {e : Nested Expr}
    (read : readSign? s.flags (s.flags.skip t) = some (sign, r)) (after : s.after? sign = some s')
    (later : Reads s' r e) : Reads s t e

variable {s s' : Reading} {t r : Text} {sign : Sign} {e : Nested Expr} {steps : Nat}

/-- Behind the sign of a repetition the reader goes on with the last item repeated. -/
theorem repeats (s : Reading) (least : Nat) (most : Option Nat) (t : Text) :
  (s.group.repeatLast? least most ((parseLazy t).1 == s.flags.swapGreed)).bind
      (fun group => parseItems steps s.flags s.names s.outer group (parseLazy t).2)
    = (some (repetitionSign s.flags least most t)).bind fun (sign, r) =>
      (s.after? sign).bind fun s' => parseItems steps s'.flags s'.names s'.outer s'.group r
  := by
  rw [repetitionSign, Option.bind_some]
  dsimp only
  rw [after?, Option.bind_map]
  rfl

/-- The reader goes on behind the first sign of the text ahead, in the state after it. -/
theorem parseItems_succ :
  parseItems (steps + 1) s.flags s.names s.outer s.group t
    = if s.flags.skip t = [] then if s.outer.isEmpty then some s.group.close else none
      else (readSign? s.flags (s.flags.skip t)).bind fun (sign, r) =>
        (s.after? sign).bind fun s' =>
          parseItems steps s'.flags s'.names s'.outer s'.group r
  := by
  rw [parseItems]
  cases s.flags.skip t with
  | nil => rfl
  | cons c t =>
    rw [if_neg (List.cons_ne_nil c t)]
    split
    case h_1 ahead => cases ahead
    case h_2 t' ahead =>
      cases ahead
      rw [readSign?]
      cases parseOpening s.flags t with
      | none => rfl
      | some opened =>
        rcases opened with ⟨⟨f, capturing, _ | name⟩ | f, r⟩
        · rfl
        · simp only [Option.map_some, Option.bind_some, Option.bind_eq_bind, Opening.sign, after?,
            Option.any_some]
          split <;> rfl
        · rfl
    case h_3 t' ahead =>
      cases ahead
      rw [readSign?, Option.bind_some]
      dsimp only
      rw [after?]
      cases s.outer <;> rfl
    case h_5 t' ahead =>
      cases ahead
      rw [readSign?]
      cases parseClass s.flags t <;> rfl
    case h_6 t' ahead | h_7 t' ahead | h_8 t' ahead =>
      cases ahead
      rw [readSign?]
      exact s.repeats _ _ t
    case h_9 t' ahead =>
      cases ahead
      rw [readSign?]
      cases parseBounds s.flags t with
      | none => rfl
      | some read => exact s.repeats read.1.1 read.1.2 (s.flags.skip read.2)
    case h_10 t' ahead =>
      cases ahead
      rw [readSign?]
      cases parseEscape s.flags t <;> rfl
    case h_11 t' ahead =>
      cases ahead
      rw [readSign?]
      cases s.flags.dot? <;> rfl
    case h_4 t' ahead | h_12 t' ahead | h_13 t' ahead =>
      cases ahead
      rfl
    case h_14 ahead =>
      cases ahead
      rw [readSign?] <;> first | rfl | assumption

/-- What the reader makes of a pattern is what reading the pattern gives. -/
theorem reads_of_parseItems
    (parsed : parseItems steps s.flags s.names s.outer s.group t = some e) :
  s.Reads t e
  := by
  induction steps generalizing s t with
  | zero => cases parsed
  | succ steps ih =>
    rw [parseItems_succ] at parsed
    split at parsed
    · next at_end =>
      split at parsed
      · next closed =>
        obtain rfl := Option.some.inj parsed
        exact .done at_end (List.isEmpty_iff.mp closed)
      · cases parsed
    · obtain ⟨⟨sign, r⟩, read, parsed⟩ := Option.bind_eq_some_iff.mp parsed
      obtain ⟨s', after, later⟩ := Option.bind_eq_some_iff.mp parsed
      exact .sign read after (ih later)

/-- An expression that a pattern denotes is what reading the pattern gives. -/
theorem reads_of_parse? {e : Expr} (parsed : Expr.parse? t = some e) :
  ∃ depth, (start {}).Reads t ⟨e, depth⟩ ∧ depth ≤ nestLimit
  := by
  obtain ⟨⟨value, depth⟩, read, fits⟩ := Option.bind_eq_some_iff.mp parsed
  dsimp only at fits
  split at fits
  · next limits =>
    obtain rfl := Option.some.inj fits
    exact ⟨depth, reads_of_parseItems read, limits.1⟩
  · cases fits

/-- A sign that is read leads to the state after it. -/
theorem Reads.behind {e : Nested Expr} (reads : s.Reads t e)
    (read : readSign? s.flags (s.flags.skip t) = some (sign, r)) (after : s.after? sign = some s') :
  s'.Reads r e
  := by
  cases reads with
  | done at_end =>
    rw [at_end] at read
    cases read
  | sign read' after' later =>
    obtain ⟨rfl, rfl⟩ := Prod.mk.inj (Option.some.inj (read'.symm.trans read))
    obtain rfl := Option.some.inj (after'.symm.trans after)
    exact later

/-- The text that has a pattern read without regard to case, or nothing. -/
def caseMark (ignoreCase : Bool) : Text :=
  if ignoreCase then "(?i)".toList else []

/-- The reader behind the mark that has a pattern read without regard to case, or at the start. -/
def behindCaseMark (ignoreCase : Bool) : Reading :=
  ⟨{ ignoreCase }, [], [], ⟨false, {}, [], if ignoreCase then [.flags] else []⟩⟩

theorem Reads.behind_caseMark {ignoreCase : Bool}
    (reads : (start {}).Reads (caseMark ignoreCase ++ t) e) :
  (behindCaseMark ignoreCase).Reads t e
  := by
  cases ignoreCase with
  | false => exact reads
  | true => exact reads.behind rfl rfl

end Reading

end EditorModes.Regex
