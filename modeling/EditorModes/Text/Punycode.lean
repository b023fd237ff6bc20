import EditorModes.Text.Basic

/-!
# Characters written as letters and digits

A text is written with letters, digits and hyphens alone: first its ASCII characters, then the
others by increasing code point, each as the distance from the one before it.  A distance is a
number of 36 digits whose last digit shows itself by being small; what small means is adapted after
each character.
-/

namespace EditorModes.Punycode

/-- The value of a digit: the letters count from zero, the ten digits follow. -/
def digit? (c : Char) : Option Nat :=
  if 'a' ≤ c && c ≤ 'z' then some (c.toNat - 97)
  else if 'A' ≤ c && c ≤ 'Z' then some (c.toNat - 65)
  else if '0' ≤ c && c ≤ '9' then some (c.toNat - 22)
  else none

/-- The least digit that is not the last one, at a place that counts in steps of 36. -/
def threshold (place bias : Nat) : Nat :=
  min 26 (max 1 (place - bias))

/-- How much of a bias a distance gives that is divided by 35 until it is small. -/
def scale (distance : Nat) : Nat :=
  if 455 < distance then scale (distance / 35) + 36
  else 36 * distance / (distance + 38)
termination_by distance
decreasing_by exact Nat.div_lt_self (by omega) (by omega)

/-- The bias after a distance, when a text has got some length. -/
def adapt (distance length : Nat) (first : Bool) : Nat :=
  let distance := if first then distance / 700 else distance / 2
  scale (distance + distance / length)

/-- A distance added to `sum`, and the text after its digits. -/
def distance? (bias : Nat) : (place weight sum : Nat) → Text → Option (Nat × Text)
  | _, _, _, [] => none
  | place, weight, sum, c :: rest => do
    let digit ← digit? c
    let t := threshold place bias
    if digit < t then some (sum + digit * weight, rest)
    else distance? bias (place + 36) (weight * (36 - t)) (sum + digit * weight) rest

/-- A distance has digits. -/
theorem length_lt_of_distance? {bias place weight sum total : Nat} {t rest : Text}
    (read : distance? bias place weight sum t = some (total, rest)) :
  rest.length < t.length
  := by
  induction t generalizing place weight sum with
  | nil => simp [distance?] at read
  | cons c t ih =>
    obtain ⟨digit, _, read⟩ := Option.bind_eq_some_iff.1 read
    dsimp only at read
    split at read
    · simp_all
    · have := ih read
      simp only [List.length_cons]
      omega

/--
The text into which the characters that some digits stand for are put.  The distance from the last
place counts through all places of all code points in turn.
-/
def insert? (code place bias : Nat) (shown : Text) (digits : Text) : Option Text :=
  if digits = [] then some shown
  else
    match _read : distance? bias 36 1 place digits with
    | none => none
    | some (total, rest) =>
      let size := shown.length + 1
      let code := code + total / size
      let next := total % size
      if code.isValidChar then
        insert? code (next + 1) (adapt (total - place) size (place = 0))
          (shown.take next ++ [Char.ofNat code] ++ shown.drop next) rest
      else
        none
termination_by digits.length
decreasing_by exact length_lt_of_distance? (by assumption)

/-- The text that is written in some way; a hyphen follows its ASCII characters if it has any. -/
def decode? (t : Text) : Option Text :=
  let (digits, before) := Text.spanWhile (· ≠ '-') t.reverse
  match before with
  | [] | ['-'] => insert? 128 0 72 [] t
  | _ :: shown => insert? 128 0 72 shown.reverse digits.reverse

/-! ### Writing -/

/-- The digit of a value. -/
def ofValue (digit : Nat) : Char :=
  Char.ofNat (if digit < 26 then 97 + digit else 22 + digit)

/-- The digits of a distance, the first of them at a place that counts in steps of 36. -/
def digits (bias place distance : Nat) : Text :=
  let t := threshold place bias
  if distance < t then [ofValue distance]
  else
    ofValue (t + (distance - t) % (36 - t))
      :: digits bias (place + 36) ((distance - t) / (36 - t))
termination_by distance
decreasing_by
  have positive : 1 ≤ threshold place bias := Nat.le_min.mpr ⟨by omega, Nat.le_max_left ..⟩
  have := Nat.div_le_self (distance - threshold place bias) (36 - threshold place bias)
  omega

/-- What has been written of the characters that are not ASCII. -/
structure Written where
  digits : Text := []
  /-- How many characters have their place so far, the ASCII ones included. -/
  placed : Nat
  bias : Nat := 72
  /-- The distance from the last place. -/
  distance : Nat := 0

/--
The places around a character of the text are passed, and it is written if it has the code point
that is due; `ascii` counts the characters that are there from the beginning.
-/
def Written.pass (ascii code : Nat) (w : Written) (c : Char) : Written :=
  if c.toNat < code then { w with distance := w.distance + 1 }
  else if c.toNat = code then
    { digits := w.digits ++ Punycode.digits w.bias 36 w.distance
      placed := w.placed + 1
      bias := adapt w.distance (w.placed + 1) (w.placed = ascii) }
  else w

/-- The characters of a text with some code points, by increasing code point. -/
def Written.characters (ascii : Nat) (t : Text) (w : Written) : (least : Nat) → List Nat → Written
  | _, [] => w
  | least, code :: codes =>
    let skipped := { w with distance := w.distance + (code - least) * (w.placed + 1) }
    let passed := t.foldl (pass ascii code) skipped
    { passed with distance := passed.distance + 1 }.characters ascii t (code + 1) codes

/-- A text as it is written. -/
def encode (t : Text) : Text :=
  let shown := t.filter Property.isAscii
  let codes := ((t.filter (!Property.isAscii ·)).map (·.toNat)).mergeSort.eraseDups
  let written : Written := { placed := shown.length }
  (if shown.isEmpty then [] else shown ++ ['-'])
    ++ (written.characters shown.length t 128 codes).digits

end EditorModes.Punycode
