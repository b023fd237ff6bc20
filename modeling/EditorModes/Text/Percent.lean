import EditorModes.Text.Basic
import EditorModes.Text.Hexadecimal

/-!
# Percent encoding

A percent sign and two hexadecimal digits stand for a byte; every other character stands for the
bytes of its UTF-8 form.
-/

namespace EditorModes.Percent

/-- The bytes that a text stands for. -/
def decode : Text → List UInt8
  | [] => []
  | '%' :: a :: b :: rest =>
    match Hexadecimal.digit? a, Hexadecimal.digit? b with
    | some high, some low => (16 * high + low).toUInt8 :: decode rest
    | _, _ => '%'.toUInt8 :: decode (a :: b :: rest)
  | c :: rest => String.utf8EncodeChar c ++ decode rest

/-- A byte as a percent sign and two digits. -/
def ofByte (b : UInt8) : Text :=
  ['%', Hexadecimal.capital (b.toNat / 16), Hexadecimal.capital (b.toNat % 16)]

/-- A text with the bytes of some characters, and of all but the ASCII ones, behind percent signs. -/
def encode (isHidden : Char → Bool) (t : Text) : Text :=
  t.flatMap fun c =>
    if isHidden c || !Property.isAscii c then (String.utf8EncodeChar c).flatMap ofByte else [c]

end EditorModes.Percent
