import Disassembly.Text.Basic

/-!
# Raw texts

By an escape, half of a surrogate pair can be written without the other half. That is no character,
and nothing that holds it can be printed. So formats with such escapes hold raw texts, and
`RawText.text?` says which of them are texts.
-/

set_option autoImplicit false

namespace Disassembly

/-- What an escape can stand for: a character, or half of a surrogate pair that stands alone. -/
inductive CodePoint where
  | char (c : Char)
  | half (index : Fin 2048)
  deriving DecidableEq

namespace CodePoint

/-- The code point with the given number, which is at most that of the last character. -/
def ofNat (n : Nat) : CodePoint :=
  if 0xD800 ≤ n ∧ n ≤ 0xDFFF then .half (Fin.ofNat 2048 (n - 0xD800)) else .char (Char.ofNat n)

/-- The character that a code point is. -/
def char? : CodePoint → Option Char
  | .char c => some c
  | .half _ => none

end CodePoint

/-- A text that may hold halves of surrogate pairs. -/
abbrev RawText := List CodePoint

namespace RawText

/-- A text as a raw text. -/
def ofText (t : Text) : RawText :=
  t.map .char

/-- The text that a raw text is, if all of it are characters. -/
def text? (t : RawText) : Option Text :=
  t.mapM CodePoint.char?

end RawText

end Disassembly
