import Disassembly.Text.Hex
import Disassembly.Text.Printable

/-!
# Quoted texts

The form in which a text is shown inside a message: between quotation marks, with an escape for
every character that has no glyph. Single marks are the rule; a text that holds single marks and no
double ones is put between double marks.
-/

set_option autoImplicit false

namespace Disassembly.Text

/-- How a character is written between the marks `mark`. -/
def quotedChar (mark c : Char) : Text :=
  if c = mark ∨ c = '\\' then ['\\', c]
  else if c = '\n' then ['\\', 'n']
  else if c = '\r' then ['\\', 'r']
  else if c = '\t' then ['\\', 't']
  else if isPrintable c then [c]
  else if c.toNat ≤ 0xFF then '\\' :: 'x' :: hexDigits .lower 2 c.toNat
  else if c.toNat ≤ 0xFFFF then '\\' :: 'u' :: hexDigits .lower 4 c.toNat
  else '\\' :: 'U' :: hexDigits .lower 8 c.toNat

/-- The mark that a text is put between. -/
def quoteMark (t : Text) : Char :=
  if '\'' ∈ t ∧ '"' ∉ t then '"' else '\''

/-- The text between quotation marks. -/
def quoted (t : Text) : Text :=
  let mark := quoteMark t
  mark :: t.flatMap (quotedChar mark) ++ [mark]

end Disassembly.Text
