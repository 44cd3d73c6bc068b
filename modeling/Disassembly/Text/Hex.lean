import Disassembly.Text.Basic

/-!
# Hexadecimal digits

Numbers of a fixed count of hexadecimal digits, as escape sequences use them, in either case of
the letters; and the reading of such digits.
-/

set_option autoImplicit false

namespace Disassembly.Text

/-- Which letters stand for the digits from ten to fifteen. -/
inductive LetterCase where
  | lower
  | upper
  deriving DecidableEq

/-- The digit of a value below sixteen. -/
def hexDigit (letters : LetterCase) (n : Nat) : Char :=
  match letters with
  | .lower => Nat.digitChar n
  | .upper => (Nat.digitChar n).toUpper

/-- The last `width` hexadecimal digits of a number. -/
def hexDigits (letters : LetterCase) : (width : Nat) → Nat → Text
  | 0, _ => []
  | w + 1, n => hexDigits letters w (n / 16) ++ [hexDigit letters (n % 16)]

/-- The value of a hexadecimal digit in either case. -/
def hexValue? (c : Char) : Option Nat :=
  if c.isDigit then some (c.toNat - '0'.toNat)
  else if 'a' ≤ c && c ≤ 'f' then some (c.toNat - 'a'.toNat + 10)
  else if 'A' ≤ c && c ≤ 'F' then some (c.toNat - 'A'.toNat + 10)
  else none

/-- The number that a run of hexadecimal digits stands for; none if another character occurs. -/
def readHex? (t : Text) : Option Nat :=
  t.foldlM (fun n c => (hexValue? c).map (16 * n + ·)) 0

end Disassembly.Text
