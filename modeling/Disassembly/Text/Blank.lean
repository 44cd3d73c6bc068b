import Disassembly.Text.Basic

/-!
# Blank characters

The characters that count as white space, those beyond the Latin alphabet included, and the
operations that rest on them.

- `trim` and its halves drop the blank characters at the ends of a text.
- `words` are the longest runs of characters that are not blank.
-/

set_option autoImplicit false

namespace Disassembly.Text

/-- The white space characters: the five controls from tab to carriage return, the four
information separators, the next line control, and every space and separator of the Unicode
standard. -/
def isBlank (c : Char) : Bool :=
  let n := c.toNat
  (0x09 ≤ n && n ≤ 0x0D) || (0x1C ≤ n && n ≤ 0x20) || n == 0x85 || n == 0xA0 || n == 0x1680 ||
    (0x2000 ≤ n && n ≤ 0x200A) || n == 0x2028 || n == 0x2029 || n == 0x202F || n == 0x205F ||
    n == 0x3000

/-- The text without the blank characters at its start. -/
def trimLeft (t : Text) : Text :=
  t.dropWhile isBlank

/-- The text without the blank characters at its end. -/
def trimRight (t : Text) : Text :=
  dropWhileEnd isBlank t

/-- The text without the blank characters at both ends. -/
def trim (t : Text) : Text :=
  trimRight (trimLeft t)

/-- The longest runs of characters that are not blank. -/
def words (t : Text) : List Text :=
  (t.splitOnP isBlank).filter fun w => !w.isEmpty

/-- The text with one space between its words, and none at the ends. -/
def collapse (t : Text) : Text :=
  [' '].intercalate (words t)

end Disassembly.Text
