import Disassembly.Text.Basic

/-!
# Lines

A line ends at a line feed, or at a carriage return with a line feed behind it, and at no other
character. `lines` are the lines of a text; a line break at the very end starts no further line.
`unifyBreaks` is what reading a text file does to its line breaks: all three customary forms become
a line feed.
-/

set_option autoImplicit false

namespace Disassembly.Text

/-- The pieces between the line breaks of a text, of which there is always one more than there are
line breaks. -/
def linePieces : Text → List Text
  | [] => [[]]
  | '\n' :: r => [] :: linePieces r
  | '\r' :: '\n' :: r => [] :: linePieces r
  | c :: r => (linePieces r).modifyHead (c :: ·)

/-- The lines of a text. -/
def lines (t : Text) : List Text :=
  let pieces := linePieces t
  if pieces.getLast? = some [] then pieces.dropLast else pieces

/-- The text with a line feed for every carriage return, and for every carriage return with a line
feed behind it. -/
def unifyBreaks : Text → Text
  | [] => []
  | '\r' :: '\n' :: r => '\n' :: unifyBreaks r
  | '\r' :: r => '\n' :: unifyBreaks r
  | c :: r => c :: unifyBreaks r

end Disassembly.Text
