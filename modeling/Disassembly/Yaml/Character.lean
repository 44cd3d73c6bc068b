import Disassembly.Text.Basic

/-!
# Characters of YAML texts

The sorts of characters that the rules of YAML speak of.
-/

set_option autoImplicit false

namespace Disassembly.Yaml

/-- A character that ends a line. -/
def isBreak (c : Char) : Bool :=
  c == '\n' || c == '\r' || c == Char.ofNat 0x85 || c == Char.ofNat 0x2028 ||
    c == Char.ofNat 0x2029

/-- A space or a tab. -/
def isSpaceOrTab (c : Char) : Bool :=
  c == ' ' || c == '\t'

/-- A character that separates words or lines. -/
def isSeparator (c : Char) : Bool :=
  isSpaceOrTab c || isBreak c || c == Char.ofNat 0

/-- Whether a text starts with a separator, or is at its end. -/
def endsWord (rest : Text) : Bool :=
  rest.head?.all isSeparator

/-- The opening brace. -/
def openBrace : Char := Char.ofNat 0x7B

/-- The closing brace. -/
def closeBrace : Char := Char.ofNat 0x7D

/-- The grave accent. -/
def graveAccent : Char := Char.ofNat 0x60

/-- The characters that cannot start a plain scalar, whatever follows. -/
def indicators : List Char :=
  [',', '[', ']', openBrace, closeBrace, '#', '&', '*', '!', '|', '>', '\'', '"', '%', '@',
    graveAccent]

/-- A character that may occur in a text at all. -/
def isAllowed (c : Char) : Bool :=
  let n := c.toNat
  n == 0x9 || n == 0xA || n == 0xD || (0x20 ≤ n && n ≤ 0x7E) || n == 0x85 ||
    (0xA0 ≤ n && n ≤ 0xFFFD) || 0x10000 ≤ n

/-- A character of the name of an anchor. -/
def isNameChar (c : Char) : Bool :=
  c.isAlphanum || c == '-' || c == '_'

end Disassembly.Yaml
