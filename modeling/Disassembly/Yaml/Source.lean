import Disassembly.Yaml.Character
import Disassembly.Yaml.Error

/-!
# Sources of YAML texts

A YAML text is read in portions while its tokens are taken from it. So an error in a later portion,
a character that may not occur or bytes that are no text, counts only if the tokens of the portions
before it are in order. A `Source` is the text before the portion with the first such error.
-/

set_option autoImplicit false

namespace Disassembly.Yaml

/-- A text as far as it can be read, and the error that stands behind it, if it goes on. -/
structure Source where
  text : Text
  stop : Option ReadError

/-- The number of characters of a portion. -/
def portion : Nat := 4096

/-- The number of characters before the portion with the given place. The first two portions are read
at once. -/
def portionStart (index : Nat) : Nat :=
  if index < 2 * portion then 0 else index / portion * portion

namespace Source

/-- The source of a text all of which can be read but for characters that may not occur. -/
def ofReadable (t : Text) (stop : Option ReadError) : Source :=
  match t.findIdx? (!isAllowed ·) with
  | some i => ⟨t.take (portionStart i), some .malformed⟩
  | none => ⟨t, stop⟩

/-- The source of a text, which may be incomplete. Of an incomplete text only full portions are
read. -/
def ofText (t : Text) (complete : Bool) : Source :=
  if complete then ofReadable t none
  else ofReadable (t.take (portionStart t.length)) (some .unreadable)

end Source

end Disassembly.Yaml
