import Disassembly.Yaml.Library

/-!
# Platforms

What the program rests on besides the disk and the web: a library for YAML, and the room that is
left to a reader for lists and records inside each other.
-/

set_option autoImplicit false

namespace Disassembly

/-- What the program rests on. -/
structure Platform where
  yaml : Yaml.Library
  /-- How many lists and records of a JSON text may be open at once. -/
  room : Nat

end Disassembly
