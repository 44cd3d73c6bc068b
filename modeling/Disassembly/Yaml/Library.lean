import Disassembly.Datum.Basic
import Disassembly.Disk.Block
import Disassembly.Text.Raw

/-!
# Libraries for YAML

YAML is read and written by a library, of which only what it is used for counts: from a file it
reads strings under strings, and it writes the fields of a record. Which files it reads, and what
goes wrong in it, is up to the library. What is relied on is `Library.Lawful`.
-/

set_option autoImplicit false

namespace Disassembly.Yaml

/-- Why a library does not read a file. -/
inductive Failure where
  /-- The text breaks the rules of the format. -/
  | malformed
  /-- The bytes behind the text are none. -/
  | undecodable
  /-- Something in the text has no value. -/
  | badValue (message? : Option Text)
  /-- Anything else that goes wrong in the library, under its name there. -/
  | breakdown (name : Text) (message? : Option Text)
  deriving DecidableEq

/-- Whether the failure is a fault of the file, and not one of the library. -/
def Failure.isFault : Failure → Bool
  | .breakdown _ _ => false
  | _ => true

/-- A library that reads and writes YAML. -/
structure Library where
  /-- The strings that a file has under strings; nothing if it holds something else. -/
  read : Disk.BlockText → Except Failure (Option (List (RawText × RawText)))
  /-- The document with the given fields. -/
  write : List (Text × Datum Text) → Text

/-- What is relied on: a file is read to its end, so bytes that are no text are never passed over.
-/
structure Library.Lawful (y : Library) : Prop where
  read_incomplete : ∀ t : Disk.BlockText, t.complete = false → ∃ e, y.read t = .error e

end Disassembly.Yaml
