import Disassembly.Platform
import Disassembly.Yaml.Node
import Disassembly.Yaml.Writer

/-!
# The platform of the executable

The library `Yaml.standard` reads and writes YAML 1.1. It reads texts of one document, as long as no
more collections stand inside each other than it has room for. Of the tags it knows those of
scalars, sequences and mappings; sets, ordered mappings, pairs and binary data are malformed to it.
-/

set_option autoImplicit false

namespace Disassembly

namespace Yaml

/-- The strings that a file has under strings. -/
def readStrings (room : Nat) (t : Disk.BlockText) :
    Except Failure (Option (List (RawText × RawText))) :=
  ((Node.read room (.ofText t.text t.complete)).mapError ReadError.failure).map Node.texts?

/-- The library with the given room. -/
def standard (room : Nat) : Library :=
  ⟨readStrings room, writeDocument⟩

end Yaml

/-- The platform of the executable. -/
def Platform.standard : Platform :=
  ⟨Yaml.standard 480, 990⟩

end Disassembly
