import Disassembly.Text.Hex

/-!
# File paths

A path is a text. It names a file by the directories on the way there, with a slash between two
names; a path that starts with a slash starts at the root. `Path` is the normal form of a path: its
names without the empty ones and without those that stay where they are.
-/

set_option autoImplicit false

namespace Disassembly.Disk

/-- A path in normal form: the slashes at its start, and its names. -/
structure Path where
  root : Text
  names : List Text
  deriving DecidableEq

namespace Path

/-- The slashes that a path in normal form starts with: two if there are just two, one if there
are more. -/
def rootOf (t : Text) : Text :=
  let slashes := t.takeWhile (· == '/')
  if slashes.length ≤ 2 then slashes else ['/']

/-- The normal form of a path. -/
def ofText (t : Text) : Path :=
  ⟨rootOf t, (t.splitOn '/').filter fun name => !name.isEmpty && name != ['.']⟩

/-- The path of the file with the given name in a directory. -/
def child (p : Path) (name : Text) : Path :=
  { p with names := p.names ++ [name] }

/-- The path as a text; a single dot stands for the place where one is. -/
def print (p : Path) : Text :=
  let t := p.root ++ ['/'].intercalate p.names
  if t.isEmpty then ['.'] else t

end Path

/-- The ending of the last name of a path, from its last dot on, in small letters. A dot at the start
or the end of the name starts no ending. -/
def extension (t : Text) : Text :=
  let name := (Path.ofText t).names.getLastD []
  let ending := Text.takeWhileEnd (· != '.') name
  let stem := name.take (name.length - ending.length - 1)
  if ending.isEmpty || stem.isEmpty || !name.contains '.' then []
  else ('.' :: ending).map Char.toLower

/-- The bytes of a text in the UTF-8 encoding. -/
def encode (t : Text) : ByteArray :=
  (String.ofList t).toUTF8

/-- The text that bytes encode, if they are UTF-8. -/
def decode? (bytes : ByteArray) : Option Text :=
  (String.fromUTF8? bytes).map String.toList

/-- A place in the tree of directories: the names on the way from the root, the nearest to the root
first. -/
abbrev Location := List Text

/-- A byte that stands for itself in a resource identifier. -/
def isUnreserved (b : UInt8) : Bool :=
  let c := Char.ofNat b.toNat
  c.isAlphanum || c == '_' || c == '.' || c == '-' || c == '~'

/-- A byte in a resource identifier. -/
def percentEncode (b : UInt8) : Text :=
  if isUnreserved b then [Char.ofNat b.toNat] else '%' :: Text.hexDigits .upper 2 b.toNat

/-- The identifier of the file at a location. -/
def fileUri (l : Location) : Text :=
  "file://".toList ++
    if l.isEmpty then ['/']
    else l.flatMap fun name => '/' :: (encode name).toList.flatMap percentEncode

end Disassembly.Disk
