import Disassembly.Disk.Path
import Disassembly.Text.Line

/-!
# The disk

The state of a file system: what stands at each location, the directory from which relative paths
start, and the medium that all is kept on. Every operation takes a path as a text and follows it
name by name, and it fails where the path cannot be followed.

- `readBytes` and `readText` read a file; a text file is UTF-8, and all its line breaks are read as
  line feeds.
- `write` replaces a file or creates it. The file is opened first, which empties it, and filled
  then.
- `makeDirectories` creates a directory with all directories above it.

There are files and directories only, and no links. Nor are there rights: what stands at a location
can always be read, and what is refused is refused by the medium, to those who write.
-/

set_option autoImplicit false

namespace Disassembly.Disk

/-- What stands at a location. -/
inductive Entry where
  | file (bytes : ByteArray)
  | directory

/-- Two files are the same if their bytes are. -/
instance : DecidableEq Entry
  | .file a, .file b =>
    decidable_of_iff (a.data = b.data) ⟨fun h => congrArg _ (ByteArray.ext h), fun h => by cases h; rfl⟩
  | .directory, .directory => isTrue rfl
  | .file _, .directory => isFalse nofun
  | .directory, .file _ => isFalse nofun

/-- Why an operation fails. -/
inductive AccessError where
  | notFound
  /-- A name on the way is that of a file. -/
  | notDirectory
  | isDirectory
  | alreadyExists
  | nameTooLong
  /-- The medium takes nothing at the location. -/
  | refused
  /-- The medium takes no more of a file. -/
  | brokenOff
  /-- No path can hold the null character. -/
  | nullCharacter
  deriving DecidableEq

/-- Whether the failure is one of the file system, and not of the path as a text. -/
def AccessError.isSystem : AccessError → Bool
  | .nullCharacter => false
  | _ => true

/-- What a file system is kept on. It may be full, worn out or protected. -/
structure Medium where
  /-- Whether a directory can be made at a location, and a file there be opened to be written. -/
  admits : Location → Bool
  /-- The number of bytes of a file behind which its writing breaks off, if it does. -/
  breakOff? : Location → ByteArray → Option Nat

/-- The medium that takes everything. -/
def Medium.sound : Medium :=
  ⟨fun _ => true, fun _ _ => none⟩

end Disk

/-- The state of a file system. -/
structure Disk where
  entry? : Disk.Location → Option Disk.Entry
  workingDirectory : Disk.Location
  medium : Disk.Medium

namespace Disk

/-- The disk that holds nothing but the working directory and the directories above it, on a sound
medium. -/
def empty (workingDirectory : Location) : Disk :=
  ⟨fun l => if l.isPrefixOf workingDirectory then some .directory else none, workingDirectory, .sound⟩

/-! ## Changing single entries -/

/-- The disk with an entry at a location. -/
def set (d : Disk) (l : Location) (e : Entry) : Disk :=
  { d with entry? := fun k => if k = l then some e else d.entry? k }

/-- The disk with an entry at a location, and with directories at all locations above it. -/
def install (d : Disk) (l : Location) (e : Entry) : Disk :=
  { d with entry? := fun k =>
      if k = l then some e
      else if k.isPrefixOf l then some .directory
      else d.entry? k }

/-- The disk without the entry at a location and all below it. -/
def remove (d : Disk) (l : Location) : Disk :=
  { d with entry? := fun k => if l.isPrefixOf k then none else d.entry? k }

/-! ## Following a path -/

/-- The greatest number of bytes of a name. -/
def maxNameLength : Nat := 255

/-- The greatest number of bytes of a path. -/
def maxPathLength : Nat := 4095

/-- The location that names lead to from a location. The last name need not lead to an entry. -/
def walk (d : Disk) : Location → List Text → Except AccessError Location
  | l, [] => .ok l
  | l, name :: rest =>
    match d.entry? l with
    | none => .error .notFound
    | some (.file _) => .error .notDirectory
    | some .directory =>
      if name = [] ∨ name = ['.'] then walk d l rest
      else if name = ['.', '.'] then walk d l.dropLast rest
      else if maxNameLength < (encode name).size then .error .nameTooLong
      else walk d (l ++ [name]) rest

/-- The location that a path leads to. -/
def locate (d : Disk) (path : Text) : Except AccessError Location :=
  if Char.ofNat 0 ∈ path then .error .nullCharacter
  else if path.isEmpty then .error .notFound
  else if maxPathLength < (encode path).size then .error .nameTooLong
  else d.walk (if path.head? = some '/' then [] else d.workingDirectory) (path.splitOn '/')

/-- What stands at the end of a path. -/
def find (d : Disk) (path : Text) : Except AccessError Entry := do
  let l ← d.locate path
  (d.entry? l).elim (.error .notFound) .ok

/-- Whether something stands at the end of a path. -/
def contains (d : Disk) (path : Text) : Bool :=
  (d.find path).toOption.isSome

/-- Whether a directory stands at the end of a path. -/
def isDirectory (d : Disk) (path : Text) : Bool :=
  (d.find path).toOption = some .directory

/-- Whether something stands at the end of a path, where a path that cannot be followed for its
length is an error. -/
def checkContains (d : Disk) (path : Text) : Except AccessError Bool :=
  match d.find path with
  | .ok _ => .ok true
  | .error .nameTooLong => .error .nameTooLong
  | .error _ => .ok false

/-! ## Reading -/

/-- Why a text file cannot be read. -/
inductive ReadError where
  | access (e : AccessError)
  /-- The bytes of the file are not UTF-8. -/
  | undecodable
  deriving DecidableEq

/-- Whether the failure is one of the file system. -/
def ReadError.isSystem : ReadError → Bool
  | .access e => e.isSystem
  | .undecodable => false

/-- The bytes of a file. -/
def readBytes (d : Disk) (path : Text) : Except AccessError ByteArray := do
  match ← d.find path with
  | .file bytes => return bytes
  | .directory => throw .isDirectory

/-- The text that bytes encode, with line feeds for all line breaks. -/
def decodeText (bytes : ByteArray) : Except ReadError Text :=
  (decode? bytes).elim (.error .undecodable) fun t => .ok (Text.unifyBreaks t)

/-- The text of a file. -/
def readText (d : Disk) (path : Text) : Except ReadError Text :=
  match d.readBytes path with
  | .error e => .error (.access e)
  | .ok bytes => decodeText bytes

/-! ## Writing -/

/-- What a change of the disk comes to: the disk as it is then, and the error that ended the
change, if one did. -/
structure Change where
  disk : Disk
  error? : Option AccessError

/-- A change and then another one, unless the first ends with an error. -/
def Change.andThen (change : Change) (next : Disk → Change) : Change :=
  match change.error? with
  | some _ => change
  | none => next change.disk

/-- The location of a file that is opened to be written, and the disk with that file, which is empty
then. -/
def openFile (d : Disk) (path : Text) : Except AccessError (Location × Disk) := do
  let l ← d.locate path
  if d.entry? l = some .directory then throw .isDirectory
  else if !d.medium.admits l then throw .refused
  else return (l, d.set l (.file .empty))

/-- The disk with bytes in an open file, or with as many of them as the medium takes. -/
def fill (d : Disk) (l : Location) (bytes : ByteArray) : Change :=
  match d.medium.breakOff? l bytes with
  | none => ⟨d.set l (.file bytes), none⟩
  | some n => ⟨d.set l (.file (bytes.extract 0 n)), some .brokenOff⟩

/-- The disk with a text written into a file. A file that could be opened has lost what it held,
also if it cannot be filled. -/
def write (d : Disk) (path : Text) (t : Text) : Change :=
  match d.openFile path with
  | .error e => ⟨d, some e⟩
  | .ok (l, opened) => opened.fill l (encode t)

/-- The disk with a new directory. -/
def makeDirectory (d : Disk) (path : Text) : Except AccessError Disk := do
  let l ← d.locate path
  if (d.entry? l).isSome then throw .alreadyExists
  else if !d.medium.admits l then throw .refused
  else return d.set l .directory

/-- The disk with a directory, which may be there already. -/
def ensureDirectory (d : Disk) (path : Text) : Change :=
  match d.makeDirectory path with
  | .ok e => ⟨e, none⟩
  | .error e => ⟨d, if e.isSystem && d.isDirectory path then none else some e⟩

/-- The disk with a directory, given by its names from the last to the first, and all directories
above it. Directories that were created stay if one further down cannot be. -/
def makeDirectories (d : Disk) (root : Text) : (reversedNames : List Text) → Change
  | [] => d.ensureDirectory (Path.print ⟨root, []⟩)
  | name :: above =>
    let path := Path.print ⟨root, (name :: above).reverse⟩
    if above.isEmpty && root.isEmpty || d.contains (Path.print ⟨root, above.reverse⟩) then
      d.ensureDirectory path
    else
      let change := d.makeDirectories root above
      match change.error? with
      | none | some .alreadyExists => change.disk.ensureDirectory path
      | some _ => change

end Disk

end Disassembly
