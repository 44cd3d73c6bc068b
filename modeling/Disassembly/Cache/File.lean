import Disassembly.Cache
import Disassembly.Json.Reader
import Disassembly.Platform

/-!
# Cache files

A cache is kept in a file as a mapping of signatures to listings, in YAML if the name of the file
says so and in JSON otherwise. A JSON file is decoded before it is read, a YAML file block by block
while it is read by the library of the platform.

The texts of a cache can be printed. A file may also hold halves of surrogate pairs in its strings,
which can be searched but not always printed; that is an outcome of its own, and nothing is said
about what follows from it.
-/

set_option autoImplicit false

namespace Disassembly.Cache

/-- Why a file gives no cache. -/
inductive FileError where
  /-- There is no such file. -/
  | missing (path : Text)
  | unreadable (e : Disk.ReadError)
  | json (e : Json.ReadError)
  | yaml (e : Yaml.Failure)
  /-- The file holds something other than texts under signatures. -/
  | notTexts
  /-- The file holds strings under strings, but one of them is no text. -/
  | rawTexts
  deriving DecidableEq

/-- Whether the failure is a fault of the file or its contents. Values that are nested too deep and
what goes wrong in the library for YAML are failures of another sort. -/
def FileError.isFault : FileError → Bool
  | .json e => e.isFault
  | .yaml e => e.isFault
  | .rawTexts => false
  | _ => true

/-- What is said of a file that is missing. -/
def missingMessage (path : Text) : Text :=
  "Bytecode cache file not found: ".toList ++ path

/-- What is said of a file that holds something other than texts. -/
def notTextsMessage : Text :=
  "Bytecode cache must map signature strings to disassembly text".toList

/-- The endings of the names of YAML files. -/
def yamlExtensions : List Text :=
  [".yaml".toList, ".yml".toList]

/-- The cache with the given strings under strings, if a file has them. -/
def ofStrings (strings? : Option (List (RawText × RawText))) : Except FileError Cache :=
  match strings? with
  | none => .error .notTexts
  | some strings =>
    match strings.mapM fun e => do return (← e.1.text?, ← e.2.text?) with
    | none => .error .rawTexts
    | some entries => .ok ⟨entries⟩

/-- The cache in a file. -/
def load (p : Platform) (d : Disk) (path : Text) : Except FileError Cache := do
  if !d.contains path then throw (.missing path)
  let bytes ← (d.readBytes path).mapError fun e => .unreadable (.access e)
  if yamlExtensions.contains (Disk.extension path) then
    ofStrings (← (p.yaml.read (Disk.decodeBlocks bytes)).mapError .yaml)
  else
    let t ← (Disk.decodeText bytes).mapError .unreadable
    ofStrings (← (Json.read p.room t).mapError .json).texts?

end Disassembly.Cache
