import Disassembly.CommandLine.Program
import Disassembly.Platform.Standard

/-!
# The executable

The files that a command line names are read, the program is run on them, and what it changed is
written back. All decisions are those of `Program.run`.

There is no connection to the web, so every request fails.
-/

set_option autoImplicit false

namespace Disassembly.Main

open CommandLine

/-- A text as the system takes it. -/
def systemText (t : Text) : String :=
  String.ofList t

/-- The path of a location as the system takes it. -/
def systemPath (l : Disk.Location) : String :=
  systemText ('/' :: ['/'].intercalate l)

/-- What stands at a location of the file system. -/
def look (l : Disk.Location) : IO (Option Disk.Entry) := do
  try
    return some (.file (← IO.FS.readBinFile (systemPath l)))
  catch e =>
    match e with
    | .inappropriateType .. => return some .directory
    | _ => return none

/-- The disk with what stands at a location, if the location above it is a directory. -/
def addLocation (d : Disk) (l : Disk.Location) : IO Disk := do
  if d.entry? l.dropLast = some .directory then
    match ← look l with
    | some e => return d.set l e
    | none => return d
  else return d

/-- The paths that a command line may be about. -/
def paths (words : List Text) (environment : Text → Option Text) : List Text :=
  match Arguments.read (.ofEnvironment environment) words with
  | .error _ => []
  | .ok a =>
    match a.command with
    | .parse file _ => [file]
    | .lookup cacheFile _ _ => [cacheFile]
    | .describe _ | .fetch _ _ => [a.localCopy.htmlPath.print, a.localCopy.cssPath.print]

/-- The locations on the way to a path, from the top. -/
def locations (workingDirectory : Disk.Location) (path : Text) : List Disk.Location :=
  let names := (if path.head? = some '/' then [] else workingDirectory) ++ (Disk.Path.ofText path).names
  let step (l : Disk.Location) (name : Text) : Disk.Location :=
    if name = ['.', '.'] then l.dropLast else l ++ [name]
  (List.range (names.length + 1)).map fun n => (names.take n).foldl step []

/-- The change at a location is carried out in the file system. -/
def writeBack (before after : Disk) (l : Disk.Location) : IO Unit := do
  if before.entry? l ≠ after.entry? l then
    match after.entry? l with
    | some .directory => IO.FS.createDirAll (systemPath l)
    | some (.file bytes) => IO.FS.writeBinFile (systemPath l) bytes
    | none => return

/-- The variables of the environment that count. -/
def readEnvironment : IO (List (Text × Text)) := do
  let names := ["JVMS_DIR", "LOG_LEVEL", "JVMS_HTML_URL", "JVMS_CSS_URL"]
  let values ← names.filterMapM fun name => do
    return (← IO.getEnv name).map fun value => (name.toList, value.toList)
  return values

/-- The standard input, if the command line asks for it. -/
def standardInput (paths : List Text) : IO Text := do
  if paths.contains Command.standardInput then
    return (← (← IO.getStdin).readToEnd).toList
  else return []

/-- Runs the program. -/
def run (words : List Text) : IO UInt32 := do
  let values ← readEnvironment
  let environment (name : Text) : Option Text := values.lookup name
  let here := (Disk.Path.ofText (← IO.currentDir).toString.toList).names
  let named := paths words environment
  let touched := (named.flatMap (locations here)).eraseDups
  let before ← touched.foldlM addLocation (Disk.empty here)
  let (logging, outcome) := Program.run none words
    { environment, input := ← standardInput named, disk := before,
      web := Web.none, platform := .standard }
  for n in outcome.notices do
    IO.eprintln (systemText ((logging.map fun l => l.print n).getD []))
  IO.print (systemText outcome.output)
  touched.forM (writeBack before outcome.disk)
  match outcome.result with
  | .ok code =>
    if code = 2 then IO.eprint (systemText usage)
    return code.toUInt32
  | .error _ =>
    IO.eprintln "the input cannot be processed"
    return 1

end Disassembly.Main

/-- The entry point of the executable. -/
def main (arguments : List String) : IO UInt32 :=
  Disassembly.Main.run (arguments.map String.toList)
