import Disassembly.Cache.File
import Disassembly.CommandLine.Arguments
import Disassembly.CommandLine.Logging

/-!
# The program

What a command line does. `Arguments.run` carries out a command, and `Program.run` reads the command
line first and sets up the logging. Both are functions of the platform, the disk, the web and the
standard input; what they change shows in their outcome.

Command lines and the standard input are texts, and so is what is printed: the standard output takes
every character.
-/

set_option autoImplicit false

namespace Disassembly.CommandLine

/-- A failure that ends the program without an exit code. -/
inductive Failure where
  /-- The level of logging is none. -/
  | badLevel (e : Logging.BadLevel)
  | unreadable (e : Disk.ReadError)
  | unloaded (e : Manual.LoadError)
  | unfetched (e : Manual.FetchError)
  | badCache (e : Cache.FileError)
  /-- There is no signature to look up. -/
  | noSignature
  | malformedType (e : MalformedType)
  | overlongOffset (e : OverlongOffset)

/-- What a run comes to: how it ends, what it prints and reports, the disk as it is then, and what
it requested from the web. -/
structure Outcome where
  result : Except Failure Nat
  output : Text
  notices : List Notice
  disk : Disk
  requests : List Manual.Request

namespace Outcome

/-- The outcome of a run that ends with an exit code and leaves disk and web alone. -/
def exit (code : Nat) (output : Text) (notices : List Notice) (d : Disk) : Outcome :=
  ⟨.ok code, output, notices, d, []⟩

/-- The outcome of a run that fails before it prints anything. -/
def failure (e : Failure) (notices : List Notice) (d : Disk) : Outcome :=
  ⟨.error e, [], notices, d, []⟩

/-- The outcome with something printed and reported before it. -/
def after (o : Outcome) (output : Text) (notices : List Notice) : Outcome :=
  { o with output := output ++ o.output, notices := notices ++ o.notices }

end Outcome

namespace Command

/-- The listing in a text is printed. The notices of skipped lines come even if a later line has an
overlong offset. -/
def showListing (p : Platform) (t : Text) (format : Format) (d : Disk) : Outcome :=
  let (l, overlong?) := Listing.attempt t
  match overlong? with
  | some e => .failure (.overlongOffset e) l.notices d
  | none => .exit 0 (l.render p.yaml format ++ ['\n']) l.notices d

/-- The file name that stands for the standard input. -/
def standardInput : Text := ['-']

/-- The listing in a file, or in the standard input, is printed. -/
def runParse (p : Platform) (file : Text) (format : Format) (input : Text) (d : Disk) : Outcome :=
  if file = standardInput then showListing p (Text.unifyBreaks input) format d
  else
    match d.readText file with
    | .ok t => showListing p t format d
    | .error e =>
      if e.isSystem then .exit 1 [] [.listingUnreadable file] d
      else .failure (.unreadable e) [] d

/-- What is printed for a mnemonic. -/
def describeOne (s : Manual.Store) (mnemonic : Text) : Text :=
  Text.unlines
    ["== ".toList ++ mnemonic,
     (s.lookup mnemonic).getD "No description available".toList]

/-- The descriptions of mnemonics in the local copy of the manual are printed. -/
def runDescribe (directory : Text) (copy : Manual.LocalCopy) (mnemonics : List Text) (d : Disk) :
    Outcome :=
  let loading := copy.loadInto d .empty
  match loading.result with
  | .error e => .failure (.unloaded e) loading.notices d
  | .ok _ =>
    if loading.store.isLoaded then
      .exit 0 (mnemonics.flatMap (describeOne loading.store)) loading.notices d
    else .exit 1 [] (loading.notices ++ [.manualNotLoaded directory]) d

/-- The manual is fetched. -/
def runFetch (copy : Manual.LocalCopy) (w : Web) (d : Disk) : Outcome :=
  let fetching := copy.fetch w d
  match fetching.result with
  | .error e => ⟨.error (.unfetched e), [], fetching.notices, fetching.disk, fetching.requests⟩
  | .ok false => ⟨.ok 1, [], fetching.notices, fetching.disk, fetching.requests⟩
  | .ok true =>
    let saved := "Saved ".toList ++ copy.htmlPath.print ++ ['\n']
    ⟨.ok 0, saved, fetching.notices, fetching.disk, fetching.requests⟩

/-- The listing of a method in a cache is printed, below the signature under which it is stored. -/
def showMember (p : Platform) (c : Cache) (signature : Text) (format : Format) (d : Disk) :
    Outcome :=
  match c.find signature with
  | .error e => .failure (.malformedType e) [] d
  | .ok found =>
    let notices := found.notices c signature
    match found.entry with
    | none =>
      .exit 1 ("Bytecode not available for ".toList ++ signature ++ ['\n']) notices d
    | some entry =>
      (showListing p entry.listing format d).after ("// ".toList ++ entry.signature ++ ['\n'])
        notices

/-- The listing of a method in a cache file is printed. Whether there is a signature matters only
when the file has been read. -/
def runLookup (p : Platform) (cacheFile : Text) (signature : Option Text) (format : Format)
    (d : Disk) : Outcome :=
  match Cache.load p d cacheFile with
  | .error e =>
    if e.isFault then .exit 1 [] [.cacheUnreadable cacheFile] d
    else .failure (.badCache e) [] d
  | .ok c =>
    match signature with
    | none => .failure .noSignature [] d
    | some s => showMember p c s format d

end Command

/-- The local copy of the manual that a command is about. -/
def Arguments.localCopy (a : Arguments) : Manual.LocalCopy :=
  let (html, css) :=
    match a.command with
    | .fetch html css => (html, css)
    | _ => (Manual.LocalCopy.defaultHtmlAddress, Manual.LocalCopy.defaultCssAddress)
  ⟨.ofText a.directory, html, css, Manual.LocalCopy.defaultTimeout⟩

/-- What a command line asks for is done. -/
def Arguments.run (a : Arguments) (p : Platform) (input : Text) (d : Disk) (w : Web) : Outcome :=
  match a.command with
  | .parse file format => Command.runParse p file format input d
  | .describe mnemonics => Command.runDescribe a.directory a.localCopy mnemonics d
  | .fetch _ _ => Command.runFetch a.localCopy w d
  | .lookup cacheFile signature format => Command.runLookup p cacheFile signature format d

namespace Program

/-- What surrounds the program: the variables of the environment, the standard input, the disk, the
web and the platform. -/
structure Surroundings where
  environment : Text → Option Text
  input : Text
  disk : Disk
  web : Web
  platform : Platform

/-- The end of a program that was refused its command line. -/
def refuse (r : Refusal) (d : Disk) : Outcome :=
  match r with
  | .usage => .exit 2 [] [] d
  | .help => .exit 0 usage [] d

/-- A command line is read and carried out. The outcome has the notices that are logged, and the
logging is that of later runs: a run with a bad level leaves it to be set up. -/
def run (logging : Option Logging) (words : List Text) (s : Surroundings) :
    Option Logging × Outcome :=
  match Arguments.read (.ofEnvironment s.environment) words with
  | .error r => (logging, refuse r s.disk)
  | .ok a =>
    match Logging.setUp logging a.logLevel a.jsonLogs with
    | .error e => (logging, .failure (.badLevel e) [] s.disk)
    | .ok (l, notices) =>
      let outcome := (a.run s.platform s.input s.disk s.web).after [] notices
      (some l, { outcome with notices := outcome.notices.filter l.passes })

end Program

end Disassembly.CommandLine
