import Disassembly.CommandLine.Program
import Disassembly.Platform.Standard
import Disassembly.Proofs.Cache.File
import Disassembly.Proofs.Cache.Search
import Disassembly.Proofs.Disk.Path
import Disassembly.Proofs.Instruction.Grammar
import Disassembly.Proofs.Yaml.Node
import Mathlib.Tactic

/-!
# How commands that print a listing end

A command that prints the listing in a file, or that of a method in a cache file, ends with an exit
code of zero or one unless it meets something that it does not guard against (`exits_run`). What
that can be is listed in `Unguarded`. Bytes that are no text are among it where a listing is read
(`not_exits_run_undecodable`), but not where a cache is. This holds on all platforms, so whichever
files the library for YAML reads and however it fails; that it reads a file to its end is all that
is relied on. Caches with strings that are no texts are left out, since not all in them can be
printed.
-/

set_option autoImplicit false

namespace Disassembly

/-! ## Offsets with too many digits -/

namespace Listing

/-- A line of the text is an instruction but for an offset with too many digits. -/
def HasOverlongOffset (t : Text) : Prop :=
  ∃ line ∈ Text.lines t, ∃ digits, Instruction.Answers line (.overlongOffset digits)

theorem attemptLines_eq_none_iff (number : Nat) (lines : List Text) :
    (attemptLines number lines).2 = none ↔
      ∀ line ∈ lines, ∀ digits, Instruction.ofLine line ≠ .overlongOffset digits := by
  induction lines generalizing number with
  | nil => simp [attemptLines]
  | cons line rest ih =>
    rw [attemptLines, List.forall_mem_cons]
    cases Instruction.ofLine line with
    | decoded i => simp [ih]
    | skipped reason => simp [ih]
    | overlongOffset digits => simp

theorem attempt_eq_none_iff (t : Text) : (attempt t).2 = none ↔ ¬HasOverlongOffset t := by
  rw [attempt, attemptLines_eq_none_iff]
  constructor
  · rintro h ⟨line, hline, digits, hanswers⟩
    exact h line hline digits (Instruction.ofLine_of_answers hanswers)
  · intro h line hline digits hof
    refine h ⟨line, hline, digits, ?_⟩
    rw [← hof]
    exact Instruction.answers_ofLine line

end Listing

namespace CommandLine

open Command Listing

/-- A run ends with an exit code of zero or one. -/
def Outcome.Exits (o : Outcome) : Prop :=
  o.result = .ok 0 ∨ o.result = .ok 1

/-- The command prints a listing. -/
inductive Command.PrintsListing : Command → Prop
  | parse (file : Text) (format : Format) : PrintsListing (.parse file format)
  | lookup (cacheFile signature : Text) (format : Format) :
      PrintsListing (.lookup cacheFile (some signature) format)

/-- The file that a command is about cannot be read as a text. -/
inductive Command.CannotRead (d : Disk) : Command → Prop
  | parse {file : Text} {format : Format} {e : Disk.ReadError} (hfile : file ≠ standardInput)
      (hread : d.readText file = .error e) : CannotRead d (.parse file format)
  | lookup {cacheFile : Text} {signature : Option Text} {format : Format} {e : Disk.ReadError}
      (hread : d.readText cacheFile = .error e) : CannotRead d (.lookup cacheFile signature format)

/-- What a command that prints a listing does not guard against. -/
inductive Command.Unguarded (p : Platform) (d : Disk) (input : Text) : Command → Prop
  /-- The file with the listing is no text. -/
  | undecodable {file : Text} {format : Format} (hfile : file ≠ standardInput)
      (hread : d.readText file = .error .undecodable) : Unguarded p d input (.parse file format)
  /-- The path of the file with the listing is none. -/
  | nullCharacter {file : Text} {format : Format} (hfile : file ≠ standardInput)
      (hnull : Char.ofNat 0 ∈ file) : Unguarded p d input (.parse file format)
  | inputOffset {file : Text} {format : Format} (hfile : file = standardInput)
      (hoffset : HasOverlongOffset (Text.unifyBreaks input)) :
      Unguarded p d input (.parse file format)
  | fileOffset {file t : Text} {format : Format} (hfile : file ≠ standardInput)
      (hread : d.readText file = .ok t) (hoffset : HasOverlongOffset t) :
      Unguarded p d input (.parse file format)
  | deepJson {cacheFile : Text} {signature : Option Text} {format : Format} {isRecord : Bool}
      (hload : Cache.load p d cacheFile = .error (.json (.tooDeep isRecord))) :
      Unguarded p d input (.lookup cacheFile signature format)
  /-- Something goes wrong in the library that reads the cache file. -/
  | breakdown {cacheFile : Text} {signature : Option Text} {format : Format} {e : Yaml.Failure}
      (hload : Cache.load p d cacheFile = .error (.yaml e)) (hbreakdown : e.isFault = false) :
      Unguarded p d input (.lookup cacheFile signature format)
  | foundOffset {cacheFile signature t : Text} {format : Format} {c : Cache}
      (hload : Cache.load p d cacheFile = .ok c) (hfound : c.listingText? signature = .ok (some t))
      (hoffset : HasOverlongOffset t) :
      Unguarded p d input (.lookup cacheFile (some signature) format)

/-- The cache file that a command is about has strings under strings, but not all of them are texts:
some hold halves of surrogate pairs. -/
inductive Command.HoldsHalves (p : Platform) (d : Disk) : Command → Prop
  | lookup {cacheFile : Text} {signature : Option Text} {format : Format}
      (hload : Cache.load p d cacheFile = .error .rawTexts) :
      HoldsHalves p d (.lookup cacheFile signature format)

variable {p : Platform} {d : Disk} {input : Text}

/-! ## Commands -/

theorem exits_exit (code : Nat) (output : Text) (notices : List Notice)
    (hcode : code = 0 ∨ code = 1) : (Outcome.exit code output notices d).Exits := by
  rcases hcode with rfl | rfl
  · exact Or.inl rfl
  · exact Or.inr rfl

theorem not_exits_failure (e : Failure) (notices : List Notice) :
    ¬(Outcome.failure e notices d).Exits := by
  rintro (h | h) <;> cases h

theorem exits_showListing (t : Text) (format : Format) :
    (showListing p t format d).Exits ↔ ¬HasOverlongOffset t := by
  rw [← attempt_eq_none_iff, showListing]
  cases hoverlong : (attempt t).2 with
  | none =>
    simp only [hoverlong]
    exact iff_of_true (exits_exit 0 _ _ (Or.inl rfl)) trivial
  | some e =>
    simp only [hoverlong]
    exact iff_of_false (not_exits_failure _ _) nofun

section Parse

variable {file : Text} {format : Format}

theorem unguarded_input_iff (hfile : file = standardInput) :
    Unguarded p d input (.parse file format) ↔ HasOverlongOffset (Text.unifyBreaks input) := by
  refine ⟨fun h => ?_, .inputOffset hfile⟩
  cases h with
  | undecodable hne => exact absurd hfile hne
  | nullCharacter hne => exact absurd hfile hne
  | inputOffset _ hoffset => exact hoffset
  | fileOffset hne => exact absurd hfile hne

theorem unguarded_text_iff (hfile : file ≠ standardInput) {t : Text}
    (hread : d.readText file = .ok t) :
    Unguarded p d input (.parse file format) ↔ HasOverlongOffset t := by
  refine ⟨fun h => ?_, .fileOffset hfile hread⟩
  cases h with
  | undecodable _ herr =>
    rw [hread] at herr
    cases herr
  | nullCharacter _ hnull =>
    rw [Disk.readText, (Disk.readBytes_eq_nullCharacter_iff (d := d)).2 hnull] at hread
    cases hread
  | inputOffset heq => exact absurd heq hfile
  | fileOffset _ hsame hoffset =>
    rw [hread] at hsame
    cases hsame
    exact hoffset

theorem unguarded_error_iff (hfile : file ≠ standardInput) {e : Disk.ReadError}
    (hread : d.readText file = .error e) :
    Unguarded p d input (.parse file format) ↔ e.isSystem = false := by
  rw [Disk.isSystem_eq_false_iff hread]
  constructor
  · intro h
    cases h with
    | undecodable _ herr =>
      rw [hread] at herr
      exact Or.inr (Except.error.inj herr)
    | nullCharacter _ hnull => exact Or.inl hnull
    | inputOffset heq => exact absurd heq hfile
    | fileOffset _ hok =>
      rw [hread] at hok
      cases hok
  · rintro (hnull | rfl)
    · exact .nullCharacter hfile hnull
    · exact .undecodable hfile hread

/-- What comes of a file that cannot be read. -/
theorem runParse_of_error (hfile : file ≠ standardInput) {e : Disk.ReadError}
    (hread : d.readText file = .error e) :
    runParse p file format input d =
      if e.isSystem then .exit 1 [] [.listingUnreadable file] d
      else .failure (.unreadable e) [] d := by
  rw [runParse, if_neg hfile, hread]

theorem exits_runParse : (runParse p file format input d).Exits ↔
    ¬Unguarded p d input (.parse file format) := by
  by_cases hfile : file = standardInput
  · rw [unguarded_input_iff hfile, runParse, if_pos hfile]
    exact exits_showListing _ format
  · cases hread : d.readText file with
    | ok t =>
      rw [unguarded_text_iff hfile hread, runParse, if_neg hfile, hread]
      exact exits_showListing t format
    | error e =>
      rw [unguarded_error_iff hfile hread, runParse_of_error hfile hread]
      cases e.isSystem with
      | true => exact iff_of_true (exits_exit 1 _ _ (Or.inr rfl)) nofun
      | false => exact iff_of_false (not_exits_failure _ _) fun h => h rfl

end Parse

section Lookup

variable {cacheFile signature : Text} {format : Format}

theorem unguarded_cache_iff {s : Option Text} {e : Cache.FileError}
    (hload : Cache.load p d cacheFile = .error e) (he : e ≠ .rawTexts) :
    Unguarded p d input (.lookup cacheFile s format) ↔ e.isFault = false := by
  rw [Cache.isFault_eq_false_iff]
  constructor
  · intro h
    cases h with
    | deepJson herr =>
      rw [hload] at herr
      exact Or.inl ⟨_, Except.error.inj herr⟩
    | breakdown herr hbreakdown =>
      rw [hload] at herr
      exact Or.inr (Or.inl ⟨_, Except.error.inj herr, hbreakdown⟩)
    | foundOffset hok =>
      rw [hload] at hok
      cases hok
  · rintro (⟨isRecord, rfl⟩ | ⟨err, rfl, hbreakdown⟩ | rfl)
    · exact .deepJson hload
    · exact .breakdown hload hbreakdown
    · exact absurd rfl he

theorem unguarded_found_iff {c : Cache} (hload : Cache.load p d cacheFile = .ok c) :
    Unguarded p d input (.lookup cacheFile (some signature) format) ↔
      ∃ t, c.listingText? signature = .ok (some t) ∧ HasOverlongOffset t := by
  constructor
  · intro h
    cases h with
    | deepJson herr =>
      rw [hload] at herr
      cases herr
    | breakdown herr =>
      rw [hload] at herr
      cases herr
    | foundOffset hok hfound hoffset =>
      rw [hload] at hok
      cases hok
      exact ⟨_, hfound, hoffset⟩
  · rintro ⟨t, hfound, hoffset⟩
    exact .foundOffset hload hfound hoffset

theorem exits_showMember (c : Cache) : (showMember p c signature format d).Exits ↔
    ¬∃ t, c.listingText? signature = .ok (some t) ∧ HasOverlongOffset t := by
  obtain ⟨found, hfound⟩ := c.exists_find signature
  have hlisting : c.listingText? signature = .ok (found.entry.map Cache.Entry.listing) := by
    rw [Cache.listingText?, hfound]
    rfl
  rw [showMember, hfound, hlisting]
  simp only
  cases found.entry with
  | none =>
    refine iff_of_true (exits_exit 1 _ _ (Or.inr rfl)) ?_
    rintro ⟨t, ht, -⟩
    cases ht
  | some entry =>
    refine (exits_showListing (d := d) entry.listing format).trans (not_congr ⟨fun h => ?_, ?_⟩)
    · exact ⟨entry.listing, rfl, h⟩
    · rintro ⟨t, ht, h⟩
      cases ht
      exact h

/-- A cache file whose strings are all texts is read, or there is another error. -/
theorem ne_rawTexts {s : Option Text} {e : Cache.FileError}
    (hload : Cache.load p d cacheFile = .error e)
    (htexts : ¬HoldsHalves p d (.lookup cacheFile s format)) : e ≠ .rawTexts := by
  rintro rfl
  exact htexts (.lookup hload)

theorem exits_runLookup (htexts : ¬HoldsHalves p d (.lookup cacheFile (some signature) format)) :
    (runLookup p cacheFile (some signature) format d).Exits ↔
      ¬Unguarded p d input (.lookup cacheFile (some signature) format) := by
  rw [runLookup]
  cases hload : Cache.load p d cacheFile with
  | error e =>
    rw [unguarded_cache_iff hload (ne_rawTexts hload htexts)]
    simp only
    cases e.isFault with
    | true => exact iff_of_true (exits_exit 1 _ _ (Or.inr rfl)) nofun
    | false => exact iff_of_false (not_exits_failure _ _) fun h => h rfl
  | ok c =>
    rw [unguarded_found_iff hload]
    exact exits_showMember c

end Lookup

/-! ## Command lines -/

theorem exits_run_arguments {a : Arguments} (w : Web) (h : a.command.PrintsListing)
    (htexts : ¬HoldsHalves p d a.command) :
    (a.run p input d w).Exits ↔ ¬Unguarded p d input a.command := by
  rw [Arguments.run]
  generalize a.command = command at h htexts ⊢
  cases h with
  | parse file format => exact exits_runParse
  | lookup cacheFile signature format => exact exits_runLookup htexts

/-- Where the file cannot be read, the command ends with one and prints nothing, unless there is
something that it does not guard against. -/
theorem run_arguments_of_cannotRead (hp : p.yaml.Lawful) {a : Arguments} (w : Web)
    (hread : CannotRead d a.command) (htexts : ¬HoldsHalves p d a.command)
    (hguarded : ¬Unguarded p d input a.command) :
    (a.run p input d w).result = .ok 1 ∧ (a.run p input d w).output = [] := by
  rw [Arguments.run]
  generalize a.command = command at hread htexts hguarded ⊢
  cases hread with
  | parse hfile hread =>
    rw [unguarded_error_iff hfile hread, Bool.not_eq_false] at hguarded
    simp only
    rw [runParse_of_error hfile hread, if_pos hguarded]
    exact ⟨rfl, rfl⟩
  | lookup hread =>
    obtain ⟨err, hload⟩ := Cache.exists_load_eq_error hp hread
    rw [unguarded_cache_iff hload (ne_rawTexts hload htexts), Bool.not_eq_false] at hguarded
    simp only
    rw [runLookup, hload]
    simp only
    rw [if_pos hguarded]
    exact ⟨rfl, rfl⟩

namespace Program

variable {s : Surroundings} {words : List Text} {a : Arguments} {logging : Option Logging}
  {l : Logging} {notices : List Notice}

theorem run_eq (hread : Arguments.read (.ofEnvironment s.environment) words = .ok a)
    (hlogging : Logging.setUp logging a.logLevel a.jsonLogs = .ok (l, notices)) :
    (run logging words s).2.result = (a.run s.platform s.input s.disk s.web).result ∧
      (run logging words s).2.output = (a.run s.platform s.input s.disk s.web).output := by
  rw [run, hread]
  simp only
  rw [hlogging]
  exact ⟨rfl, rfl⟩

/-- A command line that asks for a listing, in a file or of a method in a cache file with texts,
ends with zero or one if and only if it meets nothing that it does not guard against: a file with a
listing that is no text or whose path is none, a JSON text that is nested too deep, anything that
goes wrong in the library for YAML, or an offset with too many digits. A file that cannot be read as
a text then gives one, and nothing is printed, where the library reads files to their end. -/
theorem exits_run (hread : Arguments.read (.ofEnvironment s.environment) words = .ok a)
    (hlogging : Logging.setUp logging a.logLevel a.jsonLogs = .ok (l, notices))
    (hlisting : a.command.PrintsListing) (htexts : ¬HoldsHalves s.platform s.disk a.command) :
    ((run logging words s).2.Exits ↔ ¬Unguarded s.platform s.disk s.input a.command) ∧
      (s.platform.yaml.Lawful → CannotRead s.disk a.command →
        ¬Unguarded s.platform s.disk s.input a.command →
        (run logging words s).2.result = .ok 1 ∧ (run logging words s).2.output = []) := by
  obtain ⟨hresult, houtput⟩ := run_eq hread hlogging
  refine ⟨?_, fun hp hcannot hguarded => ?_⟩
  · rw [Outcome.Exits, hresult]
    exact exits_run_arguments s.web hlisting htexts
  · rw [hresult, houtput]
    exact run_arguments_of_cannotRead hp s.web hcannot htexts hguarded

/-- A disk with one file, whose single byte is no text. -/
def byteDisk (name : Text) : Disk :=
  (Disk.empty []).install [name] (.file ⟨#[0xFF]⟩)

/-- The surroundings of a run that finds that disk, and nothing else. -/
def byteSurroundings (name : Text) : Surroundings :=
  ⟨fun _ => none, [], byteDisk name, Web.none, .standard⟩

/-- The words that ask for a method in a YAML file. -/
def lookupWords : List Text :=
  ["lookup".toList, "c.yml".toList, "void f()".toList]

/-- What these words ask for. -/
def lookupArguments : Arguments :=
  ⟨['.'], "WARNING".toList, false, .lookup "c.yml".toList (some "void f()".toList) .text⟩

theorem exits_run_lookupWords :
    Platform.standard.yaml.Lawful ∧
      Arguments.read (.ofEnvironment (byteSurroundings "c.yml".toList).environment) lookupWords =
        .ok lookupArguments ∧
      lookupArguments.command.PrintsListing ∧
      ¬HoldsHalves .standard (byteDisk "c.yml".toList) lookupArguments.command ∧
      CannotRead (byteDisk "c.yml".toList) lookupArguments.command ∧
      ¬Unguarded .standard (byteDisk "c.yml".toList) [] lookupArguments.command ∧
      (run none lookupWords (byteSurroundings "c.yml".toList)).2.Exits ∧
      (run none lookupWords (byteSurroundings "c.yml".toList)).2.result = .ok 1 ∧
      (run none lookupWords (byteSurroundings "c.yml".toList)).2.output = [] := by
  have hlawful : Platform.standard.yaml.Lawful := Yaml.lawful_standard 480
  have hread : Arguments.read (.ofEnvironment (byteSurroundings "c.yml".toList).environment)
      lookupWords = .ok lookupArguments := rfl
  have hlogging : Logging.setUp none lookupArguments.logLevel lookupArguments.jsonLogs =
      .ok (⟨30, false⟩, [.loggingConfigured "WARNING".toList]) := rfl
  have hlisting : lookupArguments.command.PrintsListing := .lookup _ _ _
  have hload : Cache.load .standard (byteDisk "c.yml".toList) "c.yml".toList =
      .error (.yaml .undecodable) := rfl
  have htexts : ¬HoldsHalves .standard (byteDisk "c.yml".toList) lookupArguments.command := by
    rintro ⟨hraw⟩
    rw [hload] at hraw
    cases hraw
  have hcannot : CannotRead (byteDisk "c.yml".toList) lookupArguments.command :=
    .lookup (e := .undecodable) rfl
  have hguarded : ¬Unguarded .standard (byteDisk "c.yml".toList) []
      lookupArguments.command := by
    rw [lookupArguments, unguarded_cache_iff hload nofun]
    nofun
  obtain ⟨hexits, hone⟩ := exits_run hread hlogging hlisting htexts
  exact ⟨hlawful, hread, hlisting, htexts, hcannot, hguarded, hexits.2 hguarded,
    hone hlawful hcannot hguarded⟩

/-- A file that is no text can keep a run from ending with an exit code. -/
theorem not_exits_run_undecodable :
    Disk.readText (byteDisk ['f']) ['f'] = .error .undecodable ∧
      (run none ["parse".toList, ['f']] (byteSurroundings ['f'])).2.result =
        .error (.unreadable .undecodable) ∧
      ¬(run none ["parse".toList, ['f']] (byteSurroundings ['f'])).2.Exits := by
  have hresult : (run none ["parse".toList, ['f']] (byteSurroundings ['f'])).2.result =
      .error (.unreadable .undecodable) := rfl
  refine ⟨rfl, hresult, ?_⟩
  rw [Outcome.Exits, hresult]
  rintro (h | h) <;> cases h

end Program

end CommandLine

end Disassembly
