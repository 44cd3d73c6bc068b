import Disassembly.Json.Writer
import Disassembly.Notice

/-!
# Logging

Which notices are logged, and how. Logging is set up once, by the first command line that is
understood and names no bad level; later ones leave it as it is.

A level is given by its name. Some names stand for other settings of logging, which are no levels.
-/

set_option autoImplicit false

namespace Disassembly.CommandLine

/-- How notices are logged: from which rank on, and whether as JSON. -/
structure Logging where
  threshold : Nat
  json : Bool
  deriving DecidableEq

namespace Logging

/-! ## Levels -/

/-- A setting of logging whose name was given for that of a level. -/
inductive BadLevel where
  /-- The form of a line. -/
  | lineFormat
  /-- The ways to write the form of a line. -/
  | formatStyles
  deriving DecidableEq

/-- What is said of a setting in place of a level. -/
def BadLevel.message : BadLevel → Text
  | .lineFormat => "Unknown level: '%(levelname)s:%(name)s:%(message)s'".toList
  | .formatStyles =>
    ("Level not an integer or a valid string: \x7b" ++
      "'%': (<class 'logging.PercentStyle'>, '%(levelname)s:%(name)s:%(message)s'), " ++
      "'\x7b': (<class 'logging.StrFormatStyle'>, " ++
      "'\x7blevelname\x7d:\x7bname\x7d:\x7bmessage\x7d'), " ++
      "'$': (<class 'logging.StringTemplateStyle'>, " ++
      "'$\x7blevelname\x7d:$\x7bname\x7d:$\x7bmessage\x7d')\x7d").toList

/-- What the names of levels and other settings stand for: the ranks of the levels. -/
def namedLevels : List (Text × Except BadLevel Nat) :=
  [("NOTSET", .ok 0), ("DEBUG", .ok 10), ("INFO", .ok 20), ("WARN", .ok 30), ("WARNING", .ok 30),
    ("ERROR", .ok 40), ("CRITICAL", .ok 50), ("FATAL", .ok 50),
    ("BASIC_FORMAT", .error .lineFormat), ("_STYLES", .error .formatStyles)].map fun p =>
      (p.1.toList, p.2)

/-- The letters outside the basic Latin alphabet whose capitals are in it, by their code points. -/
def foreignCapitals : List (Nat × String) :=
  [(0xDF, "SS"), (0x131, "I"), (0x17F, "S"), (0xFB00, "FF"), (0xFB01, "FI"), (0xFB02, "FL"),
    (0xFB03, "FFI"), (0xFB04, "FFL"), (0xFB05, "ST"), (0xFB06, "ST")]

/-- The capitals of a letter, as far as they are in the basic Latin alphabet. -/
def capitals (c : Char) : Text :=
  ((foreignCapitals.lookup c.toNat).map String.toList).getD [c.toUpper]

/-- The rank from which notices are logged at a level, in letters of either size. A level of
another name stands for the level of information. -/
def thresholdOf (level : Text) : Except BadLevel Nat :=
  (namedLevels.lookup (level.flatMap capitals)).getD (.ok Severity.info.rank)

/-! ## Setting up -/

/-- The logging that a command line sets up, and what is reported of that. Logging that is set up
already is kept, whatever level is named. -/
def setUp (current : Option Logging) (level : Text) (json : Bool) :
    Except BadLevel (Logging × List Notice) :=
  match current with
  | some l => .ok (l, [])
  | none => (thresholdOf level).map fun threshold => (⟨threshold, json⟩, [.loggingConfigured level])

/-- Whether a notice is logged. -/
def passes (l : Logging) (n : Notice) : Bool :=
  l.threshold ≤ n.severity.rank

/-- All that a notice says, as a structured value. -/
def toDatum (n : Notice) : Datum Text :=
  .record (n.fields ++
    [("event".toList, .text n.wording), ("logger".toList, .text n.source),
     ("level".toList, .text n.severity.print)])

/-- The line of the log for a notice. -/
def print (l : Logging) (n : Notice) : Text :=
  if l.json then Json.inline (toDatum n)
  else
    '[' :: n.severity.print ++ [']', ' '] ++ n.wording ++
      n.fields.flatMap fun f => ' ' :: f.1 ++ '=' :: Json.inline f.2

end Logging

end Disassembly.CommandLine
