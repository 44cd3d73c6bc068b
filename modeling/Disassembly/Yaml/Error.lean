import Disassembly.Numeral
import Disassembly.Yaml.Library

/-!
# Errors in YAML texts

Why a YAML text cannot be read. Most texts break the rules of the format. Others go on where they
cannot be read, or their nodes stand too deep inside each other; and some scalars have the form of a
character escape, a number or a point in time without standing for one, or they are given a tag that
does not suit their form. What users of the library see of this is `ReadError.failure`.
-/

set_option autoImplicit false

namespace Disassembly.Yaml

/-- Why a date or a time of day does not exist. -/
inductive TimeError where
  | year (n : Nat)
  | month
  | day
  | hour
  | minute
  | second
  /-- A time zone a day or more away, given in seconds. -/
  | zone (offset : Int)
  deriving DecidableEq

namespace TimeError

/-- A duration in days and seconds. -/
def printDuration (offset : Int) : Text :=
  let seconds := Int.emod offset 86400
  "datetime.timedelta(days=".toList ++ Numeral.print (Int.ediv offset 86400) ++
    (if seconds = 0 then [] else ", seconds=".toList ++ Numeral.print seconds) ++ [')']

/-- What is said of a date or a time that does not exist. -/
def message : TimeError → Text
  | .year n => "year ".toList ++ Numeral.printNat n ++ " is out of range".toList
  | .month => "month must be in 1..12".toList
  | .day => "day is out of range for month".toList
  | .hour => "hour must be in 0..23".toList
  | .minute => "minute must be in 0..59".toList
  | .second => "second must be in 0..59".toList
  | .zone offset =>
    "offset must be a timedelta strictly between -timedelta(hours=24) and ".toList ++
      "timedelta(hours=24), not ".toList ++ printDuration offset ++ ['.']

end TimeError

/-- Why a text cannot be read. -/
inductive ReadError where
  /-- The text breaks the rules of the format. -/
  | malformed
  /-- The text ends inside a quoted scalar. -/
  | unterminated
  /-- The text goes on where it cannot be read. -/
  | unreadable
  /-- Too many nodes stand inside each other. -/
  | tooDeep
  /-- An escape gives a number beyond the last character. -/
  | noCharacter (code : Nat)
  /-- An integer has more digits than a numeral may have. -/
  | overlongNumeral (digits : Nat)
  /-- An integer to the given base has no digits. -/
  | noDigits (base : Nat)
  /-- A number with a point has a place whose value exceeds all such numbers. -/
  | tooManyPlaces
  | time (e : TimeError)
  /-- The tag is that of a number, but the scalar is empty. -/
  | emptyNumber
  /-- The tag is that of a number, but the scalar is none. -/
  | noNumber
  /-- The tag is that of a truth value, but the scalar is the name of none. -/
  | noTruthValue
  /-- The tag is that of a point in time, but the scalar is none. -/
  | noTimestamp
  deriving DecidableEq

/-- The greatest number that a signed machine word holds. -/
def maxWord : Nat := 0x7FFFFFFF

/-- A failure that is no fault of the text, with what is said of it. -/
def Failure.named (name message : String) : Failure :=
  .breakdown name.toList (some message.toList)

/-- The failure of the library that an error comes to. -/
def ReadError.failure : ReadError → Failure
  | .malformed | .unterminated => .malformed
  | .unreadable => .undecodable
  | .tooDeep => .named "RecursionError" "maximum recursion depth exceeded"
  | .noCharacter code =>
    if maxWord < code then .named "OverflowError" "Python int too large to convert to C int"
    else .badValue (some "chr() arg not in range(0x110000)".toList)
  | .overlongNumeral digits => .badValue (some (Numeral.tooLongMessage digits))
  | .noDigits base =>
    .badValue (some
      ("invalid literal for int() with base ".toList ++ Numeral.printNat base ++ ": ''".toList))
  | .tooManyPlaces => .named "OverflowError" "int too large to convert to float"
  | .time e => .badValue (some e.message)
  | .emptyNumber => .named "IndexError" "string index out of range"
  | .noNumber => .badValue none
  | .noTruthValue => .breakdown "KeyError".toList none
  | .noTimestamp => .named "AttributeError" "'NoneType' object has no attribute 'groupdict'"

end Disassembly.Yaml
