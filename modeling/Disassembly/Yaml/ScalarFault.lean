import Disassembly.Yaml.Error
import Disassembly.Yaml.Scalar

/-!
# Scalars without a value

A scalar may have the form of a number, a date or a time of day that does not exist, a tag may ask
for a value of which it has not the form, and a mark may stand where a value is needed.
`Scalar.fault?` says what is wrong with such a scalar.
-/

set_option autoImplicit false

namespace Disassembly.Yaml.Scalar

open Text

/-! ## Dates and times of day -/

/-- The number that decimal digits stand for. -/
def number (digits : Text) : Nat :=
  Nat.ofDigitChars 10 digits 0

/-- Whether a year has a leap day. -/
def isLeapYear (year : Nat) : Bool :=
  year % 4 == 0 && (year % 100 != 0 || year % 400 == 0)

/-- The number of days of a month. -/
def daysOfMonth (year month : Nat) : Nat :=
  if month = 2 then (if isLeapYear year then 29 else 28)
  else if [4, 6, 9, 11].contains month then 30
  else 31

/-- Why a date does not exist. -/
def dateFault? (year month day : Nat) : Option TimeError :=
  if year = 0 then some (.year year)
  else if month = 0 ∨ 12 < month then some .month
  else if day = 0 ∨ daysOfMonth year month < day then some .day
  else none

/-- Why a time of day does not exist. -/
def timeFault? (hour minute second : Nat) : Option TimeError :=
  if 23 < hour then some .hour
  else if 59 < minute then some .minute
  else if 59 < second then some .second
  else none

/-- The seconds between a time zone and the universal time, if the zone is given by numbers. The
text stands behind the seconds of a time of day. -/
def zoneOffset? (t : Text) : Option Int :=
  match t.dropWhile fun c => c != '+' && c != '-' with
  | sign :: r =>
    let hours := number (r.takeWhile Char.isDigit)
    let minutes := number ((r.dropWhile Char.isDigit).drop 1)
    let seconds : Int := 3600 * hours + 60 * minutes
    some (if sign = '-' then -seconds else seconds)
  | [] => none

/-- Why a time zone does not exist: it must be less than a day away. -/
def zoneFault? (t : Text) : Option TimeError :=
  (zoneOffset? t).bind fun offset => if 86400 ≤ offset.natAbs then some (.zone offset) else none

/-- Why a point in time does not exist. A time zone is looked at first. -/
def timestampFault? (t : Text) : Option TimeError := do
  let (year, month, day, rest) ← dateParts? t
  let date := dateFault? (number year) (number month) (number day)
  match timePart? rest with
  | none => date
  | some time =>
    match time.splitOn ':' with
    | hour :: minute :: second :: more =>
      let afterSeconds := [':'].intercalate (second.drop 2 :: more)
      zoneFault? afterSeconds <|> date <|>
        timeFault? (number hour) (number minute) (number (second.take 2))
    | _ => date

/-! ## Numbers -/

/-- Why a text is no decimal number. -/
def decimalFault? (t : Text) : Option ReadError :=
  if t.all Char.isDigit && Numeral.maxDigits < t.length then some (.overlongNumeral t.length)
  else if (Numeral.read? t).isSome then none
  else some .noNumber

/-- Why a text is no whole number. It may have no digits behind the sign of its base, or too many
decimal ones. -/
def intFault? (t : Text) : Option ReadError :=
  match unsigned (t.filter (· != '_')) with
  | [] => some .emptyNumber
  | ['0', 'b'] => some (.noDigits 2)
  | ['0', 'x'] => some (.noDigits 16)
  | '0' :: r => if isUnsignedInt ('0' :: r) then none else some .noNumber
  | digits => (digits.splitOn ':').findSome? decimalFault?

/-- The greatest number of places that a number with a point to the base sixty may have. The value
of one more place, the 174th power of sixty, exceeds all numbers with a point. -/
def maxSixtyPlaces : Nat := 174

/-- Why a text is no number with a point. A whole number will do as well. -/
def floatFault? (t : Text) : Option ReadError :=
  let digits := t.filter (· != '_')
  if digits.isEmpty then some .emptyNumber
  else if !(isFloat t || isRun Char.isDigit (unsigned digits)) then some .noNumber
  else if maxSixtyPlaces < (t.splitOn ':').length then some .tooManyPlaces
  else none

/-! ## Scalars of any kind -/

/-- The names of the truth values, in letters of either size. -/
def isTruthName (t : Text) : Bool :=
  (["yes", "no", "true", "false", "on", "off"].map String.toList).contains (t.map Char.toLower)

/-- Why a scalar of the given kind has no value. -/
def fault? (k : Kind) (t : RawText) : Option ReadError :=
  match k with
  | .text | .null => none
  | .bool => if t.text?.any isTruthName then none else some .noTruthValue
  | .int => t.text?.elim (some .noNumber) intFault?
  | .float => t.text?.elim (some .noNumber) floatFault?
  | .timestamp =>
    match t.text?.filter isTimestamp with
    | some date => (timestampFault? date).map .time
    | none => some .noTimestamp
  | .merge | .default | .unknown => some .malformed

end Disassembly.Yaml.Scalar
