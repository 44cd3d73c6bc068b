import Disassembly.Text.Basic

/-!
# Plain scalars

A YAML scalar that is written without quotation marks means what its text looks like: null, a truth
value, a number, a point in time, one of two special marks, or else a text. `Scalar.kind` decides
which, by the rules of YAML 1.1.
-/

set_option autoImplicit false

namespace Disassembly.Yaml

open Text

/-- What a plain scalar means. -/
inductive Kind where
  | text
  | null
  | bool
  | int
  | float
  | timestamp
  /-- The mark `<<`, under which a mapping takes in other mappings. -/
  | merge
  /-- The mark `=` of a default value, which stands for no value of its own. -/
  | default
  /-- A scalar with a tag that is not known. -/
  | unknown
  deriving DecidableEq

namespace Scalar

/-- The spellings of null. -/
def nullWords : List Text :=
  ["", "~", "null", "Null", "NULL"].map String.toList

/-- The spellings of the truth values. -/
def boolWords : List Text :=
  ["yes", "Yes", "YES", "no", "No", "NO", "true", "True", "TRUE", "false", "False", "FALSE",
   "on", "On", "ON", "off", "Off", "OFF"].map String.toList

/-- The spellings of infinity, without a sign. -/
def infinityWords : List Text :=
  [".inf", ".Inf", ".INF"].map String.toList

/-- The spellings of what is no number. -/
def nanWords : List Text :=
  [".nan", ".NaN", ".NAN"].map String.toList

/-- The text without a sign at its start. -/
def unsigned : Text → Text
  | '+' :: r => r
  | '-' :: r => r
  | t => t

/-- A decimal digit or an underscore, as numbers may hold between their digits. -/
def isSpacedDigit (c : Char) : Bool :=
  c.isDigit || c == '_'

/-- A digit of the given base, at most ten, or an underscore. -/
def isDigitBelow (base : Nat) (c : Char) : Bool :=
  (c.isDigit && c.toNat < '0'.toNat + base) || c == '_'

/-- A hexadecimal digit or an underscore. -/
def isHexDigit (c : Char) : Bool :=
  isSpacedDigit c || ('a' ≤ c && c ≤ 'f') || ('A' ≤ c && c ≤ 'F')

/-- Whether a text is not empty and holds only characters of one sort. -/
def isRun (p : Char → Bool) (t : Text) : Bool :=
  !t.isEmpty && t.all p

/-- A digit from one on, followed by digits and underscores. -/
def isCount : Text → Bool
  | c :: r => c.isDigit && c != '0' && r.all isSpacedDigit
  | [] => false

/-- A part of a number to the base sixty, behind a colon: one digit, or two below sixty. -/
def isSixtieth : Text → Bool
  | [c] => c.isDigit
  | [c, d] => isDigitBelow 6 c && c != '_' && d.isDigit
  | _ => false

/-- A number to the base sixty whose first part is as described. -/
def isSexagesimal (first : Text → Bool) (t : Text) : Bool :=
  match t.splitOn ':' with
  | leading :: part :: parts => first leading && (part :: parts).all isSixtieth
  | _ => false

/-- A whole number without its sign. -/
def isUnsignedInt : Text → Bool
  | ['0'] => true
  | '0' :: 'b' :: r => isRun (isDigitBelow 2) r
  | '0' :: 'x' :: r => isRun isHexDigit r
  | '0' :: r => isRun (isDigitBelow 8) r
  | t => isCount t || isSexagesimal isCount t

/-- The exponent of a decimal number, which may be missing; its sign may not. -/
def isExponent : Text → Bool
  | [] => true
  | e :: s :: r => (e == 'e' || e == 'E') && (s == '+' || s == '-') && isRun Char.isDigit r
  | _ => false

/-- A digit followed by digits and underscores. -/
def isSpacedNumber : Text → Bool
  | c :: r => c.isDigit && r.all isSpacedDigit
  | [] => false

/-- What may stand behind the point of a decimal number. -/
def isFraction (t : Text) : Bool :=
  isExponent (t.dropWhile isSpacedDigit)

/-- A number with a point, sign included. -/
def isFloat (t : Text) : Bool :=
  let u := unsigned t
  nanWords.contains t || infinityWords.contains u ||
    (match t with
      | '.' :: c :: r => c.isDigit && isFraction r
      | _ => false) ||
    (match u.dropWhile (· != '.') with
      | '.' :: r =>
        let whole := u.takeWhile (· != '.')
        (isSpacedNumber whole && isFraction r) ||
          (isSexagesimal isSpacedNumber whole && r.all isSpacedDigit)
      | _ => false)

/-- One digit, or two. -/
def isShortNumber (t : Text) : Bool :=
  isRun Char.isDigit t && t.length ≤ 2

/-- A number of exactly two digits. -/
def isTwoDigits (t : Text) : Bool :=
  isRun Char.isDigit t && t.length == 2

/-- The offset of a time zone, which may be missing. -/
def isZone (t : Text) : Bool :=
  match t.dropWhile (fun c => c == ' ' || c == '\t') with
  | [] => t.isEmpty
  | ['Z'] => true
  | s :: r =>
    (s == '+' || s == '-') &&
      match r.splitOn ':' with
      | [hour] => isShortNumber hour
      | [hour, minute] => isShortNumber hour && isTwoDigits minute
      | _ => false

/-- What may stand behind the seconds: a fraction and a time zone. -/
def isAfterSeconds : Text → Bool
  | '.' :: r => isZone (r.dropWhile Char.isDigit)
  | t => isZone t

/-- A time of day with a fraction and a zone. -/
def isTime (t : Text) : Bool :=
  match t.splitOn ':' with
  | hour :: minute :: second :: rest =>
    let tail := [':'].intercalate (second :: rest)
    isShortNumber hour && isTwoDigits minute && isTwoDigits (tail.take 2) &&
      isAfterSeconds (tail.drop 2)
  | _ => false

/-- The parts of a date, and what follows it: a year of four digits, a month and a day. -/
def dateParts? (t : Text) : Option (Text × Text × Text × Text) :=
  let year := t.take 4
  match t.drop 4 with
  | '-' :: r =>
    let month := r.takeWhile Char.isDigit
    match r.dropWhile Char.isDigit with
    | '-' :: s =>
      let day := s.takeWhile Char.isDigit
      if isRun Char.isDigit year && year.length == 4 && isShortNumber month && isShortNumber day then
        some (year, month, day, s.dropWhile Char.isDigit)
      else none
    | _ => none
  | _ => none

/-- What stands between a date and a time of day, if it is as it should be: the letter T, or
spaces and tabs. -/
def timePart? : Text → Option Text
  | 'T' :: r => some r
  | 't' :: r => some r
  | ' ' :: r => some (r.dropWhile fun c => c == ' ' || c == '\t')
  | '\t' :: r => some (r.dropWhile fun c => c == ' ' || c == '\t')
  | _ => none

/-- A date, or a date with a time of day. -/
def isTimestamp (t : Text) : Bool :=
  match dateParts? t with
  | none => false
  | some (_, month, day, []) => month.length == 2 && day.length == 2
  | some (_, _, _, rest) => (timePart? rest).any isTime

/-- What a plain scalar means. -/
def kind (t : Text) : Kind :=
  if nullWords.contains t then .null
  else if boolWords.contains t then .bool
  else if isFloat t then .float
  else if isUnsignedInt (unsigned t) then .int
  else if t = ['<', '<'] then .merge
  else if isTimestamp t then .timestamp
  else if t = ['='] then .default
  else .text

end Scalar

end Disassembly.Yaml
