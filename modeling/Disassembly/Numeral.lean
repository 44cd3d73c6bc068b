import Disassembly.Text.Digit

/-!
# Integer numerals

The decimal notation of integers. Reading is generous: blank characters around the numeral, a sign,
single underscores between digits and the digits of every script are accepted. Printing gives the
one plain form.

A numeral has at most `maxDigits` digits; a longer one is neither read nor written.
-/

set_option autoImplicit false

namespace Disassembly.Numeral

open Text

/-- The greatest number of digits that a numeral may have. -/
def maxDigits : Nat := 4300

/-- The blank characters that may surround a numeral: all but the information separators. -/
def isMargin (c : Char) : Bool :=
  isBlank c && !(0x1C ≤ c.toNat && c.toNat ≤ 0x1F)

/-- The number that a run of digits stands for. -/
def ofDigits (digits : List Nat) : Nat :=
  digits.foldl (fun n d => 10 * n + d) 0

/-- The digits of a numeral without its sign: groups of digits with one underscore between two
neighbours. -/
def groupedDigits? (t : Text) : Option (List Nat) :=
  let groups := t.splitOn '_'
  if groups.any List.isEmpty then none else groups.flatten.mapM decimalValue?

/-- The value of a numeral without its sign. -/
def magnitude? (t : Text) : Option Nat := do
  let digits ← groupedDigits? t
  if digits.length ≤ maxDigits then some (ofDigits digits) else none

/-- The value of a numeral, signed or not. -/
def signed? : Text → Option Int
  | '-' :: r => (magnitude? r).map fun n => -(n : Int)
  | '+' :: r => (magnitude? r).map fun n => (n : Int)
  | t => (magnitude? t).map fun n => (n : Int)

/-- The integer that a text denotes, if it is a numeral. -/
def read? (t : Text) : Option Int :=
  signed? (dropWhileEnd isMargin (t.dropWhile isMargin))

/-- The decimal digits of a natural number. -/
def printNat (n : Nat) : Text :=
  Nat.toDigits 10 n

/-- The plain numeral of an integer. -/
def print : Int → Text
  | .ofNat n => printNat n
  | .negSucc n => '-' :: printNat (n + 1)

/-- Whether an integer has few enough digits to be written. -/
def isWritable (v : Int) : Bool :=
  (printNat v.natAbs).length ≤ maxDigits

/-- What is said of a numeral with too many digits. -/
def tooLongMessage (digits : Nat) : Text :=
  "Exceeds the limit (".toList ++ printNat maxDigits ++
    " digits) for integer string conversion: value has ".toList ++ printNat digits ++
    " digits; use sys.set_int_max_str_digits() to increase the limit".toList

end Disassembly.Numeral
