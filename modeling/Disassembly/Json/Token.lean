import Disassembly.Numeral
import Disassembly.Text.Hex
import Disassembly.Text.Raw

/-!
# JSON tokens

The words of a JSON text: brackets, separators and scalar values. The text is cut into tokens from
left to right; where no token starts, the last one says so, and the rest is not looked at.

Beside the values of the standard, `NaN` and the two infinities are accepted. A string may hold
every character but the controls, and by an escape also half of a surrogate pair, so its value is a
raw text.
-/

set_option autoImplicit false

namespace Disassembly.Json

open Text

/-- A word of a JSON text. -/
inductive Token where
  | openList
  | closeList
  | openRecord
  | closeRecord
  | colon
  | comma
  | null
  | bool (value : Bool)
  | int (value : Int)
  | real (written : Text)
  | text (value : RawText)
  /-- An integer with more digits than a numeral may have. -/
  | overlong (digits : Nat)
  /-- No word starts here. -/
  | unknown
  deriving DecidableEq

namespace Token

/-- The characters between words. -/
def isSpace (c : Char) : Bool :=
  c == ' ' || c == '\t' || c == '\n' || c == '\r'

/-- The words that are spelled out. -/
def fixedWords : List (Text × Token) :=
  [("[".toList, .openList), ("]".toList, .closeList), ([Char.ofNat 0x7B], .openRecord),
   ([Char.ofNat 0x7D], .closeRecord), (":".toList, .colon), (",".toList, .comma),
   ("null".toList, .null), ("true".toList, .bool true), ("false".toList, .bool false),
   ("NaN".toList, .real "NaN".toList), ("Infinity".toList, .real "Infinity".toList),
   ("-Infinity".toList, .real "-Infinity".toList)]

/-! ## Strings -/

/-- Four hexadecimal digits at the start of a text. -/
def codeUnit? : Text → Option Nat
  | a :: b :: c :: d :: _ => readHex? [a, b, c, d]
  | _ => none

/-- The character that follows a backslash, by itself. -/
def simpleEscape? : Char → Option Char
  | '"' => some '"'
  | '\\' => some '\\'
  | '/' => some '/'
  | 'b' => some (Char.ofNat 0x8)
  | 'f' => some (Char.ofNat 0xC)
  | 'n' => some '\n'
  | 'r' => some '\r'
  | 't' => some '\t'
  | _ => none

/-- Whether a code unit is the first half of a surrogate pair. -/
def isHighHalf (n : Nat) : Bool :=
  0xD800 ≤ n && n ≤ 0xDBFF

/-- Whether a code unit is the second half of a surrogate pair. -/
def isLowHalf (n : Nat) : Bool :=
  0xDC00 ≤ n && n ≤ 0xDFFF

/-- The character of a surrogate pair. -/
def pairChar (high low : Nat) : Char :=
  Char.ofNat (0x10000 + (high - 0xD800) * 0x400 + (low - 0xDC00))

/-- The second half of a surrogate pair, written as an escape at the start of a text. -/
def lowHalf? : Text → Option Nat
  | '\\' :: 'u' :: r => (codeUnit? r).filter isLowHalf
  | _ => none

/-- The value of a string behind its opening mark, and the text behind its closing one. The first
`covered` characters belong to an escape that has been read. -/
def stringRest : (covered : Nat) → Text → Option (RawText × Text)
  | _, [] => none
  | k + 1, _ :: r => stringRest k r
  | 0, '"' :: r => some ([], r)
  | 0, '\\' :: r =>
    match r with
    | 'u' :: s =>
      match codeUnit? s with
      | none => none
      | some n =>
        match if isHighHalf n then lowHalf? (s.drop 4) else none with
        | some low => (stringRest 11 r).map fun p => (.char (pairChar n low) :: p.1, p.2)
        | none => (stringRest 5 r).map fun p => (.ofNat n :: p.1, p.2)
    | c :: _ =>
      (simpleEscape? c).bind fun e => (stringRest 1 r).map fun p => (.char e :: p.1, p.2)
    | [] => none
  | 0, c :: r =>
    if c.toNat < 0x20 then none else (stringRest 0 r).map fun p => (.char c :: p.1, p.2)

/-! ## Numbers -/

/-- The digits of a whole number at the start of a text: a zero, or digits of which the first is
not zero. -/
def wholePart : Text → Text
  | '0' :: _ => ['0']
  | t => t.takeWhile Char.isDigit

/-- A point with digits behind it, at the start of a text. -/
def fractionPart : Text → Text
  | '.' :: r =>
    let digits := r.takeWhile Char.isDigit
    if digits.isEmpty then [] else '.' :: digits
  | _ => []

/-- The sign of an exponent, at the start of a text. -/
def signPart : Text → Text
  | '+' :: _ => ['+']
  | '-' :: _ => ['-']
  | _ => []

/-- An exponent at the start of a text. -/
def exponentPart : Text → Text
  | c :: r =>
    let sign := signPart r
    let digits := (r.drop sign.length).takeWhile Char.isDigit
    if (c = 'e' ∨ c = 'E') ∧ !digits.isEmpty then c :: sign ++ digits else []
  | [] => []

/-- A number at the start of a text, and the rest. -/
def number? (t : Text) : Option (Token × Text) :=
  let sign := if t.head? = some '-' then ['-'] else []
  let whole := wholePart (t.drop sign.length)
  let afterWhole := t.drop (sign.length + whole.length)
  let fraction := fractionPart afterWhole
  let exponent := exponentPart (afterWhole.drop fraction.length)
  let rest := afterWhole.drop (fraction.length + exponent.length)
  if whole.isEmpty then none
  else if !fraction.isEmpty || !exponent.isEmpty then
    some (.real (sign ++ whole ++ fraction ++ exponent), rest)
  else if Numeral.maxDigits < whole.length then some (.overlong whole.length, rest)
  else
    let n : Int := (Nat.ofDigitChars 10 whole 0 : Nat)
    some (.int (if sign.isEmpty then n else -n), rest)

/-! ## The tokens of a text -/

/-- The word at the start of a text, and the rest. -/
def first (t : Text) : Token × Text :=
  match fixedWords.find? fun word => word.1.isPrefixOf t with
  | some (word, token) => (token, t.drop word.length)
  | none =>
    match t with
    | '"' :: r => ((stringRest 0 r).map fun p => (.text p.1, p.2)).getD (.unknown, [])
    | _ => (number? t).getD (.unknown, [])

/-- The words of a text, at most the given number of them. -/
def ofTextWithin : (count : Nat) → Text → List Token
  | 0, _ => []
  | n + 1, t =>
    let u := t.dropWhile isSpace
    if u.isEmpty then [] else (first u).1 :: ofTextWithin n (first u).2

/-- The words of a text. A word has at least one character, so there are no more words than
characters. -/
def ofText (t : Text) : List Token :=
  ofTextWithin t.length t

end Token

end Disassembly.Json
