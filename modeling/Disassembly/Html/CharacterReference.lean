import Disassembly.Html.Entity
import Disassembly.Numeral
import Disassembly.Text.Hex

/-!
# Character references

A hypertext document may write a character as a reference: by its number, `&#60;` or `&#x3C;`, or by
a name, `&lt;`. `unescape` puts the characters in place of the references.

- The numbers of the upper control block are read as the characters that old encodings had there.
- A number that is no character gives the replacement character, and one that must not occur in a
  document gives nothing.
- A name without a semicolon counts if it is one of the unterminated names, and so does the longest
  such name at the start of a longer one.
- A decimal number must not have more digits than a numeral may have; the text around a longer one
  cannot be read at all.
-/

set_option autoImplicit false

namespace Disassembly.Html

open Text

/-- The replacement character. -/
def replacement : Char := Char.ofNat 0xFFFD

/-- The characters that old encodings had in place of the upper control block, by their code
points. -/
def oldBlock : List Nat :=
  [0x20AC, 0x81, 0x201A, 0x192, 0x201E, 0x2026, 0x2020, 0x2021, 0x2C6, 0x2030, 0x160, 0x2039, 0x152,
   0x8D, 0x17D, 0x8F, 0x90, 0x2018, 0x2019, 0x201C, 0x201D, 0x2022, 0x2013, 0x2014, 0x2DC, 0x2122,
   0x161, 0x203A, 0x153, 0x9D, 0x17E, 0x178]

/-- Whether a code point must not occur in a document. -/
def isForbidden (n : Nat) : Bool :=
  (0x1 ≤ n && n ≤ 0x8) || n == 0xB || (0xE ≤ n && n ≤ 0x1F) || n == 0x7F ||
    (0xFDD0 ≤ n && n ≤ 0xFDEF) || n % 0x10000 ≥ 0xFFFE

/-- What a reference to a number stands for. -/
def ofNumber (n : Nat) : Text :=
  if n = 0 then [replacement]
  else if 0x80 ≤ n ∧ n ≤ 0x9F then [Char.ofNat (oldBlock.getD (n - 0x80) n)]
  else if (0xD800 ≤ n ∧ n ≤ 0xDFFF) ∨ 0x10FFFF < n then [replacement]
  else if isForbidden n then []
  else [Char.ofNat n]

/-- A character that the name of a reference may hold. -/
def isReferenceChar (c : Char) : Bool :=
  !(['\t', '\n', Char.ofNat 0xC, ' ', '<', '&', '#', ';'].contains c)

/-- The greatest number of characters of a name. -/
def maxNameLength : Nat := 32

/-- The longest start of a name, of at most the given length, that counts without a semicolon, with
what it stands for and the number of its characters. -/
def longestStart? (name : Text) : (length : Nat) → Option (Text × Nat)
  | 0 => none
  | n + 1 =>
    match unterminatedEntity? (name.take (n + 1)) with
    | some t => some (t, n + 1)
    | none => longestStart? name n

/-- What a reference by name stands for. -/
def ofName (name : Text) (terminated : Bool) : Text :=
  let closing := if terminated then [';'] else []
  match if terminated then entity? name else none with
  | some t => t
  | none =>
    match longestStart? name name.length with
    | some (t, n) => t ++ name.drop n ++ closing
    | none => '&' :: name ++ closing

/-- The reference to a number with the given digits behind `skipped` characters. -/
def numberMatch (skipped : Nat) (digits rest : Text) (n : Nat) : Match :=
  ⟨skipped + digits.length + (if rest.head? = some ';' then 1 else 0), ofNumber n⟩

/-- A reference to a number, behind `&#`. -/
def numberReference (t : Text) : Option Match :=
  let decimal := t.takeWhile Char.isDigit
  if !decimal.isEmpty then
    some (numberMatch 1 decimal (t.dropWhile Char.isDigit) (Nat.ofDigitChars 10 decimal 0))
  else
    match t with
    | c :: r =>
      if c = 'x' ∨ c = 'X' then
        let digits := r.takeWhile fun d => (hexValue? d).isSome
        if digits.isEmpty then none
        else (readHex? digits).map (numberMatch 2 digits (r.drop digits.length))
      else none
    | [] => none

/-- A character reference. -/
def characterReference : Pattern := fun _ t =>
  match t with
  | '&' :: '#' :: r => numberReference r
  | '&' :: r =>
    let name := (r.takeWhile isReferenceChar).take maxNameLength
    let terminated := (r.drop name.length).head? = some ';'
    if name.isEmpty then none
    else some ⟨name.length + (if terminated then 1 else 0), ofName name terminated⟩
  | _ => none

/-! ## References with too many digits -/

/-- A reference to a decimal number has more digits than a numeral may have. -/
structure OverlongReference where
  digits : Nat
  deriving DecidableEq

/-- What is said of a reference with too many digits. -/
def OverlongReference.message (e : OverlongReference) : Text :=
  Numeral.tooLongMessage e.digits

/-- The digits of the reference to a decimal number at the start of a text; none if there is no such
reference. -/
def decimalDigits : Text → Text
  | '&' :: '#' :: r => r.takeWhile Char.isDigit
  | _ => []

/-- The first reference with too many digits. No reference starts inside another one, for none holds
an ampersand behind its start, so every place of the text is looked at. -/
def overlongReference? : Text → Option OverlongReference
  | [] => none
  | c :: r =>
    let digits := (decimalDigits (c :: r)).length
    if Numeral.maxDigits < digits then some ⟨digits⟩ else overlongReference? r

/-! ## Texts -/

/-- The text with characters in place of the references, if none of them is too long. -/
def unescape (t : Text) : Except OverlongReference Text :=
  match overlongReference? t with
  | some e => .error e
  | none => .ok (substitute characterReference t)

end Disassembly.Html
