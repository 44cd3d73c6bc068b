import Disassembly.Datum.Basic
import Disassembly.Numeral
import Disassembly.Text.Hex
import Disassembly.Yaml.Character
import Disassembly.Yaml.Scalar

/-!
# Writing YAML

Structured values in the block style of YAML: a field or an item a line, what belongs to it two
columns further in. The items of a list stand right below the name of its field.

A text is written plainly where it reads back as that text; else between single quotation marks,
which suit every printable ASCII text; else between double ones, with escapes for all other
characters. A text that runs beyond column `lineWidth` is continued on the next line.
-/

set_option autoImplicit false

namespace Disassembly.Yaml

open Text

/-- The column beyond which a line is not meant to run. -/
def lineWidth : Nat := 80

/-- The start of a new line with the given indentation. -/
def newline (indent : Nat) : Text :=
  '\n' :: List.replicate indent ' '

/-! ## The style of a text -/

/-- A character that may stand outside double quotation marks. -/
def isUnescaped (c : Char) : Bool :=
  c == '\n' || (' ' ≤ c && c ≤ '~')

/-- Whether the first character of a text marks something else than a text. -/
def startsIndicator : Text → Bool
  | [] => false
  | c :: r =>
    indicators.contains c ||
      ((c == '?' || c == ':' || c == '-') && endsWord r)

/-- Whether a mark occurs in the rest of a text: a colon at the end of a word, or a number sign at
the start of one. -/
def holdsIndicator : (before : Char) → Text → Bool
  | _, [] => false
  | before, c :: r =>
    (c == ':' && endsWord r) || (c == '#' && isSeparator before) || holdsIndicator c r

/-- Whether a text starts like the line that opens or closes a document. -/
def startsLikeDocumentMark (t : Text) : Bool :=
  "---".toList.isPrefixOf t || "...".toList.isPrefixOf t

/-- Whether a text can be written plainly. -/
def allowsPlain (t : Text) : Bool :=
  match t with
  | [] => false
  | c :: r =>
    !startsLikeDocumentMark t && !startsIndicator t && !holdsIndicator c r &&
      c != ' ' && t.getLast? != some ' ' &&
      t.all (fun d => isUnescaped d && d != '\n') && Scalar.kind t == .text

/-- Whether a space stands beside a line feed. -/
def spaceBesideBreak : Text → Bool
  | ' ' :: '\n' :: _ => true
  | '\n' :: ' ' :: _ => true
  | _ :: r => spaceBesideBreak r
  | [] => false

/-- Whether a text can be written between single quotation marks. -/
def allowsSingleQuoted (t : Text) : Bool :=
  t.all isUnescaped && !spaceBesideBreak t

/-! ## The writing of a text -/

/-- The rest of a text between single quotation marks, or of a plain one. A quotation mark is
written twice, and a run of line feeds has one more than it stands for. A single space beyond the
line width is the place where the text is continued on the next line. -/
def foldWords (indent : Nat) : (before : Option Char) → (column : Nat) → Text → Text
  | _, _, [] => []
  | before, column, c :: r =>
    if c = '\n' then
      (if before = some '\n' then [] else ['\n']) ++
        (if r.head? = some '\n' then ['\n'] else newline indent) ++
        foldWords indent (some c) indent r
    else if c = ' ' ∧ lineWidth < column ∧ before.any (· != ' ') ∧ r.head?.any (· != ' ') then
      newline indent ++ foldWords indent (some c) indent r
    else if c = '\'' then c :: c :: foldWords indent (some c) (column + 2) r
    else c :: foldWords indent (some c) (column + 1) r

/-- A plain text that starts in the given column. Its words hold no quotation marks to double, for
one of those would be written as it stands. -/
def foldPlain (indent : Nat) : (before : Option Char) → (column : Nat) → Text → Text
  | _, _, [] => []
  | before, column, c :: r =>
    if c = ' ' ∧ lineWidth < column ∧ before.any (· != ' ') ∧ r.head?.any (· != ' ') then
      newline indent ++ foldPlain indent (some c) indent r
    else c :: foldPlain indent (some c) (column + 1) r

/-- The escape of a character between double quotation marks; none if it stands for itself. -/
def escape? (c : Char) : Option Text :=
  if c = '"' ∨ c = '\\' then some ['\\', c]
  else if ' ' ≤ c ∧ c ≤ '~' then none
  else
    match c.toNat with
    | 0x0 => some ['\\', '0']
    | 0x7 => some ['\\', 'a']
    | 0x8 => some ['\\', 'b']
    | 0x9 => some ['\\', 't']
    | 0xA => some ['\\', 'n']
    | 0xB => some ['\\', 'v']
    | 0xC => some ['\\', 'f']
    | 0xD => some ['\\', 'r']
    | 0x1B => some ['\\', 'e']
    | 0x85 => some ['\\', 'N']
    | 0xA0 => some ['\\', '_']
    | 0x2028 => some ['\\', 'L']
    | 0x2029 => some ['\\', 'P']
    | n =>
      some (if n ≤ 0xFF then '\\' :: 'x' :: hexDigits .upper 2 n
        else if n ≤ 0xFFFF then '\\' :: 'u' :: hexDigits .upper 4 n
        else '\\' :: 'U' :: hexDigits .upper 8 n)

/-- The line break inside double quotation marks, behind which `rest` follows: a space at the start
of the new line is escaped, since it would not count otherwise. -/
def quotedBreak (indent : Nat) (rest : Text) : Text :=
  '\\' :: newline indent ++ (if rest.head? = some ' ' then ['\\'] else [])

/-- The column behind such a line break. -/
def columnAfterBreak (indent : Nat) (rest : Text) : Nat :=
  if rest.head? = some ' ' then indent + 1 else indent

/-- The rest of a text between double quotation marks. `column` is where the characters since the
last escape or line break began, and `run` is their number. The text is continued on the next line
behind an escape beyond the line width, and before a space, or a character behind an escape, beyond
it; never before the second character or the last one. -/
def foldQuoted (indent : Nat) : (first : Bool) → (column run : Nat) → Text → Text
  | _, _, _, [] => []
  | first, column, run, c :: r =>
    match escape? c with
    | some e =>
      let column' := column + run + e.length
      if !first && !r.isEmpty && lineWidth + 1 < column' then
        e ++ quotedBreak indent r ++ foldQuoted indent false (columnAfterBreak indent r) 0 r
      else e ++ foldQuoted indent false column' 0 r
    | none =>
      if !first && !r.isEmpty && (c == ' ' || run == 0) && lineWidth < column + run then
        quotedBreak indent (c :: r) ++
          c :: foldQuoted indent false (columnAfterBreak indent (c :: r)) 1 r
      else c :: foldQuoted indent false column (run + 1) r

/-- A text that starts in the given column; lines that continue it have the given indentation. -/
def writeText (indent column : Nat) (t : Text) : Text :=
  if allowsPlain t then foldPlain indent none column t
  else if allowsSingleQuoted t then '\'' :: foldWords indent none (column + 1) t ++ ['\'']
  else '"' :: foldQuoted indent true (column + 1) 0 t ++ ['"']

/-! ## The writing of a value -/

mutual

/-- A value behind the name of its field, which ends in the given column. -/
def writeField (indent column : Nat) : Datum Text → Text
  | .null => " null".toList
  | .bool b => (if b then " true" else " false").toList
  | .int n => ' ' :: Numeral.print n
  | .real written => ' ' :: written
  | .text t => ' ' :: writeText (indent + 2) (column + 1) t
  | .list [] => " []".toList
  | .list (d :: rest) => newline indent ++ writeItems indent (d :: rest)
  | .record [] => [' ', openBrace, closeBrace]
  | .record (field :: rest) => newline (indent + 2) ++ writeFields (indent + 2) (field :: rest)

/-- A value as an item of a list, behind the dash. -/
def writeItem (indent : Nat) : Datum Text → Text
  | .null => "null".toList
  | .bool b => (if b then "true" else "false").toList
  | .int n => Numeral.print n
  | .real written => written
  | .text t => writeText (indent + 2) (indent + 2) t
  | .list [] => "[]".toList
  | .list (d :: rest) => writeItems (indent + 2) (d :: rest)
  | .record [] => [openBrace, closeBrace]
  | .record (field :: rest) => writeFields (indent + 2) (field :: rest)

/-- The items of a list, each behind a dash in the given column. -/
def writeItems (indent : Nat) : List (Datum Text) → Text
  | [] => []
  | d :: rest =>
    '-' :: ' ' :: writeItem indent d ++ (if rest.isEmpty then [] else newline indent) ++
      writeItems indent rest

/-- The fields of a record, whose names start in the given column. -/
def writeFields (indent : Nat) : List (Text × Datum Text) → Text
  | [] => []
  | (name, d) :: rest =>
    name ++ ':' :: writeField indent (indent + name.length + 1) d ++
      (if rest.isEmpty then [] else newline indent) ++ writeFields indent rest

end

/-- A document that holds the fields of a record, whose names are plain words. -/
def writeDocument (fields : List (Text × Datum Text)) : Text :=
  writeFields 0 fields ++ ['\n']

end Disassembly.Yaml
