import Disassembly.Datum.Basic
import Disassembly.Numeral
import Disassembly.Text.Hex

/-!
# Writing JSON

Structured values as JSON texts of plain ASCII characters. Every other character is written by the
code units of its UTF-16 form, so a character beyond the basic plane takes two escapes.

- `Json.pretty` puts each item of a list and each field of a record on a line of its own, two
  columns further in than what surrounds it.
- `Json.inline` keeps all on one line.
-/

set_option autoImplicit false

namespace Disassembly.Json

open Text

/-- The escape of a code unit. -/
def unitEscape (n : Nat) : Text :=
  '\\' :: 'u' :: hexDigits .lower 4 n

/-- A character inside a string. -/
def writeChar (c : Char) : Text :=
  if c = '"' ∨ c = '\\' then ['\\', c]
  else if c = '\n' then ['\\', 'n']
  else if c = '\r' then ['\\', 'r']
  else if c = '\t' then ['\\', 't']
  else if c = Char.ofNat 0xC then ['\\', 'f']
  else if c = Char.ofNat 0x8 then ['\\', 'b']
  else if ' ' ≤ c ∧ c ≤ '~' then [c]
  else if c.toNat < 0x10000 then unitEscape c.toNat
  else
    let n := c.toNat - 0x10000
    unitEscape (0xD800 + n / 0x400) ++ unitEscape (0xDC00 + n % 0x400)

/-- A text as a string. -/
def writeString (t : Text) : Text :=
  '"' :: t.flatMap writeChar ++ ['"']

/-- The names of the truth values. -/
def writeBool (b : Bool) : Text :=
  (if b then "true" else "false").toList

/-- The start of a new line at the given depth. -/
def newline (depth : Nat) : Text :=
  '\n' :: List.replicate (2 * depth) ' '

/-- The comma behind an item, unless it is the last one. -/
def comma {α : Type} (rest : List α) : Text :=
  if rest.isEmpty then [] else [',']

mutual

/-- A value at the given depth, each item of it on a line of its own. -/
def pretty (depth : Nat) : Datum Text → Text
  | .null => "null".toList
  | .bool b => writeBool b
  | .int n => Numeral.print n
  | .real written => written
  | .text t => writeString t
  | .list [] => ['[', ']']
  | .list (d :: rest) => '[' :: prettyItems (depth + 1) (d :: rest) ++ newline depth ++ [']']
  | .record [] => [Char.ofNat 0x7B, Char.ofNat 0x7D]
  | .record (field :: rest) =>
    Char.ofNat 0x7B :: prettyFields (depth + 1) (field :: rest) ++ newline depth ++ [Char.ofNat 0x7D]

/-- The items of a list at the given depth. -/
def prettyItems (depth : Nat) : List (Datum Text) → Text
  | [] => []
  | d :: rest => newline depth ++ pretty depth d ++ comma rest ++ prettyItems depth rest

/-- The fields of a record at the given depth. -/
def prettyFields (depth : Nat) : List (Text × Datum Text) → Text
  | [] => []
  | (name, d) :: rest =>
    newline depth ++ writeString name ++ [':', ' '] ++ pretty depth d ++ comma rest ++
      prettyFields depth rest

end

/-- The comma and the space behind an item, unless it is the last one. -/
def commaSpace {α : Type} (rest : List α) : Text :=
  if rest.isEmpty then [] else [',', ' ']

mutual

/-- A value on one line. -/
def inline : Datum Text → Text
  | .null => "null".toList
  | .bool b => writeBool b
  | .int n => Numeral.print n
  | .real written => written
  | .text t => writeString t
  | .list items => '[' :: inlineItems items ++ [']']
  | .record fields => Char.ofNat 0x7B :: inlineFields fields ++ [Char.ofNat 0x7D]

/-- The items of a list on one line. -/
def inlineItems : List (Datum Text) → Text
  | [] => []
  | d :: rest => inline d ++ commaSpace rest ++ inlineItems rest

/-- The fields of a record on one line. -/
def inlineFields : List (Text × Datum Text) → Text
  | [] => []
  | (name, d) :: rest =>
    writeString name ++ [':', ' '] ++ inline d ++ commaSpace rest ++ inlineFields rest

end

end Disassembly.Json
