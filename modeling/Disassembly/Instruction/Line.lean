import Disassembly.Instruction.Basic

/-!
# Lines of a listing

Reading one line of a disassembly listing. A line that shows an instruction has the shape

`offset: mnemonic operands // comment`

where operands and comment may be missing. `LineParts.ofLine?` cuts a line into these parts, each of
them the longest run of the characters that it may hold, and `Instruction.ofLine` reads the parts.
There are three outcomes: an instruction, a reason to skip the line, and an offset with more digits
than a numeral may have, which no rule of skipping covers.
-/

set_option autoImplicit false

namespace Disassembly

open Text

/-- Why a line of a listing is no instruction. -/
inductive SkipReason where
  /-- The line does not start like an instruction. -/
  | unparseable
  /-- The word after the offset is no mnemonic. -/
  | unknownMnemonic
  /-- There is nothing between two commas, or beside one, in the operands. -/
  | emptyOperand
  deriving DecidableEq

/-- The name of the reason in reports. -/
def SkipReason.print : SkipReason → Text
  | .unparseable => "unparseable".toList
  | .unknownMnemonic => "unknown-mnemonic".toList
  | .emptyOperand => "empty-parameter".toList

/-- A character of a mnemonic. -/
def isMnemonicChar (c : Char) : Bool :=
  c.isDigit || c.isLower || c == '_'

/-- A character of the operands, the commas between them included. -/
def isOperandChar (c : Char) : Bool :=
  c.isDigit || c.isLower || c == '#' || c == ',' || c == '-' || c == ' '

/-- The parts of a line that starts like an instruction. -/
structure LineParts where
  offset : Text
  mnemonic : Text
  operands : Text
  comment : Option Text
  deriving DecidableEq

namespace LineParts

/-- The text without its first character, if that is blank. -/
def skipBlank : Text → Text
  | [] => []
  | c :: r => if isBlank c then r else c :: r

/-- The comment at the start of a text: what stands between two slashes and the end of the line. -/
def commentAt? : Text → Option Text
  | '/' :: '/' :: r => some (r.takeWhile (· != '\n'))
  | _ => none

/-- The parts that follow the offset and the character behind it. -/
def afterOffset? (offset : Text) (t : Text) : Option LineParts :=
  let mnemonic := t.takeWhile isMnemonicChar
  let rest := skipBlank (t.dropWhile isMnemonicChar)
  if mnemonic.isEmpty then none
  else some ⟨offset, mnemonic, rest.takeWhile isOperandChar,
    commentAt? (skipBlank (rest.dropWhile isOperandChar))⟩

/-- The parts of a line: digits, a colon, a blank character, a mnemonic, the operands and the
comment. Blank characters before the digits do not count. -/
def ofLine? (line : Text) : Option LineParts :=
  let t := trimLeft line
  let offset := t.takeWhile Char.isDigit
  match t.dropWhile Char.isDigit with
  | ':' :: c :: r => if offset.isEmpty || !isBlank c then none else afterOffset? offset r
  | _ => none

/-- The operands of the line, unless there is nothing between two commas or beside one. -/
def operands? (parts : LineParts) : Option (List Operand) :=
  let t := trim parts.operands
  if t.isEmpty then some []
  else
    let tokens := (t.splitOn ',').map trim
    if tokens.any List.isEmpty then none else some (tokens.map Operand.ofToken)

/-- The comment of the line without the blank characters around it, if it says anything. -/
def comment? (parts : LineParts) : Option Text :=
  parts.comment.bind fun c => if (trim c).isEmpty then none else some (trim c)

end LineParts

/-- What reading a line of a listing yields. -/
inductive LineReading where
  | decoded (i : Instruction)
  | skipped (reason : SkipReason)
  /-- The offset has more digits than a numeral may have. -/
  | overlongOffset (digits : Nat)
  deriving DecidableEq

/-- The number that the digits of an offset stand for. -/
def offsetValue (digits : Text) : Int :=
  (Nat.ofDigitChars 10 digits 0 : Nat)

/-- Reading one line of a listing. -/
def Instruction.ofLine (line : Text) : LineReading :=
  match LineParts.ofLine? line with
  | none => .skipped .unparseable
  | some parts =>
    match Opcode.ofMnemonic? parts.mnemonic with
    | none => .skipped .unknownMnemonic
    | some opcode =>
      match parts.operands? with
      | none => .skipped .emptyOperand
      | some operands =>
        if parts.offset.length ≤ Numeral.maxDigits then
          .decoded ⟨offsetValue parts.offset, opcode, operands, parts.comment?⟩
        else .overlongOffset parts.offset.length

end Disassembly
