import Disassembly.Opcode

/-!
# Instructions

An instruction of a method body, as one line of a disassembly listing shows it: where it stands, its
opcode, its operands and the comment behind them.

- `Operand.ofToken` decides what an operand token means; `Operand.print` writes it back.
- `Instruction.print` writes the line of an instruction.
-/

set_option autoImplicit false

namespace Disassembly

/-- An operand of an instruction. -/
inductive Operand where
  /-- A reference into the constant pool, such as `#12`, kept as it is written. -/
  | constant (reference : Text)
  /-- An integer, such as the number of a local variable. -/
  | numeric (value : Int)
  /-- Anything else: the name of an array type, a label, the target of a branch. -/
  | symbol (name : Text)
  deriving DecidableEq

namespace Operand

/-- The operand that a token stands for. What starts with the mark of the constant pool is a
reference, even where digits follow; a numeral is an integer; anything else is a symbol. -/
def ofToken (t : Text) : Operand :=
  if t.head? = some '#' then .constant t
  else
    match Numeral.read? t with
    | some n => .numeric n
    | none => .symbol t

/-- The operand as a listing shows it. -/
def print : Operand → Text
  | .constant reference => reference
  | .numeric value => Numeral.print value
  | .symbol name => name

/-- Whether the operand can be written: an integer must have few enough digits. -/
def isWritable : Operand → Bool
  | .constant _ => true
  | .numeric value => Numeral.isWritable value
  | .symbol _ => true

end Operand

/-- One instruction. Its offset is unique within its method body. -/
structure Instruction where
  offset : Int
  opcode : Opcode
  operands : List Operand
  comment : Option Text
  deriving DecidableEq

namespace Instruction

/-- The operands as a listing shows them, with a comma between two. -/
def printOperands (operands : List Operand) : Text :=
  [',', ' '].intercalate (operands.map Operand.print)

/-- The part of the line from the operands on: a space stands before the operands, if there are
any, and before the comment, if it says anything. -/
def printRest (operands : List Operand) (comment : Option Text) : Text :=
  (if operands.isEmpty then [] else ' ' :: printOperands operands) ++
    (match comment with
      | none | some [] => []
      | some c => [' ', '/', '/', ' '] ++ c)

/-- The line of an instruction. -/
def print (i : Instruction) : Text :=
  Numeral.print i.offset ++ [':', ' '] ++ i.opcode.mnemonic ++ printRest i.operands i.comment

/-- The line of an instruction, if its offset and its operands can be written. -/
def print? (i : Instruction) : Option Text :=
  if Numeral.isWritable i.offset && i.operands.all Operand.isWritable then some i.print else none

end Instruction

end Disassembly
