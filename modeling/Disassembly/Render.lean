import Disassembly.Json.Writer
import Disassembly.Listing
import Disassembly.Yaml.Library

/-!
# Renderings of a listing

A listing as text shows its instructions only. As JSON and YAML it shows the instructions and the
skipped lines, field by field; YAML is written by a library.
-/

set_option autoImplicit false

namespace Disassembly

/-- The forms in which a listing is printed. -/
inductive Format where
  | text
  | json
  | yaml
  deriving DecidableEq

/-- The form with the given name. A name that is not known stands for JSON. -/
def Format.ofName (name : Text) : Format :=
  if name = "text".toList then .text else if name = "yaml".toList then .yaml else .json

namespace Operand

/-- The sort of an operand. -/
def kindName : Operand → Text
  | .constant _ => "constant".toList
  | .numeric _ => "numeric".toList
  | .symbol _ => "string".toList

/-- What the operand says. -/
def value : Operand → Datum Text
  | .constant reference => .text reference
  | .numeric value => .int value
  | .symbol name => .text name

/-- The operand as a structured value. -/
def toDatum (o : Operand) : Datum Text :=
  .record [("kind".toList, .text o.kindName), ("value".toList, o.value)]

end Operand

/-- The instruction as a structured value. -/
def Instruction.toDatum (i : Instruction) : Datum Text :=
  .record
    [("offset".toList, .int i.offset),
     ("opcode".toList, .text i.opcode.mnemonic),
     ("opcode_value".toList, .int i.opcode.code.val),
     ("parameters".toList, .list (i.operands.map Operand.toDatum)),
     ("comment".toList, .ofText? i.comment)]

/-- The skipped line as a structured value. -/
def SkippedLine.toDatum (s : SkippedLine) : Datum Text :=
  .record
    [("line_number".toList, .int s.number),
     ("line".toList, .text s.line),
     ("reason".toList, .text s.reason.print)]

namespace Listing

/-- The fields of a listing as a structured value. -/
def fields (l : Listing) : List (Text × Datum Text) :=
  [("instructions".toList, .list (l.instructions.map Instruction.toDatum)),
   ("skipped".toList, .list (l.skipped.map SkippedLine.toDatum))]

/-- The listing in the given form. -/
def render (y : Yaml.Library) (format : Format) (l : Listing) : Text :=
  match format with
  | .text => l.print
  | .json => Json.pretty 0 (.record l.fields)
  | .yaml => y.write l.fields

end Listing

end Disassembly
