import Disassembly.Instruction.Line
import Disassembly.Text.Line

/-!
# Listings

The disassembly listing of a method body: the instructions of its lines in their order, and the
lines that were skipped.

A listing is read line by line. `Listing.attempt` stops at a line whose offset has too many digits
and says what was read before; `Listing.read` is the listing, if there is no such line.
-/

set_option autoImplicit false

namespace Disassembly

/-- What is said of a line that was skipped. -/
def skipMessage (number : Int) (reason line : Text) : Text :=
  "line ".toList ++ Numeral.print number ++ [':', ' '] ++ reason ++ [':', ' '] ++ Text.quoted line

/-- A line that was skipped, with its number; the first line of a listing has the number one. -/
structure SkippedLine where
  number : Nat
  line : Text
  reason : SkipReason
  deriving DecidableEq

/-- What is said of a line that was skipped. -/
def SkippedLine.message (s : SkippedLine) : Text :=
  skipMessage s.number s.reason.print s.line

/-- A listing that has been read. -/
structure Listing where
  instructions : List Instruction
  skipped : List SkippedLine
  deriving DecidableEq

/-- A line has an offset with more digits than a numeral may have. -/
structure OverlongOffset where
  digits : Nat
  deriving DecidableEq

/-- What is said of an overlong offset. -/
def OverlongOffset.message (e : OverlongOffset) : Text :=
  Numeral.tooLongMessage e.digits

namespace Listing

/-- The listing without lines. -/
def empty : Listing := ⟨[], []⟩

/-- The listing with one more instruction at its start. -/
def addInstruction (i : Instruction) (l : Listing) : Listing :=
  { l with instructions := i :: l.instructions }

/-- The listing with one more skipped line at its start. -/
def addSkipped (s : SkippedLine) (l : Listing) : Listing :=
  { l with skipped := s :: l.skipped }

/-- What is read from lines of which the first has the given number, up to the first line with an
overlong offset. -/
def attemptLines : (number : Nat) → List Text → Listing × Option OverlongOffset
  | _, [] => (empty, none)
  | number, line :: rest =>
    match Instruction.ofLine line with
    | .decoded i => (attemptLines (number + 1) rest).map (addInstruction i) id
    | .skipped reason =>
      (attemptLines (number + 1) rest).map (addSkipped ⟨number, line, reason⟩) id
    | .overlongOffset digits => (empty, some ⟨digits⟩)

/-- What is read from a text up to the first line with an overlong offset. -/
def attempt (t : Text) : Listing × Option OverlongOffset :=
  attemptLines 1 (Text.lines t)

/-- The listing that a text shows. -/
def read (t : Text) : Except OverlongOffset Listing :=
  match attempt t with
  | (l, none) => .ok l
  | (_, some e) => .error e

/-- Whether no line was skipped. -/
def complete (l : Listing) : Bool :=
  l.skipped.isEmpty

/-- The instruction at a position; a negative position counts from the end. -/
def get? (l : Listing) (position : Int) : Option Instruction :=
  let fromStart := if position < 0 then position + l.instructions.length else position
  if fromStart < 0 then none else l.instructions[fromStart.toNat]?

/-- Why there is no instruction at a position. -/
inductive PositionError where
  | outOfRange
  /-- The position does not fit into a machine word. -/
  | tooLarge
  deriving DecidableEq

/-- What is said of a position without an instruction. -/
def PositionError.message : PositionError → Text
  | .outOfRange => "tuple index out of range".toList
  | .tooLarge => "cannot fit 'int' into an index-sized integer".toList

/-- The least number that is too large for a machine word with a sign. -/
def wordBound : Int := 0x8000000000000000

/-- The instruction at a position that fits into a machine word. -/
def instructionAt (l : Listing) (position : Int) : Except PositionError Instruction :=
  if -wordBound ≤ position ∧ position < wordBound then (l.get? position).elim (.error .outOfRange) .ok
  else .error .tooLarge

/-- The lines of the instructions, without a break at the end. -/
def print (l : Listing) : Text :=
  ['\n'].intercalate (l.instructions.map Instruction.print)

end Listing

end Disassembly
