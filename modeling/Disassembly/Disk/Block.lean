import Disassembly.Disk.Basic

/-!
# Text files in blocks

A text file may be decoded block by block, so that what stands before a byte that is not UTF-8 can be
read. `decodeBlocks` is the text of the blocks before the first one with such a byte.
-/

set_option autoImplicit false

namespace Disassembly.Disk

/-- The number of bytes of a block. -/
def blockSize : Nat := 8192

/-- The text of a file as far as it can be decoded, and whether that is all of it. -/
structure BlockText where
  text : Text
  complete : Bool

/-- The characters from a place on whose bytes end before the given limit, at most the given number
of them, and the place behind them. -/
def decodeUpTo (bytes : ByteArray) (limit : Nat) : (rounds : Nat) → (place : Nat) → Text × Nat
  | 0, place => ([], place)
  | n + 1, place =>
    match bytes.utf8DecodeChar? place with
    | some c =>
      if place + c.utf8Size ≤ limit then
        let (t, last) := decodeUpTo bytes limit n (place + c.utf8Size)
        (c :: t, last)
      else ([], place)
    | none => ([], place)

/-- A byte that continues a character. -/
def isContinuation (b : UInt8) : Bool :=
  0x80 ≤ b && b ≤ 0xBF

/-- Whether the second byte of a character fits the first one: it must not make the code longer than
need be, nor lead to a surrogate or beyond the last character. -/
def fitsFirst (first second : UInt8) : Bool :=
  isContinuation second && (first != 0xE0 || 0xA0 ≤ second) && (first != 0xED || second < 0xA0) &&
    (first != 0xF0 || 0x90 ≤ second) && (first != 0xF4 || second < 0x90)

/-- Whether bytes are the start of a character that needs more of them. -/
def isIncomplete : List UInt8 → Bool
  | [a] => 0xC2 ≤ a && a ≤ 0xF4
  | [a, b] => 0xE0 ≤ a && a ≤ 0xF4 && fitsFirst a b
  | [a, b, c] => 0xF0 ≤ a && a ≤ 0xF4 && fitsFirst a b && isContinuation c
  | _ => false

/-- The place of the first byte that belongs to no character; the size of the bytes if it is only
their last character that is cut short. -/
def faultPlace (bytes : ByteArray) : Nat :=
  let start := (decodeUpTo bytes bytes.size bytes.size 0).2
  let next := (bytes.extract start (start + 4)).toList
  start + ((List.range next.length).takeWhile fun n => isIncomplete (next.take (n + 1))).length

/-- The text of the blocks before the one with the given place. A carriage return at its end is left
out, for a line feed may follow. -/
def textBefore (bytes : ByteArray) (place : Nat) : Text :=
  let limit := if place < bytes.size then place / blockSize * blockSize else bytes.size
  let t := (decodeUpTo bytes limit bytes.size 0).1
  Text.unifyBreaks (if t.getLast? = some '\r' then t.dropLast else t)

/-- The text that bytes encode, as far as it can be decoded block by block, with line feeds for all
line breaks. -/
def decodeBlocks (bytes : ByteArray) : BlockText :=
  match decode? bytes with
  | some t => ⟨Text.unifyBreaks t, true⟩
  | none => ⟨textBefore bytes (faultPlace bytes), false⟩

end Disassembly.Disk
