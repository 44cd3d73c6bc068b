import Disassembly.Text.Basic

/-!
# Families of instructions

Some titles of the manual stand for a family of instructions: what varies between them is put in
angle brackets, as in `if<cond>` and `lconst_<n>`. Such a title matches every mnemonic that starts
with the literal part before the bracket and goes on behind it.
-/

set_option autoImplicit false

namespace Disassembly.Manual

/-- The title of a family with its literal part. -/
structure Family where
  stem : Text
  title : Text
  deriving DecidableEq

namespace Family

/-- The family that a title stands for, if it has a bracket. -/
def ofTitle? (title : Text) : Option Family :=
  if '<' ∈ title then some ⟨title.takeWhile (· != '<'), title⟩ else none

/-- Whether a mnemonic belongs to the family. -/
def covers (f : Family) (mnemonic : Text) : Bool :=
  f.stem.length < mnemonic.length && f.stem.isPrefixOf mnemonic

/-- The families with the longer literal parts first; families with literal parts of the same
length keep their order. -/
def longestFirst (families : List Family) : List Family :=
  families.mergeSort fun a b => decide (b.stem.length ≤ a.stem.length)

/-- Whether the literal part of one of the families is the start of that of the other. -/
def overlap (a b : Family) : Bool :=
  b.stem.isPrefixOf a.stem || a.stem.isPrefixOf b.stem

/-- The pairs of overlapping families, in the order of the list. -/
def overlaps : List Family → List (Family × Family)
  | [] => []
  | a :: rest => (rest.filter (overlap a ·)).map (a, ·) ++ overlaps rest

end Family

end Disassembly.Manual
