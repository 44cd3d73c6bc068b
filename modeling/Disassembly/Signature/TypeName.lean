import Disassembly.Text.Basic

/-!
# Type names

The types of parameters and results as signatures name them: a base name and a number of array
dimensions. Two names may mean the same type although they differ in their package names, in the
way a nested class is joined to its outer class, or because one is a type variable.

`TypeName.score` says how well two names agree: not at all, as a type variable and a reference type,
or as the same type.
-/

set_option autoImplicit false

namespace Disassembly

open Text

/-- The name of a type. -/
structure TypeName where
  base : Text
  dimensions : Nat
  deriving DecidableEq

/-- A text that is no type name, because a line ends inside it. -/
structure MalformedType where
  text : Text
  deriving DecidableEq

namespace TypeName

/-- The names of the primitive types, and of the missing result. -/
def primitives : List Text :=
  ["boolean", "byte", "char", "short", "int", "long", "float", "double", "void"].map String.toList

/-- The reversal of a text without the pairs of square brackets at its start, each pair reversed
too, and their number. -/
def splitDimensions : Text → TypeName
  | ']' :: '[' :: r =>
    let name := splitDimensions r
    { name with dimensions := name.dimensions + 1 }
  | t => ⟨t.reverse, 0⟩

/-- The text without a line feed at its end. -/
def dropFinalBreak (t : Text) : Text :=
  if t.getLast? = some '\n' then t.dropLast else t

/-- The type name that a text shows. -/
def ofText (t : Text) : Except MalformedType TypeName :=
  let line := dropFinalBreak t
  if '\n' ∈ line then .error ⟨t⟩ else .ok (splitDimensions line.reverse)

/-- A character that joins the parts of a name: a package to its class, or a class to a class
nested in it. -/
def isJoint (c : Char) : Bool :=
  c == '.' || c == '$'

/-- The last part of a name. -/
def simpleName (base : Text) : Text :=
  takeWhileEnd (fun c => !isJoint c) base

/-- The name with the same joint everywhere. -/
def withDots (base : Text) : Text :=
  base.map fun c => if c = '$' then '.' else c

/-- Whether the second name is the end of the first, from a joint on. -/
def continues (longer shorter : Text) : Bool :=
  ('.' :: shorter).isSuffixOf longer

/-- Whether both names say a package, and neither is the end of the other. -/
def conflict (a b : Text) : Bool :=
  a.contains '.' && b.contains '.' &&
    (let x := withDots a
     let y := withDots b
     x != y && !continues x y && !continues y x)

/-- Whether a name is that of a type variable: one capital letter, or one and a digit. -/
def isVariable : Text → Bool
  | [c] => c.isUpper
  | [c, d] => c.isUpper && d.isDigit
  | _ => false

/-- The score of two names of the same type. -/
def exactScore : Nat := 2

/-- The score of a type variable and a type that it may stand for. -/
def variableScore : Nat := 1

/-- Whether the first name is that of a type variable that may stand for the second. -/
def covers (a b : Text) : Bool :=
  isVariable a && !primitives.contains b

/-- How well two type names agree; zero if they cannot mean the same type. -/
def score (a b : TypeName) : Nat :=
  if a.dimensions ≠ b.dimensions || conflict a.base b.base then 0
  else
    let x := simpleName a.base
    let y := simpleName b.base
    if x = y then exactScore
    else if covers x y || covers y x then variableScore
    else 0

end TypeName

/-- How well the type names in two texts agree. -/
def typeScore (first second : Text) : Except MalformedType Nat := do
  let a ← TypeName.ofText first
  let b ← TypeName.ofText second
  return a.score b

end Disassembly
