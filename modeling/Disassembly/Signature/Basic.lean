import Disassembly.Signature.Canonical
import Disassembly.Signature.TypeName

/-!
# Method signatures

The structure of a method declaration: modifiers, result type, name and parameter types. A
constructor has no result type, and its name is that of its class without packages and outer
classes.

`Signature.ofText?` reads the structure off the canonical text that keeps package names, and
`Signature.score` says how well two declarations agree, if they may declare the same method at all.
-/

set_option autoImplicit false

namespace Disassembly

open Text

/-- The structure of a method declaration. The modifiers are in alphabetical order, each once. -/
structure Signature where
  name : Text
  parameters : List Text
  result : Option Text
  modifiers : List Text
  deriving DecidableEq

namespace Signature

/-- The words that are modifiers, in alphabetical order. -/
def modifierWords : List Text :=
  ["abstract", "default", "final", "native", "private", "protected", "public", "static",
   "strictfp", "synchronized", "transient", "volatile"].map String.toList

/-- Whether a word is a modifier. -/
def isModifier (w : Text) : Bool :=
  modifierWords.contains w

/-- A character of the name in front of the parameters. -/
def isNameChar (c : Char) : Bool :=
  isDottedNameChar c || c == '<' || c == '>'

/-- A character other than the parentheses. -/
def isOutsideParentheses (c : Char) : Bool :=
  c != '(' && c != ')'

/-- A declaration cut at the parentheses of its parameters. -/
structure Shape where
  head : Text
  name : Text
  parameters : Text

/-- The parts of a text that ends with parameters in parentheses, and a name before them. -/
def Shape.ofText? (t : Text) : Option Shape :=
  match t.reverse with
  | ')' :: body =>
    match body.dropWhile isOutsideParentheses with
    | '(' :: front =>
      let name := (front.takeWhile isNameChar).reverse
      if name.isEmpty then none
      else some ⟨(front.dropWhile isNameChar).reverse, name,
        (body.takeWhile isOutsideParentheses).reverse⟩
    | _ => none
  | _ => none

/-- The type of a parameter: its first word that is no modifier. -/
def parameterType (p : Text) : Text :=
  ((words p).filter (!isModifier ·)).headD p

/-- The types of the parameters. -/
def parameterTypes (parameters : Text) : List Text :=
  (((parameters.splitOn ',').map trim).filter (!List.isEmpty ·)).map parameterType

/-- The part of a text behind the last of the given characters. -/
def lastPart (joint : Char) (t : Text) : Text :=
  takeWhileEnd (· != joint) t

/-- The structure of a declaration that is cut at its parameters. -/
def ofShape (s : Shape) : Signature :=
  let headWords := words s.head
  let result := (headWords.filter (!isModifier ·)).getLast?
  let name := lastPart '.' s.name
  { name := if result.isNone then lastPart '$' name else name
    parameters := parameterTypes s.parameters
    result := result
    modifiers := modifierWords.filter (headWords.contains ·) }

/-- The structure of a declaration given by its canonical text. -/
def ofCanonical? (t : Text) : Option Signature :=
  (Shape.ofText? t).map ofShape

/-- The structure of a declaration, if the text is one. -/
def ofText? (s : Text) : Option Signature :=
  ofCanonical? (canonical .qualified s)

/-! ## Agreement of two declarations -/

/-- The sum of the scores of the parameter types, pair by pair; none if a pair cannot mean the same
type or the numbers of parameters differ. -/
def parameterScore : List Text → List Text → Except MalformedType (Option Nat)
  | [], [] => .ok (some 0)
  | a :: as, b :: bs => do
    let s ← typeScore a b
    if s = 0 then return none
    else return (← parameterScore as bs).map (s + ·)
  | _, _ => .ok none

/-- The score of the result types; nothing is gained where one is missing. -/
def resultScore : Option Text → Option Text → Except MalformedType Nat
  | some a, some b => typeScore a b
  | _, _ => .ok 0

/-- How well two declarations agree; none if they cannot declare the same method. Each modifier that
they share counts one. -/
def score (target candidate : Signature) : Except MalformedType (Option Nat) :=
  if target.name ≠ candidate.name
      ∨ target.parameters.length ≠ candidate.parameters.length then .ok none
  else do
    match ← parameterScore target.parameters candidate.parameters with
    | none => return none
    | some n =>
      let r ← resultScore target.result candidate.result
      let shared := target.modifiers.filter (candidate.modifiers.contains ·)
      return some (n + r + shared.length)

end Signature

end Disassembly
