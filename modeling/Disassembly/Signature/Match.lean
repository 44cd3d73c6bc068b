import Disassembly.Signature.Basic

/-!
# The best match

Which of several signatures declares the same method as a given one. A candidate that is the given
text itself wins at once. Otherwise every candidate gets a grade:

- `qualifiedGrade`, if the canonical texts with package names are equal;
- `simpleGrade`, if the canonical texts without package names are equal, unless the structures show
  that different types are meant;
- else the score of the two structures.

The highest grade wins, and of candidates with the same grade the one that comes first in the order
of code points.
-/

set_option autoImplicit false

namespace Disassembly.Signature

/-- The grade of a candidate with the same canonical text, package names included. -/
def qualifiedGrade : Nat := 2000

/-- The grade of a candidate with the same canonical text, package names left out. -/
def simpleGrade : Nat := 1000

/-- All that grading needs to know of a signature. -/
structure Profile where
  qualified : Text
  simple : Text
  structured : Option Signature

/-- The profile of a signature. -/
def Profile.ofText (s : Text) : Profile :=
  let qualified := canonical .qualified s
  ⟨qualified, canonical .simple s, ofCanonical? qualified⟩

/-- The score of two structures, where both are there. -/
def Profile.score (target candidate : Profile) : Except MalformedType (Option Nat) :=
  match target.structured, candidate.structured with
  | some t, some c => t.score c
  | _, _ => .ok none

/-- The grade of a candidate; none if it cannot be the same method. -/
def Profile.grade (target candidate : Profile) : Except MalformedType (Option Nat) :=
  if candidate.qualified = target.qualified then .ok (some qualifiedGrade)
  else do
    let score ← target.score candidate
    if candidate.simple = target.simple then
      let structuresDiffer :=
        target.structured.isSome && candidate.structured.isSome && score.isNone
      return if structuresDiffer then none else some simpleGrade
    else return score

/-- A candidate with its grade. -/
structure Graded where
  grade : Nat
  candidate : Text
  deriving DecidableEq

/-- Whether the first candidate wins over the second. -/
def Graded.wins (a b : Graded) : Bool :=
  b.grade < a.grade || (a.grade == b.grade && decide (a.candidate < b.candidate))

/-- The graded candidate that wins over all others. -/
def best : List Graded → Option Graded
  | [] => none
  | a :: rest =>
    match best rest with
    | none => some a
    | some b => if b.wins a then some b else some a

/-- The candidates that can be the same method, with their grades. -/
def graded (target : Profile) : List Text → Except MalformedType (List Graded)
  | [] => .ok []
  | c :: rest => do
    let grade ← target.grade (.ofText c)
    let others ← graded target rest
    return (grade.map (⟨·, c⟩)).toList ++ others

/-- How a match was found, if there is one. -/
inductive MatchResult where
  /-- A candidate is the text that was looked for. -/
  | verbatim
  | graded (winner : Graded)
  | unmatched
  deriving DecidableEq

/-- The search for the candidate that declares the same method as the target. -/
def search (target : Text) (candidates : List Text) : Except MalformedType MatchResult :=
  if target ∈ candidates then .ok .verbatim
  else do
    match best (← graded (.ofText target) candidates) with
    | some winner => return .graded winner
    | none => return .unmatched

/-- The candidate that was found for a target. -/
def MatchResult.candidate? (target : Text) : MatchResult → Option Text
  | .verbatim => some target
  | .graded winner => some winner.candidate
  | .unmatched => none

/-- The candidate that declares the same method as the target, if one does. -/
def bestMatch (target : Text) (candidates : List Text) : Except MalformedType (Option Text) :=
  (search target candidates).map (·.candidate? target)

end Disassembly.Signature
