import Disassembly.Signature.Generics
import Disassembly.Text.Blank
import Disassembly.Text.Word

/-!
# Canonical signatures

The same method is written in many ways: with and without annotations, type arguments, package
names, a clause of thrown types, and with any spacing. The canonical text of a signature leaves all
of that out. It comes in two forms: with the package names of types, and without.
-/

set_option autoImplicit false

namespace Disassembly.Signature

open Text

/-! ## Annotations and thrown types -/

/-- A character of a dotted name. -/
def isDottedNameChar (c : Char) : Bool :=
  isWord c || c == '.' || c == '$'

/-- The number of characters of an argument list in parentheses at the start of a text, up to the
first closing parenthesis; zero if there is none. -/
def argumentLength : Text → Nat
  | '(' :: r =>
    if (r.dropWhile (· != ')')).isEmpty then 0 else (r.takeWhile (· != ')')).length + 2
  | _ => 0

/-- An annotation: a name behind `@`, its arguments and the blank characters behind it. -/
def annotation : Pattern := fun _ t =>
  match t with
  | '@' :: r =>
    let name := r.takeWhile isDottedNameChar
    let rest := r.dropWhile isDottedNameChar
    let arguments := argumentLength rest
    if name.isEmpty then none
    else some ⟨name.length + arguments + ((rest.drop arguments).takeWhile isBlank).length, []⟩
  | _ => none

/-- The text without annotations. -/
def dropAnnotations (t : Text) : Text :=
  substitute annotation t

/-- Whether a text starts, after blank characters, with the word that opens a clause of thrown
types. -/
def startsThrows (t : Text) : Bool :=
  let u := trimLeft t
  "throws".toList.isPrefixOf u && !(u.drop 6).head?.any isWord

/-- The text up to the first closing parenthesis behind which a clause of thrown types starts. -/
def dropThrows : Text → Text
  | [] => []
  | c :: r => if c = ')' ∧ startsThrows r then [')'] else c :: dropThrows r

/-- The text without semicolons, spaces and tabs at its end. -/
def dropEnd (t : Text) : Text :=
  dropWhileEnd (fun c => c == ';' || c == ' ' || c == '\t') t

/-! ## Package names -/

/-- A character that an identifier may start with. -/
def isIdentifierStart (c : Char) : Bool :=
  c.isAlpha || c == '_' || c == '$'

/-- The identifiers, with a dot between two, at the start of a text. -/
def leadingIdentifiers (t : Text) : List Text :=
  ((t.takeWhile isDottedNameChar).splitOn '.').takeWhile fun s => s.head?.any isIdentifierStart

/-- At least two identifiers with dots between them, of which the last is written. -/
def qualifiedName : Pattern := fun before t =>
  let identifiers := leadingIdentifiers t
  if boundary before t.head? && 2 ≤ identifiers.length then
    some ⟨(['.'].intercalate identifiers).length - 1, identifiers.getLastD []⟩
  else none

/-- The text with the last identifier of every dotted name in place of the name. -/
def dropQualifiers (t : Text) : Text :=
  substitute qualifiedName t

/-! ## Spacing -/

/-- A parenthesis or comma with the blank characters around it. -/
def spacedPunctuation : Pattern := fun _ t =>
  let margin := t.takeWhile isBlank
  match t.dropWhile isBlank with
  | c :: r =>
    if c = '(' ∨ c = ')' ∨ c = ',' then
      some ⟨margin.length + (r.takeWhile isBlank).length, [c]⟩
    else none
  | [] => none

/-- A pair of square brackets with the blank characters before and between. -/
def spacedBrackets : Pattern := fun _ t =>
  let margin := t.takeWhile isBlank
  match t.dropWhile isBlank with
  | '[' :: r =>
    match r.dropWhile isBlank with
    | ']' :: _ => some ⟨margin.length + (r.takeWhile isBlank).length + 1, ['[', ']']⟩
    | _ => none
  | _ => none

/-- The text with single spaces between its words, none beside parentheses, before commas and
before or inside square brackets, and one behind every comma. -/
def respace (t : Text) : Text :=
  let tight := substitute spacedBrackets (substitute spacedPunctuation (collapse t))
  replace [','] [',', ' '] tight

/-! ## The two canonical forms -/

/-- Whether a canonical text keeps the package names of types. -/
inductive Naming where
  | qualified
  | simple
  deriving DecidableEq

/-- The text without annotations, thrown types, type arguments and what may end a declaration,
with array brackets for the dots of a variable number of arguments. -/
def erase (s : Text) : Text :=
  replace ['.', '.', '.'] ['[', ']']
    (eraseGenerics (dropEnd (dropThrows (dropAnnotations (trim s)))))

/-- The canonical text of a signature. -/
def canonical (naming : Naming) (s : Text) : Text :=
  match naming with
  | .qualified => respace (erase s)
  | .simple => respace (dropQualifiers (erase s))

end Disassembly.Signature
