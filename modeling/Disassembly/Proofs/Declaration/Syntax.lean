import Disassembly.Proofs.Signature.Erasure
import Disassembly.Signature.Basic
import Mathlib.Tactic

/-!
# The syntax of declarations

A `Declaration` is a method declaration as a tree, with every gap and margin that its text has.
`Declaration.write` is that text, and `Declaration.signature` is the structure that it shows: type
arguments are erased, a variable number of arguments is an array, and gaps do not count.

The parts carry what makes them well formed: an identifier starts as one and is no modifier, and the
brackets of type arguments are balanced.
-/

set_option autoImplicit false

namespace Disassembly

open Text Signature

namespace Declaration

/-! ## Gaps -/

/-- Blank characters that may be left out. -/
structure Margin where
  text : Text
  blank : ∀ c ∈ text, isBlank c = true

/-- Blank characters between two words. -/
structure Gap extends Margin where
  nonempty : text ≠ []

/-! ## Names -/

/-- A character of an identifier. -/
def isIdentifierChar (c : Char) : Bool :=
  c.isAlphanum || c == '_' || c == '$'

/-- A name that is not qualified. -/
structure Identifier where
  text : Text
  start : text.head?.any isIdentifierStart = true
  chars : ∀ c ∈ text, isIdentifierChar c = true
  notModifier : isModifier text = false

/-- A word that is a modifier. -/
structure Modifier where
  text : Text
  known : text ∈ modifierWords

/-- A method whose name is written in brackets. -/
inductive SpecialMethod where
  | init
  | clinit

/-- The name of a special method. -/
def SpecialMethod.text : SpecialMethod → Text
  | init => initName
  | clinit => clinitName

/-- The name of a method. -/
inductive MethodName where
  | ordinary (name : Identifier)
  | special (method : SpecialMethod)

/-- The text of the name of a method. -/
def MethodName.text : MethodName → Text
  | ordinary name => name.text
  | special method => method.text

/-- The name of a class with its packages. Its last identifier is made of the names of the outer
classes, up to the last dollar sign, and the name of the class itself. -/
structure ClassName where
  packages : List Identifier
  outer : Text
  simple : Text
  identifier : Identifier
  identifier_eq : identifier.text = outer ++ simple
  outer_end : outer = [] ∨ outer.getLast? = some '$'
  simple_plain : '$' ∉ simple

/-- The text of the name of a class. -/
def ClassName.text (c : ClassName) : Text :=
  c.packages.flatMap (fun p => p.text ++ ['.']) ++ c.identifier.text

/-! ## Types -/

/-- Type arguments or type parameters in their brackets. No bracket pair in them is written like
the name of a special method. -/
structure Clause where
  inner : Text
  balanced : Balanced inner
  chars : ∀ c ∈ inner, c ≠ '@' ∧ c ≠ ')' ∧ c ≠ '\x00'
  notInit : ¬initName <:+: '<' :: inner ++ ['>']
  notClinit : ¬clinitName <:+: '<' :: inner ++ ['>']

/-- The text of a clause. -/
def Clause.text (c : Clause) : Text :=
  '<' :: c.inner ++ ['>']

/-- A part of a qualified type, with its type arguments. -/
structure Segment where
  name : Identifier
  arguments : Option Clause

/-- The text of a part of a type. -/
def Segment.write (s : Segment) : Text :=
  s.name.text ++ (s.arguments.map Clause.text).getD []

/-- What makes an array of a type: pairs of square brackets, each with what stands before and
between them, or the dots of a variable number of arguments. -/
inductive Dimensions where
  | brackets (pairs : List (Margin × Margin))
  | ellipsis (before : Margin)

namespace Dimensions

/-- The text of one pair of square brackets. -/
def writePair (pair : Margin × Margin) : Text :=
  pair.1.text ++ '[' :: (pair.2.text ++ [']'])

/-- The text of the dimensions. -/
def write : Dimensions → Text
  | brackets pairs => pairs.flatMap writePair
  | ellipsis before => before.text ++ ['.', '.', '.']

/-- The number of dimensions. -/
def count : Dimensions → Nat
  | brackets pairs => pairs.length
  | ellipsis _ => 1

end Dimensions

/-- A type as it is written. -/
structure TypeUse where
  first : Segment
  rest : List Segment
  dimensions : Dimensions

namespace TypeUse

/-- The text of a type. -/
def write (t : TypeUse) : Text :=
  t.first.write ++ t.rest.flatMap (fun s => '.' :: s.write) ++ t.dimensions.write

/-- The qualified name of a type. -/
def name (t : TypeUse) : Text :=
  t.first.name.text ++ t.rest.flatMap fun s => '.' :: s.name.text

/-- The type without type arguments, with square brackets for all its dimensions. -/
def erased (t : TypeUse) : Text :=
  t.name ++ (List.replicate t.dimensions.count ['[', ']']).flatten

end TypeUse

/-! ## Parameters -/

/-- A parameter: it may be final, and it may have a name. -/
structure Parameter where
  final? : Option Gap
  type : TypeUse
  name? : Option (Gap × Identifier)

/-- The text of a parameter. -/
def Parameter.write (p : Parameter) : Text :=
  (p.final?.map fun gap => "final".toList ++ gap.text).getD [] ++ p.type.write ++
    (p.name?.map fun named => named.1.text ++ named.2.text).getD []

/-- A parameter with what stands around it. -/
structure Place where
  before : Margin
  parameter : Parameter
  after : Margin

/-- The text of a parameter with what stands around it. -/
def Place.write (p : Place) : Text :=
  p.before.text ++ p.parameter.write ++ p.after.text

/-- What stands between the parentheses. -/
inductive Parameters where
  | none (inside : Margin)
  | some (first : Place) (rest : List Place)

namespace Parameters

/-- The text between the parentheses. -/
def write : Parameters → Text
  | none inside => inside.text
  | some first rest => first.write ++ rest.flatMap fun p => ',' :: p.write

/-- The types of the parameters. -/
def types : Parameters → List Text
  | none _ => []
  | some first rest => (first :: rest).map (·.parameter.type.erased)

end Parameters

/-! ## Declarations -/

/-- What is declared: a method with the type of its result, a special method without one, or a
constructor. -/
inductive Subject where
  | method (result : TypeUse) (gap : Gap) (name : MethodName)
  | special (method : SpecialMethod)
  | constructor (className : ClassName)

namespace Subject

/-- The text in front of the name. -/
def front : Subject → Text
  | method result gap _ => result.write ++ gap.text
  | special _ => []
  | constructor _ => []

/-- The name as it is written. -/
def writtenName : Subject → Text
  | method _ _ name => name.text
  | special m => m.text
  | constructor className => className.text

/-- The name of the method, or of the class that is constructed. -/
def name : Subject → Text
  | method _ _ name => name.text
  | special m => m.text
  | constructor className => className.simple

/-- The type of the result. -/
def result? : Subject → Option Text
  | method result _ _ => some result.erased
  | special _ => none
  | constructor _ => none

end Subject

/-- A further thrown type, with what stands around the comma before it. -/
structure ThrownType where
  before : Margin
  after : Margin
  type : TypeUse

/-- The text of a further thrown type. -/
def ThrownType.write (t : ThrownType) : Text :=
  t.before.text ++ ',' :: (t.after.text ++ t.type.write)

/-- The clause of thrown types. -/
structure Throws where
  before : Margin
  gap : Gap
  first : TypeUse
  rest : List ThrownType

/-- The text of a clause of thrown types. -/
def Throws.write (t : Throws) : Text :=
  t.before.text ++ "throws".toList ++ t.gap.text ++ t.first.write ++ t.rest.flatMap ThrownType.write

end Declaration

open Declaration

/-- A method declaration with all its gaps. -/
structure Declaration where
  lead : Margin
  modifiers : List (Modifier × Gap)
  typeParameters : Option (Clause × Gap)
  subject : Subject
  beforeOpen : Margin
  parameters : Parameters
  throws? : Option Throws
  semicolon? : Option Margin
  trail : Margin

namespace Declaration

/-- The modifiers and type parameters. -/
def opening (d : Declaration) : Text :=
  d.modifiers.flatMap (fun m => m.1.text ++ m.2.text) ++
    (d.typeParameters.map fun clause => clause.1.text ++ clause.2.text).getD []

/-- The part of a declaration from the first word to the last parameter. -/
def body (d : Declaration) : Text :=
  d.opening ++ d.subject.front ++ d.subject.writtenName ++ d.beforeOpen.text ++
    '(' :: d.parameters.write

/-- What stands behind the parameters. -/
def ending (d : Declaration) : Text :=
  (d.throws?.map Throws.write).getD [] ++
    (d.semicolon?.map fun before => before.text ++ [';']).getD [] ++ d.trail.text

/-- The text of a declaration. -/
def write (d : Declaration) : Text :=
  d.lead.text ++ d.body ++ ')' :: d.ending

/-- The structure that a declaration shows. -/
def signature (d : Declaration) : Signature where
  name := d.subject.name
  parameters := d.parameters.types
  result := d.subject.result?
  modifiers := modifierWords.filter ((d.modifiers.map (·.1.text)).contains ·)

end Declaration

end Disassembly
