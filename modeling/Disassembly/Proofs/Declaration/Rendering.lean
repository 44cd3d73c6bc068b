import Disassembly.Proofs.Declaration.Reading
import Mathlib.Tactic

/-!
# Renderings of a method

A `Rendering` is one way to write a method down. Its names are lists of identifiers that are joined
by dots or dollar signs, each of which may have type arguments; the last dimension of an array may be
written as dots, and there may be parameter names, thrown types, modifiers and whatever else a
declaration has.

A rendering shows the structure of its plain declaration, in which no name has type arguments and
identifiers that a dollar sign joins are one identifier (`Rendering.ofText?_eq`).
-/

set_option autoImplicit false

namespace Disassembly

open Text Signature

namespace Declaration

/-! ## Qualified names -/

/-- What stands between two parts of a qualified name. -/
inductive Joint where
  | dot
  | dollar

/-- The character of a joint. -/
def Joint.char : Joint → Char
  | dot => '.'
  | dollar => '$'

/-- A further part of a qualified name, with the joint before it. -/
structure Link where
  joint : Joint
  segment : Segment

/-- A qualified name, any part of which may have type arguments. -/
structure QualifiedName where
  first : Segment
  rest : List Link

namespace QualifiedName

/-- The text of a qualified name. -/
def write (q : QualifiedName) : Text :=
  q.first.write ++ q.rest.flatMap fun l => l.joint.char :: l.segment.write

/-- The text of a qualified name without type arguments. -/
def erased (q : QualifiedName) : Text :=
  q.first.name.text ++ q.rest.flatMap fun l => l.joint.char :: l.segment.name.text

/-- The parts of a qualified name. -/
def identifiers (q : QualifiedName) : List Identifier :=
  q.first.name :: q.rest.map (·.segment.name)

end QualifiedName

/-! ## Types and parameters -/

/-- A type as it is written: a name, pairs of square brackets, and perhaps the dots of a variable
number of arguments. -/
structure TypeSpelling where
  name : QualifiedName
  pairs : List (Margin × Margin)
  ellipsis? : Option Margin

namespace TypeSpelling

/-- The text of a type. -/
def write (t : TypeSpelling) : Text :=
  t.name.write ++ t.pairs.flatMap Dimensions.writePair ++
    (t.ellipsis?.map fun before => before.text ++ ['.', '.', '.']).getD []

/-- The number of dimensions, of which the dots are one. -/
def depth (t : TypeSpelling) : Nat :=
  t.pairs.length + (if t.ellipsis?.isSome then 1 else 0)

end TypeSpelling

/-- A parameter as it is written, with what stands around it: it may be final, and it may have a
name. -/
structure ParameterSpelling where
  before : Margin
  final? : Option Gap
  type : TypeSpelling
  name? : Option (Gap × Identifier)
  after : Margin

/-- The text of a parameter. -/
def ParameterSpelling.write (p : ParameterSpelling) : Text :=
  p.before.text ++
    ((p.final?.map fun gap => "final".toList ++ gap.text).getD [] ++ p.type.write ++
      (p.name?.map fun named => named.1.text ++ named.2.text).getD []) ++ p.after.text

/-! ## Renderings -/

/-- What a rendering has in front of the parameters: a method with the type of its result, a special
method without one, or a constructor. -/
inductive Heading where
  | method (result : TypeSpelling) (gap : Gap) (name : MethodName)
  | special (method : SpecialMethod)
  | constructor (className : QualifiedName)

namespace Heading

/-- The text in front of the name. -/
def front : Heading → Text
  | method result gap _ => result.write ++ gap.text
  | special _ => []
  | constructor _ => []

/-- The name as it is written. -/
def writtenName : Heading → Text
  | method _ _ name => name.text
  | special m => m.text
  | constructor className => className.write

end Heading

end Declaration

open Declaration

/-- A way to write a method down, with all its gaps. -/
structure Rendering where
  lead : Margin
  modifiers : List (Modifier × Gap)
  typeParameters : Option (Clause × Gap)
  heading : Heading
  beforeOpen : Margin
  /-- What stands between the parentheses if there are no parameters. -/
  inside : Margin
  parameters : List ParameterSpelling
  throws? : Option Throws
  semicolon? : Option Margin
  trail : Margin

namespace Rendering

/-- The text between the parentheses. -/
def parametersText (r : Rendering) : Text :=
  match r.parameters with
  | [] => r.inside.text
  | first :: rest => first.write ++ rest.flatMap fun p => ',' :: p.write

/-- The text of a rendering. -/
def write (r : Rendering) : Text :=
  r.lead.text ++ r.modifiers.flatMap (fun m => m.1.text ++ m.2.text) ++
    (r.typeParameters.map fun clause => clause.1.text ++ clause.2.text).getD [] ++
    r.heading.front ++ r.heading.writtenName ++ r.beforeOpen.text ++
    '(' :: r.parametersText ++ ')' :: (r.throws?.map Throws.write).getD [] ++
    (r.semicolon?.map fun before => before.text ++ [';']).getD [] ++ r.trail.text

end Rendering

namespace Declaration

/-! ## Names in plain declarations -/

/-- Two identifiers joined by a dollar sign are one identifier. -/
def Identifier.glue (i j : Identifier) : Identifier where
  text := i.text ++ '$' :: j.text
  start := by
    obtain ⟨c, r, htext, -⟩ := i.exists_cons
    have hstart := i.start
    rw [htext] at hstart ⊢
    exact hstart
  chars := by
    intro c hc
    rcases List.mem_append.1 hc with hc | hc
    · exact i.chars c hc
    · rcases List.mem_cons.1 hc with rfl | hc
      · decide
      · exact j.chars c hc
  notModifier := by
    rw [Bool.eq_false_iff]
    intro h
    -- a modifier has small letters only
    have hknown : i.text ++ '$' :: j.text ∈ modifierWords := by simpa [isModifier] using h
    have hdollar : '$' ∈ i.text ++ '$' :: j.text := by simp
    exact absurd ((Modifier.chars ⟨_, hknown⟩).2 '$' hdollar) (by decide)

/-- The identifiers between the dots of a qualified name, as the first one and the others. -/
def glued : Identifier → List Link → Identifier × List Identifier
  | i, [] => (i, [])
  | i, ⟨.dollar, s⟩ :: rest => glued (i.glue s.name) rest
  | i, ⟨.dot, s⟩ :: rest =>
    let others := glued s.name rest
    (i, others.1 :: others.2)

theorem glued_text (i : Identifier) (rest : List Link) :
    (glued i rest).1.text ++ (glued i rest).2.flatMap (fun j => '.' :: j.text) =
      i.text ++ rest.flatMap fun l => l.joint.char :: l.segment.name.text := by
  -- a dollar sign makes the first identifier longer, a dot puts one in front of the others
  fun_induction glued i rest with
  | case1 i => rfl
  | case2 i s rest ih =>
    rw [ih]
    simp [Identifier.glue, Joint.char]
  | case3 i s rest others ih =>
    rw [List.flatMap_cons, List.cons_append, ih]
    simp [Joint.char]

/-- The name of a class in no package. -/
def ClassName.ofIdentifier (i : Identifier) : ClassName where
  packages := []
  outer := dropWhileEnd (· != '$') i.text
  simple := takeWhileEnd (· != '$') i.text
  identifier := i
  identifier_eq := (dropWhileEnd_append_takeWhileEnd _ i.text).symm
  outer_end := by
    rcases hlast : (dropWhileEnd (· != '$') i.text).getLast? with - | c
    · exact Or.inl (List.getLast?_eq_none_iff.1 hlast)
    · rw [dropWhileEnd, List.getLast?_reverse] at hlast
      have hc : (c != '$') = false := head?_dropWhile i.text.reverse c hlast
      exact Or.inr (congrArg some (bne_eq_false_iff_eq.1 hc))
  simple_plain := by
    rw [takeWhileEnd, List.mem_reverse]
    exact fun h => absurd (List.mem_takeWhile_imp h) (by decide)

/-- The name of a class whose identifiers stand between dots. -/
def ClassName.ofIdentifiers : Identifier → List Identifier → ClassName
  | i, [] => .ofIdentifier i
  | i, j :: js =>
    let inner := ofIdentifiers j js
    { inner with packages := i :: inner.packages }

theorem ClassName.text_ofIdentifiers (i : Identifier) (js : List Identifier) :
    (ofIdentifiers i js).text = i.text ++ js.flatMap fun j => '.' :: j.text := by
  induction js generalizing i with
  | nil => simp [ofIdentifiers, ofIdentifier, text]
  | cons j js ih =>
    have hinner : (ofIdentifiers i (j :: js)).text =
        (i.text ++ ['.']) ++ (ofIdentifiers j js).text := by
      simp [ofIdentifiers, text]
    rw [hinner, ih j]
    simp

namespace QualifiedName

/-- The class that a qualified name names. -/
def className (q : QualifiedName) : ClassName :=
  .ofIdentifiers (glued q.first.name q.rest).1 (glued q.first.name q.rest).2

/-- The type with the name, without type arguments, and a number of dimensions. -/
def type (q : QualifiedName) (depth : Nat) : TypeUse where
  first := ⟨(glued q.first.name q.rest).1, none⟩
  rest := (glued q.first.name q.rest).2.map (⟨·, none⟩)
  dimensions := .brackets (List.replicate depth (⟨[], by simp⟩, ⟨[], by simp⟩))

@[simp]
theorem text_className (q : QualifiedName) : q.className.text = q.erased := by
  rw [className, ClassName.text_ofIdentifiers, glued_text, erased]

@[simp]
theorem name_type (q : QualifiedName) (depth : Nat) : (q.type depth).name = q.erased := by
  rw [type, TypeUse.name, List.flatMap_map, glued_text, erased]

@[simp]
theorem count_dimensions_type (q : QualifiedName) (depth : Nat) :
    (q.type depth).dimensions.count = depth :=
  List.length_replicate

theorem bare_link (l : Link) :
    Bare (l.joint.char :: l.segment.write) (l.joint.char :: l.segment.name.text) := by
  cases l.joint with
  | dot => exact TypeUse.bare_dot_segment l.segment
  | dollar =>
    have hdollar : Bare ['$'] ['$'] := .of_kept (.of_ordinary (by decide))
    exact hdollar.append (TypeUse.bare_segment l.segment)

theorem bare (q : QualifiedName) : Bare q.write q.erased :=
  (TypeUse.bare_segment q.first).append (.flatMap fun l _ => bare_link l)

theorem denotes (q : QualifiedName) : Denotes q.write q.erased := by
  obtain ⟨c, r, htext, hc⟩ := q.first.name.exists_cons
  have hwrite : q.write = c :: (r ++ (q.first.arguments.map Clause.text).getD [] ++
      q.rest.flatMap fun l => l.joint.char :: l.segment.write) := by
    simp [write, Segment.write, htext]
  exact ⟨⟨c, _, hwrite, not_isBlank_of_isIdentifierChar hc⟩, Or.inl q.bare⟩

end QualifiedName

/-! ## Plain declarations -/

/-- The type in a plain declaration. -/
def TypeSpelling.plain (t : TypeSpelling) : TypeUse :=
  t.name.type t.depth

theorem TypeSpelling.reduces (t : TypeSpelling) : Reduces t.write t.plain.erased := by
  have hsettles : Settles t.name.erased t.name.erased := by
    rw [← t.name.name_type 0]
    exact .of_solid (TypeUse.name_ne_nil _) fun c => TypeUse.isSolid_of_mem_name
  have hname : Reduces t.name.write t.name.erased := ⟨_, t.name.bare, hsettles⟩
  have hpairs := hname.dimensions (.brackets t.pairs)
  rw [plain, TypeUse.erased, t.name.name_type, t.name.count_dimensions_type, write, depth]
  cases t.ellipsis? with
  | none => simpa [Dimensions.write, Dimensions.count] using hpairs
  | some before =>
    -- the dots are one more pair of brackets behind those that are written
    have hdots := hpairs.dimensions (.ellipsis before)
    simpa [Dimensions.write, Dimensions.count, List.replicate_succ'] using hdots

/-- The parameter in a plain declaration, with what stands around it. -/
def ParameterSpelling.plain (p : ParameterSpelling) : Place :=
  ⟨p.before, ⟨p.final?, p.type.plain, p.name?⟩, p.after⟩

theorem ParameterSpelling.fits (p : ParameterSpelling) :
    Fits p.write p.plain.parameter.canonical :=
  (p.type.reduces.parameter p.final? p.name?).fits p.before p.after

/-- What a plain declaration declares. -/
def Heading.plain : Heading → Subject
  | method result gap name => .method result.plain gap name
  | special m => .special m
  | constructor className => .constructor className.className

theorem Heading.leads (h : Heading) : Leads h.front h.plain.resultText := by
  cases h with
  | method result gap name =>
    have hstart : ∃ c r, result.write = c :: r ∧ isBlank c = false := by
      obtain ⟨c, r, htext, hc⟩ := result.name.denotes.start
      rw [TypeSpelling.write, htext]
      exact ⟨c, _, rfl, hc⟩
    rw [front, plain, Subject.resultText, Subject.result?, Option.toList_some,
      List.flatMap_singleton]
    exact result.reduces.leads hstart gap
  | special m => exact leads_nil
  | constructor className => exact leads_nil

theorem Heading.denotes (h : Heading) : Denotes h.writtenName h.plain.writtenName := by
  cases h with
  | method result gap name => exact (Subject.method result.plain gap name).denotes_writtenName
  | special m => exact (Subject.special m).denotes_writtenName
  | constructor className =>
    rw [plain, Subject.writtenName, className.text_className]
    exact className.denotes

end Declaration

namespace Rendering

/-- The declaration with the same parts in which no name has type arguments. -/
def plain (r : Rendering) : Declaration where
  lead := r.lead
  modifiers := r.modifiers
  typeParameters := r.typeParameters
  subject := r.heading.plain
  beforeOpen := r.beforeOpen
  parameters :=
    match r.parameters with
    | [] => .none r.inside
    | first :: rest => .some first.plain (rest.map (·.plain))
  throws? := r.throws?
  semicolon? := r.semicolon?
  trail := r.trail

theorem write_eq_writeWith (r : Rendering) :
    r.write = r.plain.writeWith r.heading.front r.heading.writtenName r.parametersText := by
  simp [write, Declaration.writeWith, Declaration.opening, Declaration.ending, plain]

theorem exists_bare_parametersText (r : Rendering) : ∃ b, Bare r.parametersText b ∧
    ∀ m : Margin, respace (b ++ ')' :: m.text) = r.plain.parameters.canonical ++ [')'] := by
  rw [parametersText, plain]
  cases r.parameters with
  | nil => exact ⟨r.inside.text, .of_kept (.margin r.inside), respace_inside r.inside⟩
  | cons first rest =>
    obtain ⟨b, hbare, hspacing⟩ := exists_bare_list ParameterSpelling.fits first rest
    refine ⟨b, hbare, fun m => ?_⟩
    rw [hspacing m, Parameters.canonical, List.flatMap_map]

/-- The types of the parameters of the plain declaration. -/
theorem types_plain (r : Rendering) :
    r.plain.parameters.types = r.parameters.map (·.type.plain.erased) := by
  rw [plain]
  cases r.parameters with
  | nil => rfl
  | cons first rest => simp [Parameters.types, ParameterSpelling.plain]

/-- A rendering shows the structure of its plain declaration. -/
theorem ofText?_eq (r : Rendering) : Signature.ofText? r.write = some r.plain.signature := by
  obtain ⟨b, hbare, hspacing⟩ := r.exists_bare_parametersText
  apply r.plain.ofText?_of_canonical
  rw [r.write_eq_writeWith]
  exact r.plain.canonical_writeWith r.heading.leads r.heading.denotes hbare hspacing

end Rendering

end Disassembly
