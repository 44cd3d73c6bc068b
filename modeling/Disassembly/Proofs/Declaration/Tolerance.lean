import Disassembly.Proofs.Declaration.Rendering
import Disassembly.Proofs.Signature.Match
import Mathlib.Tactic

/-!
# What the matcher tolerates

A `Method` is what declarations are about: the name of a method or of the class that is constructed,
and the types of the parameters, with all their packages and outer classes. A rendering of it may
leave out any number of these in front of a name (`Rendering.Renders`), and differ in everything
else that a `Rendering` can differ in. Each of two renderings of a method is found as the match of
the other (`Rendering.bestMatch_write`).

Of two renderings of a name one extends the other, since both are ends of the same list of
identifiers (`QualifiedName.extends_total`). So no two names conflict, whichever packages they say.
-/

set_option autoImplicit false

namespace Disassembly

open Text Signature Declaration

/-! ## Methods -/

/-- The type of a parameter: the identifiers of its name, packages and outer classes first, and its
number of dimensions. -/
structure ParameterType where
  identifiers : List Identifier
  depth : Nat

/-- What is called: a method, or the constructor of a class, which is given by its identifiers. -/
inductive Callee where
  | method (name : MethodName)
  | constructor (identifiers : List Identifier)

/-- A method with the types of its parameters. -/
structure Method where
  callee : Callee
  parameters : List ParameterType

namespace Declaration

/-! ## Names -/

namespace QualifiedName

/-- A name with dots everywhere, and one in front. -/
theorem dot_withDots_erased (q : QualifiedName) :
    '.' :: TypeName.withDots q.erased =
      q.identifiers.flatMap fun i => '.' :: TypeName.withDots i.text := by
  have hrest : ∀ links : List Link,
      TypeName.withDots (links.flatMap fun l => l.joint.char :: l.segment.name.text) =
        (links.map (·.segment.name)).flatMap fun i => '.' :: TypeName.withDots i.text := by
    intro links
    induction links with
    | nil => rfl
    | cons l links ih =>
      -- whichever joint it is, a dot is written for it
      rw [List.flatMap_cons, List.map_cons, List.flatMap_cons, ← ih]
      cases l.joint <;> simp [TypeName.withDots, Joint.char]
  rw [identifiers, List.flatMap_cons, ← hrest, erased]
  simp [TypeName.withDots]

theorem extends_of_suffix {q p : QualifiedName} (h : p.identifiers <:+ q.identifiers) :
    TypeName.Extends q.erased p.erased := by
  obtain ⟨front, hfront⟩ := h
  rw [TypeName.Extends, dot_withDots_erased, dot_withDots_erased, ← hfront, List.flatMap_append]
  exact List.suffix_append _ _

/-- Of two ends of one list of identifiers, one extends the other. -/
theorem extends_total {identifiers : List Identifier} {q p : QualifiedName}
    (hq : q.identifiers <:+ identifiers) (hp : p.identifiers <:+ identifiers) :
    TypeName.Extends q.erased p.erased ∨ TypeName.Extends p.erased q.erased :=
  (List.suffix_or_suffix_of_suffix hp hq).imp extends_of_suffix extends_of_suffix

end QualifiedName

/-- What is left of the name of a class is its last part, whichever joint is before it. -/
theorem ClassName.simple_eq (c : ClassName) : c.simple = TypeName.simpleName c.text := by
  have hclass : (fun d => decide ((d != '$') = true ∧ (d != '.') = true)) =
      fun d => !TypeName.isJoint d := by
    funext d
    rw [Bool.eq_iff_iff]
    simp [TypeName.isJoint, and_comm]
  rw [← c.lastPart_text, lastPart, lastPart, TypeName.simpleName, takeWhileEnd, takeWhileEnd,
    takeWhileEnd, List.reverse_reverse, List.takeWhile_takeWhile, hclass]

end Declaration

/-! ## Types -/

/-- The dimensions of a type name are the pairs of square brackets at its end. -/
theorem TypeName.splitDimensions_reverse {name : Text} (h : ']' ∉ name) (n : Nat) :
    splitDimensions (name ++ (List.replicate n ['[', ']']).flatten).reverse = ⟨name, n⟩ := by
  -- a name that does not end with a bracket is left as it is
  have hplain : splitDimensions name.reverse = ⟨name, 0⟩ := by
    have hhead : name.reverse.head? ≠ some ']' := by
      rw [List.head?_reverse]
      exact fun hl => h (List.mem_of_getLast? hl)
    rw [splitDimensions.eq_def]
    split
    next r heq => simp [heq] at hhead
    next => rw [List.reverse_reverse]
  rw [splitDimensions_brackets, hplain, Nat.zero_add]

namespace Declaration

/-- An erased type as a type name. -/
theorem TypeUse.ofText_erased (t : TypeUse) :
    TypeName.ofText t.erased = .ok ⟨t.name, t.dimensions.count⟩ := by
  have hline : '\n' ∉ t.erased := by
    intro h
    rcases mem_erased h with h | h | h | h <;> exact absurd h (by decide)
  have hbracket : ']' ∉ t.name := by
    intro h
    rcases mem_name h with h | h <;> exact absurd h (by decide)
  rw [TypeName.ofText_eq hline, erased, TypeName.splitDimensions_reverse hbracket]

/-- The spelling shows an end of the name of the type, and all its dimensions. -/
structure TypeSpelling.Spells (t : TypeSpelling) (type : ParameterType) : Prop where
  suffix : t.name.identifiers <:+ type.identifiers
  depth : t.depth = type.depth

/-- Two spellings of a type mean the same type. -/
theorem TypeSpelling.Spells.typeScore_eq {t u : TypeSpelling} {type : ParameterType}
    (ht : t.Spells type) (hu : u.Spells type) :
    typeScore t.plain.erased u.plain.erased = .ok TypeName.exactScore := by
  have hextends := QualifiedName.extends_total ht.suffix hu.suffix
  have hdepth : t.depth = u.depth := ht.depth.trans hu.depth.symm
  rw [typeScore, TypeUse.ofText_erased, TypeUse.ofText_erased, plain, plain,
    QualifiedName.name_type, QualifiedName.name_type, QualifiedName.count_dimensions_type,
    QualifiedName.count_dimensions_type]
  exact congrArg Except.ok (TypeName.score_of_extends hdepth hextends)

/-- Two lists of spellings of the same types mean the same types, pair by pair. -/
theorem ParameterSpelling.forall₂_typeScore {ps qs : List ParameterSpelling}
    {types : List ParameterType} (hp : List.Forall₂ (fun p type => p.type.Spells type) ps types)
    (hq : List.Forall₂ (fun q type => q.type.Spells type) qs types) :
    List.Forall₂ (fun p q => ∃ k, 0 < k ∧
      typeScore p.type.plain.erased q.type.plain.erased = .ok k) ps qs := by
  induction hp generalizing qs with
  | nil =>
    cases hq
    exact .nil
  | cons hfirst _ ih =>
    cases hq with
    | cons hfirst' hrest' =>
      exact .cons ⟨TypeName.exactScore, by decide, hfirst.typeScore_eq hfirst'⟩ (ih hrest')

/-! ## Headings -/

/-- The heading has the name of the callee, or an end of the name of its class. -/
inductive Heading.Names : Heading → Callee → Prop where
  | method (result : TypeSpelling) (gap : Gap) (name : MethodName) :
    Names (.method result gap name) (.method name)
  | special (m : SpecialMethod) : Names (.special m) (.method (.special m))
  | constructor {className : QualifiedName} {identifiers : List Identifier}
    (h : className.identifiers <:+ identifiers) :
    Names (.constructor className) (.constructor identifiers)

/-- The name that a heading shows is determined by the callee. -/
theorem Heading.Names.name_eq {h k : Heading} {callee : Callee} (hh : h.Names callee)
    (hk : k.Names callee) : h.plain.name = k.plain.name := by
  cases hh with
  | method result gap name => cases hk <;> rfl
  | special m => cases hk <;> rfl
  | constructor hsuffix =>
    cases hk with
    | constructor hsuffix' =>
      -- both names are ends of the name of the class, so they have the same last part
      rw [plain, plain, Subject.name, Subject.name, ClassName.simple_eq, ClassName.simple_eq,
        QualifiedName.text_className, QualifiedName.text_className]
      rcases QualifiedName.extends_total hsuffix hsuffix' with hextends | hextends
      · exact hextends.simpleName_eq
      · exact hextends.simpleName_eq.symm

end Declaration

/-! ## Renderings of the same method -/

namespace Rendering

/-- The rendering is a way to write the method down. -/
structure Renders (r : Rendering) (m : Method) : Prop where
  heading : r.heading.Names m.callee
  parameters : List.Forall₂ (fun p type => p.type.Spells type) r.parameters m.parameters

section Pair

variable {m : Method} {a b : Rendering} (ha : a.Renders m) (hb : b.Renders m)
include ha hb

theorem Renders.forall₂_types : List.Forall₂ (fun x y => ∃ k, 0 < k ∧ typeScore x y = .ok k)
    a.plain.parameters.types b.plain.parameters.types := by
  rw [types_plain, types_plain, List.forall₂_map_left_iff, List.forall₂_map_right_iff]
  exact ParameterSpelling.forall₂_typeScore ha.parameters hb.parameters

/-- Each of two renderings of a method is found as the match of the other, whatever packages, outer
classes, joints, type arguments, dots, names, thrown types and modifiers they are written with. -/
theorem bestMatch_write : bestMatch a.write [b.write] = .ok (some b.write) := by
  have hname : a.plain.signature.name = b.plain.signature.name := ha.heading.name_eq hb.heading
  obtain ⟨n, hscore⟩ := exists_score_of_forall₂ a.ofText?_eq b.ofText?_eq hname
    (ha.forall₂_types hb)
  exact bestMatch_single (.declared a.ofText?_eq b.ofText?_eq hscore)

end Pair

/-! ## A constructor in two renderings -/

/-- No blank characters. -/
def noMargin : Margin := ⟨[], by decide⟩

/-- One space. -/
def oneSpace : Gap := ⟨⟨[' '], by decide⟩, by decide⟩

def packageName : Identifier := ⟨"util".toList, by decide, by decide, by decide⟩

def outerName : Identifier := ⟨"Map".toList, by decide, by decide, by decide⟩

def nestedName : Identifier := ⟨"Entry".toList, by decide, by decide, by decide⟩

def keyAndValue : Clause :=
  ⟨"K,V".toList, ⟨_, .of_plain (by decide)⟩, by decide, by decide, by decide⟩

/-- The constructor of the nested class with an array of arrays of entries. -/
def entryConstructor : Method where
  callee := .constructor [packageName, outerName, nestedName]
  parameters := [⟨[packageName, outerName, nestedName], 2⟩]

/-- The constructor with nothing left out. -/
def longEntry : Rendering where
  lead := noMargin
  modifiers := [(⟨"public".toList, by decide⟩, oneSpace)]
  typeParameters := none
  heading := .constructor ⟨⟨packageName, none⟩, [⟨.dot, ⟨outerName, some keyAndValue⟩⟩,
    ⟨.dollar, ⟨nestedName, none⟩⟩]⟩
  beforeOpen := noMargin
  inside := noMargin
  parameters := [{
    before := noMargin
    final? := some oneSpace
    type := ⟨⟨⟨outerName, none⟩, [⟨.dot, ⟨nestedName, some keyAndValue⟩⟩]⟩, [(noMargin, noMargin)],
      some noMargin⟩
    name? := some (oneSpace, ⟨"entries".toList, by decide, by decide, by decide⟩)
    after := noMargin }]
  throws? := some ⟨oneSpace.toMargin, oneSpace,
    ⟨⟨⟨"Fault".toList, by decide, by decide, by decide⟩, none⟩, [], .brackets []⟩, []⟩
  semicolon? := some noMargin
  trail := noMargin

/-- The constructor with as little as possible. -/
def shortEntry : Rendering where
  lead := noMargin
  modifiers := []
  typeParameters := none
  heading := .constructor ⟨⟨nestedName, none⟩, []⟩
  beforeOpen := noMargin
  inside := noMargin
  parameters := [{
    before := noMargin
    final? := none
    type := ⟨⟨⟨packageName, none⟩, [⟨.dot, ⟨outerName, none⟩⟩, ⟨.dollar, ⟨nestedName, none⟩⟩]⟩,
      [(noMargin, noMargin), (noMargin, noMargin)], none⟩
    name? := none
    after := noMargin }]
  throws? := none
  semicolon? := none
  trail := noMargin

theorem bestMatch_write_entry :
    longEntry.write =
        "public util.Map<K,V>$Entry(final Map.Entry<K,V>[]... entries) throws Fault;".toList ∧
      shortEntry.write = "Entry(util.Map$Entry[][])".toList ∧
      longEntry.Renders entryConstructor ∧ shortEntry.Renders entryConstructor ∧
      bestMatch longEntry.write [shortEntry.write] = .ok (some shortEntry.write) := by
  have hlong : longEntry.Renders entryConstructor :=
    ⟨.constructor ⟨[], rfl⟩, .cons ⟨⟨[packageName], rfl⟩, rfl⟩ .nil⟩
  have hshort : shortEntry.Renders entryConstructor :=
    ⟨.constructor ⟨[packageName, outerName], rfl⟩, .cons ⟨⟨[], rfl⟩, rfl⟩ .nil⟩
  exact ⟨by decide +kernel, by decide +kernel, hlong, hshort, bestMatch_write hlong hshort⟩

end Rendering

end Disassembly
