import Disassembly.Proofs.Declaration.Stretch
import Mathlib.Tactic

/-!
# The spacing of array parameters

An array parameter is a type, one or more pairs of square brackets or groups of three dots, and a
name, with blank characters in between. In any declaration two spellings of the parameter show the
same structure if both have a gap in front of the name, or neither has (`ofText?_respaced`): blank
characters before and inside brackets and before dots do not count, nor does the width of the gap,
nor whether a dimension is written with brackets or dots.

The gap itself counts. A name that follows the last bracket or dot directly is read as a part of the
type, also where blank characters stand in front of the bracket (`ofText?_gluedName`).
-/

set_option autoImplicit false

namespace Disassembly.Declaration

open Text Signature

/-! ## Array parameters -/

/-- A name between dots, in any script. -/
structure NamePart where
  text : Text
  nonempty : text ≠ []
  chars : ∀ c ∈ text, isPartChar c = true

/-- A part of the name of a type, with type arguments or without. -/
structure TypePart where
  name : NamePart
  arguments : Option Clause

/-- The text of the type arguments. -/
def TypePart.clause (p : TypePart) : Text :=
  (p.arguments.map Clause.text).getD []

/-- The text of a part. -/
def TypePart.write (p : TypePart) : Text :=
  p.name.text ++ p.clause

/-- The type of the elements of an array. -/
structure ElementType where
  first : TypePart
  rest : List TypePart

/-- The text of a type. -/
def ElementType.write (t : ElementType) : Text :=
  t.first.write ++ t.rest.flatMap fun p => '.' :: p.write

/-- What makes one dimension of an array, with the blank characters before it and in it. -/
inductive Mark where
  | brackets (before inside : Margin)
  | dots (before : Margin)

/-- The text of a mark. -/
def Mark.write : Mark → Text
  | brackets before inside => before.text ++ '[' :: (inside.text ++ [']'])
  | dots before => before.text ++ ['.', '.', '.']

/-- A parameter that is an array and has a name. -/
structure ArrayParameter where
  element : ElementType
  marks : List Mark
  nonempty : marks ≠ []
  gap : Margin
  name : NamePart

namespace ArrayParameter

/-- The text between the type of the elements and the name. -/
def dimensions (a : ArrayParameter) : Text :=
  a.marks.flatMap Mark.write ++ a.gap.text

/-- The text of a parameter. -/
def write (a : ArrayParameter) : Text :=
  a.element.write ++ (a.dimensions ++ a.name.text)

/-- The parameters differ in their spacing only, or in the way in which dimensions are written. Both
have a gap in front of the name, or neither has. -/
structure Respaced (a b : ArrayParameter) : Prop where
  element : a.element = b.element
  count : a.marks.length = b.marks.length
  gap : a.gap.text = [] ↔ b.gap.text = []
  name : a.name = b.name

end ArrayParameter

/-! ## The text between the names -/

theorem isDimensionChar_of_isBlank {c : Char} (h : isBlank c = true) :
    isDimensionChar c = true := by
  rw [isDimensionChar, h]
  rfl

theorem Mark.isDimension (m : Mark) : IsDimension m.write := by
  have hmargin : ∀ b : Margin, ∀ c ∈ b.text, isDimensionChar c = true := fun b c hc =>
    isDimensionChar_of_isBlank (b.blank c hc)
  cases m with
  | brackets before inside =>
    refine ⟨by simp [write], List.forall_mem_append.2 ⟨hmargin before, ?_⟩⟩
    refine List.forall_mem_cons.2 ⟨by decide, ?_⟩
    exact List.forall_mem_append.2 ⟨hmargin inside, by decide⟩
  | dots before =>
    exact ⟨by simp [write], List.forall_mem_append.2 ⟨hmargin before, by decide⟩⟩

theorem ArrayParameter.isDimension (a : ArrayParameter) : IsDimension a.dimensions := by
  obtain ⟨m, rest, hmarks⟩ := List.exists_cons_of_ne_nil a.nonempty
  constructor
  · rw [dimensions, hmarks, List.flatMap_cons]
    simp [m.isDimension.nonempty]
  · refine List.forall_mem_append.2 ⟨fun c hc => ?_, fun c hc =>
      isDimensionChar_of_isBlank (a.gap.blank c hc)⟩
    obtain ⟨m, -, hm⟩ := List.mem_flatMap.1 hc
    exact m.isDimension.chars c hm

/-- The text of a mark with brackets for dots. -/
def Mark.bracketed : Mark → Text
  | brackets before inside => before.text ++ '[' :: (inside.text ++ [']'])
  | dots before => before.text ++ ['[', ']']

/-- The text between the names with brackets for dots. -/
def ArrayParameter.bracketed (a : ArrayParameter) : Text :=
  a.marks.flatMap Mark.bracketed ++ a.gap.text

theorem Mark.rewrites (m : Mark) :
    Rewrites ['.', '.', '.'] ['[', ']'] m.write m.bracketed := by
  have hmargin : ∀ b : Margin, '.' ∉ b.text := not_mem_margin (by decide)
  cases m with
  | brackets before inside =>
    exact rewrites_self_of_head rfl (by simp [write, hmargin])
  | dots before =>
    exact (rewrites_self_of_head rfl (hmargin before)).append (rewrites_old (by decide))

theorem ArrayParameter.rewrites (a : ArrayParameter) :
    Rewrites ['.', '.', '.'] ['[', ']'] a.dimensions a.bracketed := by
  have hmarks : ∀ marks : List Mark, Rewrites ['.', '.', '.'] ['[', ']']
      (marks.flatMap Mark.write) (marks.flatMap Mark.bracketed) := by
    intro marks
    induction marks with
    | nil => exact .nil
    | cons m rest ih =>
      rw [List.flatMap_cons, List.flatMap_cons]
      exact m.rewrites.append ih
  exact (hmarks a.marks).append (rewrites_self_of_head rfl (not_mem_margin (by decide) a.gap))

theorem Mark.respaceAfter (m : Mark) (t : Text) :
    Signature.respaceAfter (m.bracketed ++ t) = '[' :: ']' :: Signature.respaceAfter t := by
  cases m with
  | brackets before inside =>
    have hassoc : before.text ++ '[' :: (inside.text ++ [']']) ++ t =
        before.text ++ '[' :: (inside.text ++ ']' :: t) := by simp
    rw [bracketed, hassoc, respaceAfter_brackets before.blank inside.blank]
  | dots before =>
    have hassoc : before.text ++ ['[', ']'] ++ t = before.text ++ '[' :: ([] ++ ']' :: t) := by simp
    rw [bracketed, hassoc, respaceAfter_brackets before.blank (by simp)]

/-- All that is left of the spacing is the number of dimensions, and whether there is a gap. -/
theorem ArrayParameter.respaceAfter_bracketed (a : ArrayParameter) {d : Char}
    (hd : isPartChar d = true) (y : Text) :
    respaceAfter (a.bracketed ++ d :: y) =
      (List.replicate a.marks.length ['[', ']']).flatten ++
        ((if a.gap.text = [] then [] else [' ']) ++ d :: respaceAfter y) := by
  have hmarks : ∀ (marks : List Mark) t, respaceAfter (marks.flatMap Mark.bracketed ++ t) =
      (List.replicate marks.length ['[', ']']).flatten ++ respaceAfter t := by
    intro marks t
    induction marks with
    | nil => rfl
    | cons m rest ih =>
      rw [List.flatMap_cons, List.append_assoc, m.respaceAfter, ih, List.length_cons,
        List.replicate_succ, List.flatten_cons]
      rfl
  rw [bracketed, List.append_assoc, hmarks]
  by_cases hgap : a.gap.text = []
  · rw [if_pos hgap, hgap, List.nil_append, respaceAfter_cons (isSolid_of_isPartChar hd)]
    rfl
  · rw [if_neg hgap, respaceAfter_gap a.gap.blank hgap (isSolid_of_isPartChar hd)]
    rfl

/-! ## The type of the elements -/

theorem TypePart.generic (p : TypePart) : Generic p.clause [] := by
  rw [clause]
  cases p.arguments with
  | none => exact .nil
  | some c => exact .of_pair c.balanced c.notInit c.notClinit

theorem TypePart.quiet (p : TypePart) : ∀ e ∈ p.write, e ≠ '@' ∧ e ≠ ')' := by
  refine List.forall_mem_append.2 ⟨fun e he => ?_, ?_⟩
  · have hpart := p.name.chars e he
    exact ⟨ne_of_class hpart (by decide), ne_of_class hpart (by decide)⟩
  · rw [clause]
    cases p.arguments with
    | none => exact nofun
    | some c =>
      refine List.forall_mem_append.2 ⟨List.forall_mem_cons.2 ⟨by decide, ?_⟩, by decide⟩
      exact fun e he => ⟨(c.chars e he).1, (c.chars e he).2.1⟩

theorem TypePart.exists_cons (p : TypePart) :
    ∃ c r, p.write = c :: r ∧ isPartChar c = true := by
  obtain ⟨c, r, hname⟩ := List.exists_cons_of_ne_nil p.name.nonempty
  refine ⟨c, r ++ p.clause, ?_, p.name.chars c (hname ▸ List.mem_cons_self)⟩
  rw [write, hname]
  rfl

namespace ElementType

theorem quiet (t : ElementType) : ∀ e ∈ t.write, e ≠ '@' ∧ e ≠ ')' := by
  refine List.forall_mem_append.2 ⟨t.first.quiet, fun e he => ?_⟩
  obtain ⟨p, -, hp⟩ := List.mem_flatMap.1 he
  rcases List.mem_cons.1 hp with rfl | hp
  · decide
  · exact p.quiet e hp

theorem exists_cons (t : ElementType) : ∃ c r, t.write = c :: r ∧ isPartChar c = true := by
  obtain ⟨c, r, hfirst, hc⟩ := t.first.exists_cons
  refine ⟨c, r ++ t.rest.flatMap fun p => '.' :: p.write, ?_, hc⟩
  rw [write, hfirst]
  rfl

/-- A type ends in a name, or in the type arguments behind it. -/
theorem exists_last (t : ElementType) : ∃ front c, ∃ p : TypePart,
    t.write = front ++ c :: p.clause ∧ isPartChar c = true := by
  have hlast : ∃ x, ∃ p : TypePart, t.write = x ++ p.write := by
    rcases List.eq_nil_or_concat t.rest with hrest | ⟨init, p, hrest⟩
    · exact ⟨[], t.first, by simp [write, hrest]⟩
    · exact ⟨t.first.write ++ init.flatMap (fun p => '.' :: p.write) ++ ['.'], p,
        by simp [write, hrest]⟩
  obtain ⟨x, p, ht⟩ := hlast
  obtain ⟨front, c, hname⟩ := (List.eq_nil_or_concat p.name.text).resolve_left p.name.nonempty
  refine ⟨x ++ front, c, p, ?_, p.name.chars c (hname ▸ by simp)⟩
  rw [ht, TypePart.write, hname]
  simp

end ElementType

/-! ## The structure of the declaration -/

/-- In front of the other passes, two spellings give texts that differ between the names only. -/
theorem differIn_dropAnnotations_trim {before : Text}
    (hbefore : ∀ c ∈ before.getLast?, isDottedNameChar c = false ∧ c ≠ '@') (t : ElementType)
    {front w : Text} {c d : Char} (ht : t.write = front ++ c :: w) (hd : isPartChar d = true)
    {p p' : Text} (hp : IsDimension p) (hp' : IsDimension p') (y : Text) :
    DifferIn (stretch c d w p) (stretch c d w p')
      (dropAnnotations (trim (before ++ (t.write ++ (p ++ d :: y)))))
      (dropAnnotations (trim (before ++ (t.write ++ (p' ++ d :: y))))) := by
  obtain ⟨e, r, hcons, he⟩ := t.exists_cons
  have hunannotated : ∀ {p}, IsDimension p → Unannotated (t.write ++ (p ++ [d])) := by
    intro p hp
    refine ⟨by simp, ?_, ?_⟩
    · rw [hcons]
      rintro f ⟨⟩
      exact ⟨not_isBlank_of_isPartChar he, ne_of_class he (by decide)⟩
    · refine List.forall_mem_append.2 ⟨t.quiet, List.forall_mem_append.2 ⟨fun f hf => ?_, ?_⟩⟩
      · exact ⟨ne_of_class (hp.chars f hf) (by decide), ne_of_class (hp.chars f hf) (by decide)⟩
      · rw [List.forall_mem_singleton]
        exact ⟨ne_of_class hd (by decide), ne_of_class hd (by decide)⟩
  have htrim : ∀ p, trim (before ++ (t.write ++ (p ++ d :: y))) =
      trimLeft before ++ (t.write ++ (p ++ [d]) ++ trimRight y) := by
    intro p
    have htrim := trim_append_cons (not_isBlank_of_isPartChar he) (not_isBlank_of_isPartChar hd)
      before (r ++ p) y
    rw [hcons]
    simpa using htrim
  have hleft : ∀ c ∈ (trimLeft before).getLast?, isDottedNameChar c = false ∧ c ≠ '@' :=
    fun c hc => hbefore c (getLast?_of_suffix (List.dropWhile_suffix isBlank) hc)
  have hstretch : ∀ p, t.write ++ (p ++ [d]) = front ++ stretch c d w p := by
    intro p
    rw [ht]
    simp [stretch]
  rw [htrim, htrim]
  have houter := differIn_dropAnnotations (hunannotated hp) (hunannotated hp') (trimLeft before)
    (trimRight y) hleft
  rw [hstretch p, hstretch p'] at houter ⊢
  exact houter.of_append

/-- How an array parameter is spaced does not matter for the structure of a declaration, apart from
the question whether there is a gap in front of its name. Brackets and dots mean the same. -/
theorem ofText?_respaced {a b : ArrayParameter} (h : a.Respaced b) {before : Text}
    (hbefore : ∀ c ∈ before.getLast?, isDottedNameChar c = false ∧ c ≠ '@') (rest : Text) :
    ofText? (before ++ (a.write ++ rest)) = ofText? (before ++ (b.write ++ rest)) := by
  obtain ⟨front, c, p, ht, hc⟩ := a.element.exists_last
  obtain ⟨d, r, hname⟩ := List.exists_cons_of_ne_nil a.name.nonempty
  have hd : isPartChar d = true := a.name.chars d (hname ▸ List.mem_cons_self)
  have hwrite : a.write ++ rest = a.element.write ++ (a.dimensions ++ d :: (r ++ rest)) := by
    rw [ArrayParameter.write, hname]
    simp
  have hwrite' : b.write ++ rest = a.element.write ++ (b.dimensions ++ d :: (r ++ rest)) := by
    rw [ArrayParameter.write, ← h.name, ← h.element, hname]
    simp
  have hclose : ')' ∉ p.clause := fun hmem =>
    (p.quiet ')' (List.mem_append_right _ hmem)).2 rfl
  -- the stretch goes through the passes one by one, in their order
  have herase := differIn_replaceDots hc hd a.rewrites b.rewrites
    (differIn_eraseGenerics hc hd a.isDimension b.isDimension p.generic
      (differIn_dropEnd hd
        (differIn_dropThrows hc hd a.isDimension b.isDimension hclose
          (differIn_dropAnnotations_trim hbefore a.element ht hd a.isDimension b.isDimension
            (r ++ rest)))))
  have hspaced : ∀ y,
      respaceAfter (a.bracketed ++ d :: y) = respaceAfter (b.bracketed ++ d :: y) := by
    intro y
    simp only [ArrayParameter.respaceAfter_bracketed _ hd, h.count, h.gap]
  rw [hwrite, hwrite', ofText?, ofText?, canonical, canonical]
  exact congrArg ofCanonical? (herase.respace_eq hc hspaced)

/-- A parameter with the name `x` whose elements are of type `List<K>`. -/
def lists (marks : List Mark) (nonempty : marks ≠ []) (gap : Margin) : ArrayParameter where
  element := ⟨⟨⟨"List".toList, by decide, by decide⟩,
    some ⟨['K'], ⟨['K'], .of_plain (by decide)⟩, by decide, by decide, by decide⟩⟩, []⟩
  marks := marks
  nonempty := nonempty
  gap := gap
  name := ⟨['x'], by decide, by decide⟩

theorem ofText?_respaced_lists :
    (lists [.brackets ⟨[], by simp⟩ ⟨[], by simp⟩] (by simp) ⟨[' '], by decide⟩).Respaced
        (lists [.dots ⟨[' '], by decide⟩] (by simp) ⟨['\t', ' '], by decide⟩) ∧
      (∀ c ∈ "void f(int n, ".toList.getLast?, isDottedNameChar c = false ∧ c ≠ '@') ∧
      ofText? "void f(int n, List<K>[] x)".toList =
        ofText? "void f(int n, List<K> ...\t x)".toList := by
  have hrespaced :
      (lists [.brackets ⟨[], by simp⟩ ⟨[], by simp⟩] (by simp) ⟨[' '], by decide⟩).Respaced
        (lists [.dots ⟨[' '], by decide⟩] (by simp) ⟨['\t', ' '], by decide⟩) :=
    ⟨rfl, rfl, by simp [lists], rfl⟩
  have hbefore : ∀ c ∈ "void f(int n, ".toList.getLast?, isDottedNameChar c = false ∧ c ≠ '@' := by
    rintro c ⟨⟩
    decide
  exact ⟨hrespaced, hbefore, ofText?_respaced hrespaced hbefore ")".toList⟩

/-- A name that follows a bracket directly is read as a part of the type. -/
theorem ofText?_gluedName :
    ofText? "void f(int[] x)".toList =
        some ⟨"f".toList, ["int[]".toList], some "void".toList, []⟩ ∧
      ofText? "void f(int []x)".toList =
        some ⟨"f".toList, ["int[]x".toList], some "void".toList, []⟩ := by
  decide +kernel

end Disassembly.Declaration
