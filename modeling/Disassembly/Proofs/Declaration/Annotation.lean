import Disassembly.Proofs.Declaration.Syntax
import Disassembly.Proofs.Signature.Qualifiers
import Mathlib.Tactic

/-!
# Annotations

An annotation is a name behind `@`, with arguments in parentheses or without, and a gap. Where the
arguments hold no closing parenthesis, `dropAnnotations` takes exactly the annotations out of a text
that has no others (`dropAnnotations_annotated`), so they leave no trace in the structure of a
declaration (`ofText?_annotated`).

Arguments that hold a closing parenthesis, as those with annotations or calls in them do, are taken
out up to the first one only. The rest of them stays in the declaration (`ofText?_nestedArguments`).
-/

set_option autoImplicit false

namespace Disassembly.Declaration

open Text Signature

/-! ## Texts with annotations -/

/-- An annotation with the gap behind it. -/
structure Annotation where
  name : Text
  nonempty : name ≠ []
  chars : ∀ c ∈ name, isDottedNameChar c = true
  arguments : Option Text
  flat : ∀ a ∈ arguments, ')' ∉ a
  gap : Gap

namespace Annotation

/-- The arguments in their parentheses. -/
def writeArguments (a : Annotation) : Text :=
  (a.arguments.map fun arguments => '(' :: (arguments ++ [')'])).getD []

theorem writeArguments_none {a : Annotation} (h : a.arguments = none) : a.writeArguments = [] := by
  rw [writeArguments, h]
  rfl

theorem writeArguments_some {a : Annotation} {arguments : Text} (h : a.arguments = some arguments) :
    a.writeArguments = '(' :: (arguments ++ [')']) := by
  rw [writeArguments, h]
  rfl

/-- The text of an annotation. -/
def write (a : Annotation) : Text :=
  '@' :: (a.name ++ (a.writeArguments ++ a.gap.text))

end Annotation

/-- The text has no annotation: behind an `@` stands no name. -/
def AnnotationFree (t : Text) : Prop :=
  ∀ c, ['@', c] <:+: t → isDottedNameChar c = false

/-- The second text is the first one with annotations in front of characters that are not blank. -/
inductive Annotated : Text → Text → Prop where
  | nil : Annotated [] []
  | keep (c : Char) {t t' : Text} (h : Annotated t t') : Annotated (c :: t) (c :: t')
  | insert (a : Annotation) {c : Char} (hc : isBlank c = false) {t t' : Text}
      (h : Annotated (c :: t) t') : Annotated (c :: t) (a.write ++ t')

theorem AnnotationFree.of_infix {t u : Text} (h : AnnotationFree t) (hu : u <:+: t) :
    AnnotationFree u :=
  fun c hc => h c (hc.trans hu)

theorem annotationFree_of_notMem {t : Text} (h : '@' ∉ t) : AnnotationFree t :=
  fun _ hc => absurd (hc.subset List.mem_cons_self) h

/-- An annotated text starts as the text itself does, or with an annotation. -/
theorem Annotated.head? {t t' : Text} (h : Annotated t t') :
    t'.head? = t.head? ∨ t'.head? = some '@' ∧ ∀ c ∈ t.head?, isBlank c = false := by
  cases h with
  | nil => exact Or.inl rfl
  | keep c h => exact Or.inl rfl
  | insert a hc h =>
    refine Or.inr ⟨rfl, ?_⟩
    rintro c ⟨⟩
    exact hc

theorem Annotated.append_left (x : Text) {t t' : Text} (h : Annotated t t') :
    Annotated (x ++ t) (x ++ t') := by
  induction x with
  | nil => exact h
  | cons c x ih => exact .keep c ih

theorem Annotated.refl (t : Text) : Annotated t t := by
  have h := Annotated.append_left t .nil
  rwa [List.append_nil] at h

/-! ## Taking annotations out -/

theorem forward_annotation : annotation.Forward :=
  fun _ _ => rfl

/-- Arguments in parentheses end with the first closing parenthesis. -/
theorem drop_argumentLength {arguments : Text} (h : ')' ∉ arguments) (rest : Text) :
    ('(' :: (arguments ++ ')' :: rest)).drop
      (argumentLength ('(' :: (arguments ++ ')' :: rest))) = rest := by
  have hrun : ∀ c ∈ arguments, (c != ')') = true := by
    intro c hc
    have hne : c ≠ ')' := fun heq => h (heq ▸ hc)
    simpa using hne
  have hclose : ∀ c ∈ (')' :: rest).head?, (c != ')') = false := by
    rintro c ⟨⟩
    rfl
  rw [argumentLength, dropWhile_run hrun hclose, takeWhile_run hrun hclose]
  simp

theorem argumentLength_of_head {t : Text} (h : t.head? ≠ some '(') : argumentLength t = 0 := by
  rw [argumentLength]
  rintro r rfl
  exact h rfl

theorem argumentLength_of_notMem {t : Text} (h : ')' ∉ t) : argumentLength t = 0 := by
  rw [argumentLength.eq_def]
  split
  next r =>
    have hrun : r.dropWhile (· != ')') = [] := by
      refine List.dropWhile_eq_nil_iff.2 fun c hc => ?_
      have hne : c ≠ ')' := fun heq => h (heq ▸ List.mem_cons_of_mem _ hc)
      simpa using hne
    rw [hrun]
    rfl
  next => rfl

theorem drop_length_takeWhile (p : Char → Bool) (t : Text) :
    t.drop (t.takeWhile p).length = t.dropWhile p := by
  have h : (t.takeWhile p ++ t.dropWhile p).drop (t.takeWhile p).length = t.dropWhile p :=
    List.drop_left
  rwa [List.takeWhile_append_dropWhile] at h

/-- What stands behind the arguments of an annotation and the blank characters behind these, in the
text that follows its name. -/
def behindArguments (t : Text) : Text :=
  (t.drop (argumentLength t)).dropWhile isBlank

/-- An annotation goes with its arguments and the blank characters behind it. -/
theorem dropAnnotations_at {name : Text} (hne : name ≠ [])
    (hname : ∀ c ∈ name, isDottedNameChar c = true) {rest : Text}
    (hrest : ∀ c ∈ rest.head?, isDottedNameChar c = false) :
    dropAnnotations ('@' :: (name ++ rest)) = dropAnnotations (behindArguments rest) := by
  have hsome : annotation none ('@' :: (name ++ rest)) = some ⟨name.length + argumentLength rest +
      ((rest.drop (argumentLength rest)).takeWhile isBlank).length, []⟩ := by
    simp [takeWhile_run hname hrest, dropWhile_run hname hrest, hne, annotation]
  rw [dropAnnotations, forward_annotation.substitute_cons_some hsome, List.nil_append,
    Nat.add_assoc, List.drop_length_add_append, ← List.drop_drop, drop_length_takeWhile]
  rfl

/-- An annotation goes as a whole. -/
theorem dropAnnotations_write (a : Annotation) {rest : Text}
    (hrest : ∀ c ∈ rest.head?, isBlank c = false) :
    dropAnnotations (a.write ++ rest) = dropAnnotations rest := by
  obtain ⟨c, m, hgap⟩ := List.exists_cons_of_ne_nil a.gap.nonempty
  have hblank : isBlank c = true := a.gap.blank c (hgap ▸ List.mem_cons_self)
  have hassoc : a.write ++ rest =
      '@' :: (a.name ++ (a.writeArguments ++ (a.gap.text ++ rest))) := by
    unfold Annotation.write
    simp
  rw [hassoc]
  -- the gap ends the name, or the arguments do
  cases harguments : a.arguments with
  | none =>
    have hhead : (a.gap.text ++ rest).head? = some c := by
      rw [hgap]
      rfl
    have hdotted : ∀ d ∈ (a.gap.text ++ rest).head?, isDottedNameChar d = false := by
      intro d hd
      obtain rfl := Option.some.inj (hhead.symm.trans hd)
      exact not_isDottedNameChar_of_isBlank hblank
    have hopen : (a.gap.text ++ rest).head? ≠ some '(' := by
      rw [hhead]
      exact fun h => ne_of_class hblank (by decide) (Option.some.inj h)
    have hwritten := Annotation.writeArguments_none harguments
    rw [hwritten, List.nil_append, dropAnnotations_at a.nonempty a.chars hdotted, behindArguments,
      argumentLength_of_head hopen, List.drop_zero, dropWhile_run a.gap.blank hrest]
  | some arguments =>
    have hwritten : a.writeArguments ++ (a.gap.text ++ rest) =
        '(' :: (arguments ++ ')' :: (a.gap.text ++ rest)) := by
      have hparentheses := Annotation.writeArguments_some harguments
      rw [hparentheses]
      simp
    have hdotted : ∀ d ∈ ('(' :: (arguments ++ ')' :: (a.gap.text ++ rest))).head?,
        isDottedNameChar d = false := by
      rintro d ⟨⟩
      decide
    rw [hwritten, dropAnnotations_at a.nonempty a.chars hdotted, behindArguments,
      drop_argumentLength (a.flat arguments harguments), dropWhile_run a.gap.blank hrest]

/-- What starts with no name is no annotation. -/
theorem annotation_eq_none {c : Char} {t : Text}
    (h : c = '@' → ∀ d ∈ t.head?, isDottedNameChar d = false) :
    annotation none (c :: t) = none := by
  unfold annotation
  split
  next r heq =>
    obtain ⟨rfl, rfl⟩ := List.cons.inj heq
    simp [takeWhile_eq_nil (h rfl)]
  next => rfl

theorem dropAnnotations_cons_of_ne {c : Char} (hc : c ≠ '@') (t : Text) :
    dropAnnotations (c :: t) = c :: dropAnnotations t :=
  forward_annotation.substitute_cons_none (annotation_eq_none fun h => absurd h hc)

theorem dropAnnotations_append {x : Text} (h : '@' ∉ x) (y : Text) :
    dropAnnotations (x ++ y) = x ++ dropAnnotations y := by
  induction x with
  | nil => rfl
  | cons c x ih =>
    rw [List.cons_append, dropAnnotations_cons_of_ne fun hc => h (hc ▸ List.mem_cons_self),
      ih fun hmem => h (List.mem_cons_of_mem c hmem)]
    rfl

/-- Annotations are taken out of a text that has no others. -/
theorem dropAnnotations_annotated {t t' : Text} (hfree : AnnotationFree t) (h : Annotated t t') :
    dropAnnotations t' = t := by
  induction h with
  | nil => rfl
  | @keep c t t' h ih =>
    have hnone : annotation none (c :: t') = none := by
      apply annotation_eq_none
      rintro rfl d hd
      -- behind an `@` of the text stands what stands there in the text, or another `@`
      rcases h.head? with hhead | ⟨hat, -⟩
      · obtain ⟨r, rfl⟩ := List.head?_eq_some_iff.1 (hhead ▸ hd)
        exact hfree d (List.prefix_append ['@', d] r).isInfix
      · obtain rfl := Option.some.inj (hat.symm.trans hd)
        decide
    rw [dropAnnotations, forward_annotation.substitute_cons_none hnone, ← dropAnnotations,
      ih (hfree.of_infix (List.suffix_cons c t).isInfix)]
  | @insert a c hc t t' h ih =>
    have hhead : ∀ d ∈ t'.head?, isBlank d = false := by
      intro d hd
      rcases h.head? with hhead | ⟨hat, -⟩
      · obtain rfl := Option.some.inj (hhead.symm.trans hd)
        exact hc
      · obtain rfl := Option.some.inj (hat.symm.trans hd)
        decide
    rw [dropAnnotations_write a hhead, ih hfree]

theorem dropAnnotations_eq_self {t : Text} (h : '@' ∉ t) : dropAnnotations t = t :=
  dropAnnotations_annotated (annotationFree_of_notMem h) (.refl t)

/-- Annotations leave no trace in the structure of a declaration. Blank characters around the
declaration do not count. -/
theorem ofText?_annotated {d d' : Text} (hfree : AnnotationFree d)
    (h : Annotated (trim d) (trim d')) : ofText? d' = ofText? d := by
  have htrim : AnnotationFree (trim d) := by
    refine hfree.of_infix ?_
    exact (trimRight_isPrefix _).isInfix.trans (List.dropWhile_suffix _).isInfix
  have herase : erase d' = erase d := by
    rw [erase, dropAnnotations_annotated htrim h, erase,
      dropAnnotations_annotated htrim (.refl _)]
  rw [ofText?, canonical, herase]
  rfl

/-- The annotation `@Retry(3)` in front of a line feed. -/
def retry : Annotation where
  name := "Retry".toList
  nonempty := by decide
  chars := by decide
  arguments := some "3".toList
  flat := by decide
  gap := ⟨⟨['\n'], by decide⟩, by decide⟩

/-- The annotation `@a.Nullable` in front of a space and a line feed. -/
def nullable : Annotation where
  name := "a.Nullable".toList
  nonempty := by decide
  chars := by decide
  arguments := none
  flat := by decide
  gap := ⟨⟨[' ', '\n'], by decide⟩, by decide⟩

theorem ofText?_annotated_put :
    AnnotationFree "void put(int key)".toList ∧
      Annotated (trim "void put(int key)".toList)
        (trim " @Retry(3)\nvoid put(@a.Nullable \n@Retry(3)\nint key)".toList) ∧
      ofText? " @Retry(3)\nvoid put(@a.Nullable \n@Retry(3)\nint key)".toList =
        ofText? "void put(int key)".toList := by
  have hfree : AnnotationFree "void put(int key)".toList :=
    annotationFree_of_notMem (by decide)
  have hparameters : Annotated "int key)".toList
      (nullable.write ++ (retry.write ++ "int key)".toList)) :=
    .insert nullable (by decide) (.insert retry (by decide) (.refl _))
  have hannotated : Annotated (trim "void put(int key)".toList)
      (trim " @Retry(3)\nvoid put(@a.Nullable \n@Retry(3)\nint key)".toList) := by
    exact .insert retry (by decide) (hparameters.append_left "void put(".toList)
  exact ⟨hfree, hannotated, ofText?_annotated hfree hannotated⟩

/-- Of arguments that hold a closing parenthesis a part is left over. -/
theorem ofText?_nestedArguments :
    ofText? "void f()".toList = some ⟨"f".toList, [], some "void".toList, []⟩ ∧
      ofText? "@A(b()) void f()".toList = some ⟨"f".toList, [], some ")void".toList, []⟩ := by
  decide +kernel

end Disassembly.Declaration
