import Disassembly.Proofs.Declaration.Annotation
import Disassembly.Proofs.Declaration.Reduction
import Mathlib.Tactic

/-!
# The canonical text of a declaration

The canonical text of a written declaration is made of its modifiers, its erased types and its names
with fixed spacing (`canonical_write`): the clause of thrown types and the semicolon are cut off
behind the parameters (`exists_cut`), type arguments go, and the spacing is settled from left to
right.
-/

set_option autoImplicit false

namespace Disassembly.Declaration

open Text Signature

/-! ## Annotations and thrown types -/

theorem dropThrows_append {x : Text} (hx : ')' ∉ x) (y : Text) :
    dropThrows (x ++ y) = x ++ dropThrows y := by
  induction x with
  | nil => rfl
  | cons c x ih =>
    have hc : c ≠ ')' := fun hc => hx (hc ▸ List.mem_cons_self)
    rw [List.cons_append, dropThrows, if_neg fun hand => hc hand.1,
      ih fun hmem => hx (List.mem_cons_of_mem c hmem)]
    rfl

theorem dropThrows_eq_self {t : Text} (h : ')' ∉ t) : dropThrows t = t := by
  have happend := dropThrows_append h []
  rwa [List.append_nil, show dropThrows [] = [] from rfl, List.append_nil] at happend

theorem not_mem_margin {c : Char} (hc : isBlank c = false) (m : Margin) : c ∉ m.text :=
  fun h => Bool.false_ne_true (hc.symm.trans (m.blank c h))

theorem TypeUse.quiet (t : TypeUse) {c : Char} (hc : c ∈ t.write) : c ≠ '@' ∧ c ≠ ')' := by
  obtain ⟨u, hbare, -⟩ := t.reduces
  exact hbare.quiet c hc

theorem at_notMem_ending (d : Declaration) : '@' ∉ d.ending := by
  have hmargin : ∀ m : Margin, '@' ∉ m.text := not_mem_margin (by decide)
  have htype : ∀ u : TypeUse, '@' ∉ u.write := fun u h => (u.quiet h).1 rfl
  have hthrows : ∀ t : Throws, '@' ∉ t.write := fun t => by
    simp [Throws.write, ThrownType.write, hmargin, htype]
  rw [ending]
  cases d.throws? <;> cases d.semicolon? <;> simp [hmargin, hthrows]

/-- A clause of thrown types is recognized, whatever blank characters are trimmed behind it. -/
theorem startsThrows_trimRight (t : Throws) (rest : Text) :
    startsThrows (trimRight (t.write ++ rest)) = true := by
  have hsplit : ∃ more, t.write ++ rest =
      t.before.text ++ "throw".toList ++ 's' :: (t.gap.text ++ more) := by
    refine ⟨t.first.write ++ t.rest.flatMap ThrownType.write ++ rest, ?_⟩
    simp [Throws.write]
  obtain ⟨more, hsplit⟩ := hsplit
  -- the word ends at the gap behind it, or at the end of the text if the gap is trimmed
  have hword : (trimRight (t.gap.text ++ more)).head?.any isWord = false := by
    cases hc : (trimRight (t.gap.text ++ more)).head? with
    | none => rfl
    | some c =>
      obtain ⟨tail, htail⟩ := trimRight_isPrefix (t.gap.text ++ more)
      have hhead : (t.gap.text ++ more).head? = some c := by
        rw [← htail, List.head?_append, hc]
        rfl
      rw [List.head?_append_of_ne_nil _ t.gap.nonempty] at hhead
      exact not_isWord_of_isBlank (t.gap.blank c (List.mem_of_head? hhead))
  have hthrow : ∀ c ∈ ("throws".toList ++ trimRight (t.gap.text ++ more)).head?,
      isBlank c = false := by
    rintro c ⟨⟩
    decide
  have hleft : trimLeft (trimRight (t.write ++ rest)) =
      "throws".toList ++ trimRight (t.gap.text ++ more) := by
    have hright : trimRight (t.write ++ rest) =
        t.before.text ++ ("throws".toList ++ trimRight (t.gap.text ++ more)) := by
      rw [hsplit, trimRight, dropWhileEnd_append_cons (by decide), ← trimRight]
      simp
    rw [hright, trimLeft, dropWhile_run t.before.blank hthrow]
  have hdrop : ("throws".toList ++ trimRight (t.gap.text ++ more)).drop 6 =
      trimRight (t.gap.text ++ more) := rfl
  rw [startsThrows, hleft, hdrop, List.isPrefixOf_iff_prefix.2 (List.prefix_append _ _), hword]
  rfl

/-! ## What is cut off -/

theorem Modifier.chars (m : Modifier) : m.text ≠ [] ∧ ∀ c ∈ m.text, c.isLower = true := by
  have hall : ∀ w ∈ modifierWords, w ≠ [] ∧ ∀ c ∈ w, c.isLower = true := by decide
  exact hall m.text m.known

theorem Modifier.isIdentifierChar_of_mem {m : Modifier} {c : Char} (h : c ∈ m.text) :
    isIdentifierChar c = true := by
  have hrange := isLower_iff.1 (m.chars.2 c h)
  have halphanum : c.isAlphanum = true := isAlphanum_iff.2 (by omega)
  rw [isIdentifierChar, halphanum]
  rfl

theorem bare_opening (d : Declaration) : Bare d.opening
    (d.modifiers.flatMap (fun m => m.1.text ++ m.2.text) ++
      (d.typeParameters.map fun clause => clause.2.text).getD []) := by
  have hmodifier : ∀ m : Modifier, Kept m.text := fun m =>
    .of_ordinary fun c hc => isOrdinary_of_isIdentifierChar (Modifier.isIdentifierChar_of_mem hc)
  refine (Bare.flatMap fun m _ => ?_).append ?_
  · exact .of_kept ((hmodifier m.1).append (.margin m.2.toMargin))
  · cases d.typeParameters with
    | none => exact .nil
    | some clause => exact (Bare.clause clause.1).append (.of_kept (.margin clause.2.toMargin))

theorem SpecialMethod.text_cases (m : SpecialMethod) : m.text = initName ∨ m.text = clinitName := by
  cases m with
  | init => exact Or.inl rfl
  | clinit => exact Or.inr rfl

/-- The name of a class is kept. -/
theorem kept_className (packages : List Identifier) (i : Identifier) :
    ∃ c r, packages.flatMap (fun p => p.text ++ ['.']) ++ i.text = c :: r ∧ c ≠ '.' ∧
      Kept (c :: r) := by
  induction packages with
  | nil =>
    obtain ⟨c, r, htext, hc⟩ := i.exists_cons
    exact ⟨c, r, htext, ne_of_class hc (by decide), htext ▸ .identifier i⟩
  | cons p packages ih =>
    obtain ⟨c, r, htext, hc⟩ := p.exists_cons
    obtain ⟨d, u, hrest, hd, hkept⟩ := ih
    have hwhole : p.text ++ '.' :: d :: u = (p :: packages).flatMap (fun p => p.text ++ ['.']) ++
        i.text := by
      rw [← hrest]
      simp
    rw [← hwhole, htext]
    have hp : Kept (c :: r) := htext ▸ .identifier p
    exact ⟨c, r ++ '.' :: d :: u, rfl, ne_of_class hc (by decide), hp.append (.dot hd hkept)⟩

/-- The name of a method or class: either nothing of it is touched, or it is the name of a special
method. -/
theorem Subject.writtenName_cases (s : Subject) :
    Kept s.writtenName ∨ s.writtenName = initName ∨ s.writtenName = clinitName := by
  cases s with
  | method result gap name =>
    cases name with
    | ordinary i => exact Or.inl (.identifier i)
    | special m => exact Or.inr m.text_cases
  | special m => exact Or.inr m.text_cases
  | constructor className =>
    obtain ⟨c, r, htext, -, hkept⟩ := kept_className className.packages className.identifier
    left
    rw [Subject.writtenName, ClassName.text, htext]
    exact hkept

theorem Identifier.nameChars (i : Identifier) {c : Char} (hc : c ∈ i.text) :
    isNameChar c = true ∧ isSolid c = true :=
  ⟨isNameChar_of_isIdentifierChar (i.chars c hc), isSolid_of_isIdentifierChar (i.chars c hc)⟩

theorem SpecialMethod.nameChars (m : SpecialMethod) : m.text ≠ [] ∧
    ∀ c ∈ m.text, isNameChar c = true ∧ isSolid c = true := by
  cases m <;> exact ⟨by decide, by decide⟩

/-- A name stands in front of the parameters. -/
theorem Subject.chars (s : Subject) : s.writtenName ≠ [] ∧
    ∀ c ∈ s.writtenName, isNameChar c = true ∧ isSolid c = true := by
  cases s with
  | method result gap name =>
    cases name with
    | ordinary i => exact ⟨i.ne_nil, fun c hc => i.nameChars hc⟩
    | special m => exact m.nameChars
  | special m => exact m.nameChars
  | constructor className =>
    rw [Subject.writtenName, ClassName.text]
    refine ⟨fun h => className.identifier.ne_nil (List.append_eq_nil_iff.1 h).2, fun c hc => ?_⟩
    rcases List.mem_append.1 hc with hc | hc
    · obtain ⟨p, -, hc⟩ := List.mem_flatMap.1 hc
      rcases List.mem_append.1 hc with hc | hc
      · exact p.nameChars hc
      · rw [List.mem_singleton.1 hc]
        decide
    · exact className.identifier.nameChars hc

/-! ## The first character -/

theorem head?_modifiers (ms : List (Modifier × Gap)) :
    ∀ c ∈ (ms.flatMap fun m => m.1.text ++ m.2.text).head?, isBlank c = false := by
  intro c hc
  cases ms with
  | nil => cases hc
  | cons m rest =>
    rw [List.flatMap_cons, List.append_assoc, List.head?_append_of_ne_nil _ m.1.chars.1] at hc
    exact not_isBlank_of_isIdentifierChar
      (Modifier.isIdentifierChar_of_mem (List.mem_of_head? hc))

theorem head?_typeParameters (typeParameters : Option (Clause × Gap)) :
    ∀ c ∈ ((typeParameters.map fun clause => clause.1.text ++ clause.2.text).getD []).head?,
      isBlank c = false := by
  intro c hc
  cases typeParameters with
  | none => cases hc
  | some clause =>
    obtain rfl := Option.some.inj hc
    decide

theorem head?_opening (d : Declaration) : ∀ c ∈ d.opening.head?, isBlank c = false :=
  head?_append (head?_modifiers d.modifiers) (head?_typeParameters d.typeParameters)

/-! ## Modifiers, types and parameters -/

/-- The words in front of the name. -/
def headWords (d : Declaration) : List Text :=
  d.modifiers.map (·.1.text) ++ d.subject.result?.toList

/-- The canonical text in front of the name. -/
def head (d : Declaration) : Text :=
  d.headWords.flatMap (· ++ [' '])

theorem respace_modifiers (ms : List (Modifier × Gap)) {t : Text} (ht : Opens t) :
    Opens (ms.flatMap (fun m => m.1.text ++ m.2.text) ++ t) ∧
      respace (ms.flatMap (fun m => m.1.text ++ m.2.text) ++ t) =
        (ms.map (·.1.text)).flatMap (· ++ [' ']) ++ respace t := by
  induction ms with
  | nil => exact ⟨ht, rfl⟩
  | cons m ms ih =>
    obtain ⟨hopens, hspacing⟩ := ih
    have hword : Settles m.1.text m.1.text := .of_solid m.1.chars.1 fun c hc =>
      isSolid_of_isIdentifierChar (Modifier.isIdentifierChar_of_mem hc)
    have hassoc : (m :: ms).flatMap (fun m => m.1.text ++ m.2.text) ++ t =
        m.1.text ++ (m.2.text ++ (ms.flatMap (fun m => m.1.text ++ m.2.text) ++ t)) := by simp
    refine ⟨hassoc ▸ hword.opens _, ?_⟩
    rw [hassoc, hword.respace, respaceAfter_gap_of_opens m.2 hopens, hspacing]
    simp

/-- The gap behind type parameters is part of the gap in front of them. -/
theorem respace_typeParameters (typeParameters : Option (Clause × Gap)) {t : Text} (ht : Opens t) :
    Opens ((typeParameters.map fun clause => clause.2.text).getD [] ++ t) ∧
      respace ((typeParameters.map fun clause => clause.2.text).getD [] ++ t) = respace t := by
  cases typeParameters with
  | none => exact ⟨ht, rfl⟩
  | some clause => exact ⟨ht.blank_append clause.2.blank, respace_blank_append clause.2.blank t⟩

/-- The first text can stand between the modifiers and the name, where the second one is its
canonical text. -/
structure Leads (t k : Text) : Prop where
  start : ∀ c ∈ t.head?, isBlank c = false
  spacing : ∃ a, Bare t a ∧ ∀ u, Opens u → Opens (a ++ u) ∧ respace (a ++ u) = k ++ respace u

/-- In front of a name a type is followed by a space. -/
theorem Reduces.leads {t k : Text} (h : Reduces t k)
    (hstart : ∃ c r, t = c :: r ∧ isBlank c = false) (gap : Gap) :
    Leads (t ++ gap.text) (k ++ [' ']) := by
  obtain ⟨u, hbare, hsettles⟩ := h
  constructor
  · obtain ⟨c, r, rfl, hc⟩ := hstart
    rintro d ⟨⟩
    exact hc
  · refine ⟨u ++ gap.text, hbare.append (.of_kept (.margin gap.toMargin)), fun v hv => ?_⟩
    rw [List.append_assoc]
    refine ⟨hsettles.opens _, ?_⟩
    rw [hsettles.respace, respaceAfter_gap_of_opens gap hv]
    simp

theorem leads_nil : Leads [] [] := by
  refine ⟨?_, [], .nil, fun u hu => ⟨hu, rfl⟩⟩
  rintro c ⟨⟩

/-- The canonical text between the modifiers and the name. -/
def Subject.resultText (s : Subject) : Text :=
  s.result?.toList.flatMap (· ++ [' '])

theorem Subject.leads_front (s : Subject) : Leads s.front s.resultText := by
  cases s with
  | method result gap name =>
    have hstart : ∃ c r, result.write = c :: r ∧ isBlank c = false := by
      obtain ⟨c, r, htext, hc⟩ := result.first.name.exists_cons
      rw [TypeUse.write, Segment.write, htext]
      exact ⟨c, _, rfl, not_isBlank_of_isIdentifierChar hc⟩
    rw [front, resultText, result?, Option.toList_some, List.flatMap_singleton]
    exact result.reduces.leads hstart gap
  | special m => exact leads_nil
  | constructor className => exact leads_nil

/-- In front of a name, the modifiers and the type of the result are each followed by a space. -/
theorem exists_front (d : Declaration) {f : Text} (hf : Leads f d.subject.resultText) :
    ∃ a, Bare (d.opening ++ f) a ∧ ∀ t, Opens t → respace (a ++ t) = d.head ++ respace t := by
  obtain ⟨a, hbare, hspacing⟩ := hf.spacing
  refine ⟨_, d.bare_opening.append hbare, fun t ht => ?_⟩
  obtain ⟨hopens, hresult⟩ := hspacing t ht
  obtain ⟨hopens', htypes⟩ := respace_typeParameters d.typeParameters hopens
  rw [List.append_assoc, List.append_assoc, (respace_modifiers d.modifiers hopens').2, htypes,
    hresult, head, headWords, List.flatMap_append, List.append_assoc, Subject.resultText]

/-- The canonical text of the parameters. -/
def Parameters.canonical : Parameters → Text
  | none _ => []
  | some first rest =>
    first.parameter.canonical ++ rest.flatMap fun p => ',' :: ' ' :: p.parameter.canonical

/-- In front of a comma or parenthesis the first text has the second one as its canonical text. -/
def Fits (t k : Text) : Prop :=
  ∃ b, Bare t b ∧ ∀ c rest, isPunctuation c = true →
    respace (b ++ c :: rest) = k ++ (punctuation c ++ respace rest)

theorem Reduces.fits {t k : Text} (h : Reduces t k) (before after : Margin) :
    Fits (before.text ++ t ++ after.text) k := by
  obtain ⟨u, hbare, hsettles⟩ := h
  refine ⟨before.text ++ u ++ after.text,
    ((Bare.of_kept (.margin before)).append hbare).append (.of_kept (.margin after)),
    fun c rest hc => ?_⟩
  rw [List.append_assoc, List.append_assoc, respace_blank_append before.blank, hsettles.respace,
    respaceAfter_punctuation after.blank hc]

/-- Texts with commas between them, in front of the closing parenthesis. -/
theorem exists_bare_list {α : Type} {f g : α → Text} (h : ∀ x, Fits (f x) (g x)) (first : α)
    (rest : List α) : ∃ b, Bare (f first ++ rest.flatMap fun x => ',' :: f x) b ∧
      ∀ m : Margin, respace (b ++ ')' :: m.text) =
        g first ++ rest.flatMap (fun x => ',' :: ' ' :: g x) ++ [')'] := by
  have hend : ∀ m : Margin, respace m.text = [] := fun m => respace_blank m.blank
  induction rest generalizing first with
  | nil =>
    obtain ⟨b, hbare, hspacing⟩ := h first
    refine ⟨b, by simpa using hbare, fun m => ?_⟩
    rw [hspacing _ _ (by decide), hend]
    simp [punctuation]
  | cons next rest ih =>
    obtain ⟨b, hbare, hspacing⟩ := h first
    obtain ⟨b', hbare', hspacing'⟩ := ih next
    have hcomma : Bare [','] [','] := .of_kept (.of_ordinary (by decide))
    refine ⟨b ++ ([','] ++ b'), ?_, fun m => ?_⟩
    · simpa using hbare.append (hcomma.append hbare')
    · have hassoc : b ++ ([','] ++ b') ++ ')' :: m.text = b ++ ',' :: (b' ++ ')' :: m.text) := by
        simp
      rw [hassoc, hspacing _ _ (by decide), hspacing' m]
      simp [punctuation]

/-- Nothing but blank characters in front of the closing parenthesis. -/
theorem respace_inside (inside m : Margin) : respace (inside.text ++ ')' :: m.text) = [')'] := by
  rw [respace_punctuation inside.blank (by decide), respace_blank m.blank]
  rfl

theorem Parameters.exists_bare (ps : Parameters) : ∃ b, Bare ps.write b ∧
    ∀ m : Margin, respace (b ++ ')' :: m.text) = ps.canonical ++ [')'] := by
  cases ps with
  | none inside => exact ⟨inside.text, .of_kept (.margin inside), respace_inside inside⟩
  | some first rest =>
    exact exists_bare_list (fun p : Place => p.parameter.reduces.fits p.before p.after) first rest

/-! ## The whole text -/

/-- The text of a declaration with its result, name and parameters written in some other way. -/
def writeWith (d : Declaration) (result name parameters : Text) : Text :=
  d.lead.text ++ (d.opening ++ result ++ name ++ d.beforeOpen.text ++ '(' :: parameters) ++
    ')' :: d.ending

theorem write_eq (d : Declaration) :
    d.write = d.writeWith d.subject.front d.subject.writtenName d.parameters.write := rfl

/-- The first text is a way to write the name that the second text gives: with type arguments, or
as it is if it is the name of a special method. -/
structure Denotes (t u : Text) : Prop where
  start : ∃ c r, t = c :: r ∧ isBlank c = false
  cases : Bare t u ∨ t = u ∧ (u = initName ∨ u = clinitName)

theorem Subject.denotes_writtenName (s : Subject) : Denotes s.writtenName s.writtenName := by
  obtain ⟨hne, hchars⟩ := s.chars
  obtain ⟨c, r, hname⟩ := List.exists_cons_of_ne_nil hne
  have hc : c ∈ s.writtenName := hname ▸ List.mem_cons_self
  exact ⟨⟨c, r, hname, (isSolid_iff.1 (hchars c hc).2).1⟩,
    s.writtenName_cases.imp .of_kept fun h => ⟨rfl, h⟩⟩

theorem Denotes.quiet {t u : Text} (h : Denotes t u) : ∀ c ∈ t, c ≠ '@' ∧ c ≠ ')' := by
  rcases h.cases with h | ⟨rfl, rfl | rfl⟩
  · exact h.quiet
  · decide
  · decide

/-- What stands in front of the end of the parameters: neither an annotation nor a closing
parenthesis, and no blank character at the start. -/
structure IsBody (x : Text) : Prop where
  quiet : ∀ c ∈ x, c ≠ '@' ∧ c ≠ ')'
  start : ∀ c ∈ x.head?, isBlank c = false

theorem isBody (d : Declaration) {f n u p b : Text} (hf : Leads f d.subject.resultText)
    (hname : Denotes n u) (hparameters : Bare p b) :
    IsBody (d.opening ++ f ++ n ++ d.beforeOpen.text ++ '(' :: p) := by
  obtain ⟨a, hfront, -⟩ := d.exists_front hf
  constructor
  · intro c hc
    rw [List.mem_append, List.mem_append, List.mem_append, List.mem_cons] at hc
    rcases hc with ((hc | hc) | hc) | rfl | hc
    · exact hfront.quiet c hc
    · exact hname.quiet c hc
    · exact (Bare.of_kept (.margin d.beforeOpen)).quiet c hc
    · decide
    · exact hparameters.quiet c hc
  · intro c hc
    obtain ⟨e, r, rfl, he⟩ := hname.start
    rw [List.append_assoc, List.append_assoc] at hc
    refine head?_append (head?_append d.head?_opening hf.start) ?_ c hc
    rintro c ⟨⟩
    exact he

section Body

variable {x : Text} (hx : IsBody x)
include hx

/-- Trimming does not reach beyond the parentheses. -/
theorem trim_body (d : Declaration) :
    trim (d.lead.text ++ x ++ ')' :: d.ending) = x ++ ')' :: trimRight d.ending := by
  have hhead : ∀ c ∈ (x ++ ')' :: d.ending).head?, isBlank c = false := by
    refine head?_append hx.start ?_
    rintro c ⟨⟩
    decide
  rw [trim, List.append_assoc, trimLeft, dropWhile_run d.lead.blank hhead, trimRight,
    dropWhileEnd_append_cons (by decide), ← trimRight]

theorem at_notMem_trim_body (d : Declaration) :
    '@' ∉ trim (d.lead.text ++ x ++ ')' :: d.ending) := by
  rw [trim_body hx, List.mem_append, List.mem_cons]
  rintro (h | h | h)
  · exact (hx.quiet '@' h).1 rfl
  · exact absurd h (by decide)
  · exact d.at_notMem_ending ((trimRight_isPrefix _).subset h)

end Body

theorem trimRight_semicolon (before trail : Margin) :
    trimRight (before.text ++ [';'] ++ trail.text) = before.text ++ [';'] := by
  rw [trimRight_append_blank trail.blank, trimRight, dropWhileEnd_append_cons (by decide)]
  rfl

/-- A semicolon is cut off and starts no clause of thrown types. -/
theorem exists_dropEnd_semicolon (x : Text) (before : Margin) : ∃ m : Margin,
    dropEnd (x ++ dropThrows (')' :: (before.text ++ [';']))) = x ++ ')' :: m.text := by
  have hsemicolon : ∀ c ∈ [';'].head?, isBlank c = false := by
    rintro c ⟨⟩
    decide
  have hstarts : startsThrows (before.text ++ [';']) = false := by
    rw [startsThrows, trimLeft, dropWhile_run before.blank hsemicolon]
    decide
  have hclose : ')' ∉ before.text ++ [';'] := by
    rw [List.mem_append, List.mem_singleton]
    rintro (h | h)
    · exact not_mem_margin (by decide) before h
    · exact absurd h (by decide)
  have hthrows : dropThrows (')' :: (before.text ++ [';'])) = ')' :: (before.text ++ [';']) := by
    rw [dropThrows, if_neg (by simp [hstarts]), dropThrows_eq_self hclose]
  have hleft : dropWhileEnd (fun c => c == ';' || c == ' ' || c == '\t') (before.text ++ [';']) <+:
      before.text := by
    rw [dropWhileEnd, List.reverse_append, List.reverse_singleton, List.singleton_append,
      List.dropWhile_cons_of_pos (by decide)]
    exact dropWhileEnd_isPrefix _ before.text
  refine ⟨⟨_, fun c hc => before.blank c (hleft.subset hc)⟩, ?_⟩
  rw [hthrows, dropEnd, dropWhileEnd_append_cons (by decide)]

/-- Behind the parameters only blank characters are left. -/
theorem exists_cut (d : Declaration) {x : Text} (hx : IsBody x) : ∃ m : Margin,
    dropEnd (dropThrows (dropAnnotations (trim (d.lead.text ++ x ++ ')' :: d.ending)))) =
      x ++ ')' :: m.text := by
  have hclose : ')' ∉ x := fun h => (hx.quiet ')' h).2 rfl
  have hnothing : dropEnd (x ++ [')']) = x ++ [')'] := dropWhileEnd_append_cons (by decide) x []
  rw [dropAnnotations_eq_self (at_notMem_trim_body hx d), trim_body hx, dropThrows_append hclose]
  -- the parenthesis of a clause of thrown types is the last character that is kept
  cases hthrows : d.throws? with
  | some t =>
    have hstarts : startsThrows (trimRight d.ending) = true := by
      rw [ending, hthrows, List.append_assoc]
      exact startsThrows_trimRight t _
    rw [dropThrows, if_pos ⟨rfl, hstarts⟩]
    exact ⟨⟨[], by simp⟩, hnothing⟩
  | none =>
    cases hsemicolon : d.semicolon? with
    | none =>
      have hend : trimRight d.ending = [] := by
        rw [ending, hthrows, hsemicolon]
        exact trimRight_append_blank (t := []) d.trail.blank
      rw [hend]
      exact ⟨⟨[], by simp⟩, hnothing⟩
    | some before =>
      have hend : trimRight d.ending = before.text ++ [';'] := by
        rw [ending, hthrows, hsemicolon]
        exact trimRight_semicolon before d.trail
      rw [hend]
      exact exists_dropEnd_semicolon x before

/-- Erasing type arguments and replacing dots leaves the name that is denoted. -/
theorem replace_eraseGenerics {t u n n' t' u' tail : Text} (h : Bare t u) (hname : Denotes n n')
    (h' : Bare t' u') (htail : ∀ c ∈ tail, isPlain c = true ∧ c ≠ '\x00' ∧ c ≠ '.') :
    replace ['.', '.', '.'] ['[', ']'] (eraseGenerics (t ++ n ++ (t' ++ tail))) =
      u ++ n' ++ (u' ++ tail) := by
  obtain ⟨v, hv, hu⟩ := h.generic
  obtain ⟨v', hv', hu'⟩ := h'.generic
  have htailGeneric : Generic tail tail :=
    .of_plain (fun c hc => (htail c hc).1) fun hc => (htail _ hc).2.1 rfl
  have htailDots : Rewrites ['.', '.', '.'] ['[', ']'] tail tail :=
    rewrites_self_of_head rfl fun hc => (htail _ hc).2.2 rfl
  -- the names of special methods are written like bracket pairs, so they have rules of their own
  rcases hname.cases with hname | ⟨rfl, rfl | rfl⟩
  · obtain ⟨w, hw, hdots⟩ := hname.generic
    rw [((hv.append hw).append (hv'.append htailGeneric)).eraseGenerics_eq,
      ((hu.append hdots).append (hu'.append htailDots)).replace_eq]
  · have hdots : Rewrites ['.', '.', '.'] ['[', ']'] initName initName :=
      rewrites_self_of_head rfl (by decide)
    rw [hv.eraseGenerics_init (hv'.append htailGeneric),
      ((hu.append hdots).append (hu'.append htailDots)).replace_eq]
  · have hdots : Rewrites ['.', '.', '.'] ['[', ']'] clinitName clinitName :=
      rewrites_self_of_head rfl (by decide)
    rw [hv.eraseGenerics_clinit (hv'.append htailGeneric),
      ((hu.append hdots).append (hu'.append htailDots)).replace_eq]

/-- The canonical text of a declaration does not depend on how its result and its name are written,
nor on more of its parameters than their canonical text. -/
theorem canonical_writeWith (d : Declaration) {f n p b k : Text}
    (hf : Leads f d.subject.resultText) (hname : Denotes n d.subject.writtenName)
    (hparameters : Bare p b)
    (hspacing : ∀ m : Margin, respace (b ++ ')' :: m.text) = k ++ [')']) :
    canonical .qualified (d.writeWith f n p) =
      d.head ++ d.subject.writtenName ++ '(' :: (k ++ [')']) := by
  obtain ⟨a, hfront, hhead⟩ := d.exists_front hf
  obtain ⟨m, hcut⟩ := d.exists_cut (d.isBody hf hname hparameters)
  have hopen : Kept (d.beforeOpen.text ++ ['(']) :=
    (Kept.margin d.beforeOpen).append (.of_ordinary (by decide))
  have htail : ∀ c ∈ ')' :: m.text, isPlain c = true ∧ c ≠ '\x00' ∧ c ≠ '.' := by
    intro c hc
    rcases List.mem_cons.1 hc with rfl | hc
    · decide
    · obtain ⟨hplain, -, -, hshield, hdot⟩ :=
        isOrdinary_iff.1 (isOrdinary_of_isBlank (m.blank c hc))
      exact ⟨hplain, hshield, hdot⟩
  have hassoc : d.opening ++ f ++ n ++ d.beforeOpen.text ++ '(' :: p ++ ')' :: m.text =
      d.opening ++ f ++ n ++ (d.beforeOpen.text ++ ['('] ++ p ++ ')' :: m.text) := by
    simp
  have hsettles : Settles d.subject.writtenName d.subject.writtenName :=
    .of_solid d.subject.chars.1 fun c hc => (d.subject.chars.2 c hc).2
  have hrest : d.beforeOpen.text ++ ['('] ++ b ++ ')' :: m.text =
      d.beforeOpen.text ++ '(' :: (b ++ ')' :: m.text) := by simp
  rw [canonical, erase, writeWith, hcut, hassoc,
    replace_eraseGenerics hfront hname ((Bare.of_kept hopen).append hparameters) htail,
    List.append_assoc, hhead _ (hsettles.opens _), hsettles.respace, hrest,
    respaceAfter_punctuation d.beforeOpen.blank (by decide), hspacing m]
  simp [punctuation]

/-- The canonical text of a written declaration. -/
theorem canonical_write (d : Declaration) :
    canonical .qualified d.write =
      d.head ++ d.subject.writtenName ++ '(' :: (d.parameters.canonical ++ [')']) := by
  obtain ⟨b, hparameters, hspacing⟩ := d.parameters.exists_bare
  rw [write_eq]
  exact d.canonical_writeWith d.subject.leads_front d.subject.denotes_writtenName hparameters
    hspacing

end Disassembly.Declaration
