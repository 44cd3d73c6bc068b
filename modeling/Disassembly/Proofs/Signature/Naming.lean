import Disassembly.Proofs.Signature.Qualifiers
import Mathlib.Tactic

/-!
# From one canonical text to the other

`Unqualifies` is one pass over a text, from left to right, that drops the qualifiers of names: where
a dotted name starts at a word boundary, the longest one is taken and its last identifier written;
any other character is kept. The pass has exactly one result, the text without qualifiers
(`unqualifies_iff`), and it leads from the canonical text of a signature with package names to that
without them (`canonical_coherent`). So signatures that agree with their package names agree without
them, and what agrees without them shows a declaration on both sides or on neither.
-/

set_option autoImplicit false

namespace Disassembly.Signature

open Text

/-! ## Qualified names -/

/-- An identifier: a character that one may start with, then word characters and dollar signs. -/
def IsIdentifier (w : Text) : Prop :=
  ∃ c r, w = c :: r ∧ isIdentifierStart c = true ∧ ∀ d ∈ r, isWord d = true ∨ d = '$'

/-- The qualifiers with a dot behind each, and the name. -/
def dotted (qualifiers : List Text) (name : Text) : Text :=
  qualifiers.flatMap (· ++ ['.']) ++ name

/-- A qualified name starts the text, at a boundary of the word behind the given character. -/
structure QualifiedAt (before : Option Char) (t : Text) (qualifiers : List Text) (name : Text) :
    Prop where
  boundary : boundary before t.head? = true
  qualified : qualifiers ≠ []
  identifiers : ∀ w ∈ qualifiers ++ [name], IsIdentifier w
  start : dotted qualifiers name <+: t

/-- One pass over the text behind the given character: the longest qualified name is replaced by its
name, and a character where none starts is kept. -/
inductive Unqualifies : (before : Option Char) → Text → Text → Prop where
  | nil (before : Option Char) : Unqualifies before [] []
  | kept {before : Option Char} {c : Char} {t u : Text}
      (hnone : ∀ qualifiers name, ¬QualifiedAt before (c :: t) qualifiers name)
      (h : Unqualifies (some c) t u) : Unqualifies before (c :: t) (c :: u)
  | dropped {before : Option Char} {qualifiers : List Text} {name t u : Text}
      (hname : QualifiedAt before (dotted qualifiers name ++ t) qualifiers name)
      (hlongest : ∀ qualifiers' name',
        QualifiedAt before (dotted qualifiers name ++ t) qualifiers' name' →
          (dotted qualifiers' name').length ≤ (dotted qualifiers name).length)
      (h : Unqualifies (dotted qualifiers name).getLast? t u) :
      Unqualifies before (dotted qualifiers name ++ t) (name ++ u)

/-! ## Dots and identifiers -/

theorem IsIdentifier.ne_nil {w : Text} (h : IsIdentifier w) : w ≠ [] := by
  obtain ⟨c, r, rfl, -, -⟩ := h
  exact List.cons_ne_nil c r

theorem isWord_or_eq_of_isIdentifierStart {c : Char} (h : isIdentifierStart c = true) :
    isWord c = true ∨ c = '$' := by
  simp only [isIdentifierStart, Bool.or_eq_true, beq_iff_eq] at h
  rcases h with (h | rfl) | rfl
  · left
    have halpha := isAlpha_iff.1 h
    have hlow : c.toNat < 0x80 := by omega
    have hplain : c.isAlphanum = true := isAlphanum_iff.2 (by omega)
    simp [isWord, isAlphanumeric, hlow, hplain]
  · exact Or.inl (by decide)
  · exact Or.inr rfl

theorem IsIdentifier.chars {w : Text} (h : IsIdentifier w) {c : Char} (hc : c ∈ w) :
    isWord c = true ∨ c = '$' := by
  obtain ⟨d, r, rfl, hd, hr⟩ := h
  rcases List.mem_cons.1 hc with rfl | hc
  · exact isWord_or_eq_of_isIdentifierStart hd
  · exact hr c hc

theorem IsIdentifier.dot_notMem {w : Text} (h : IsIdentifier w) : '.' ∉ w := by
  intro hdot
  rcases h.chars hdot with hc | hc
  · exact absurd hc (by decide)
  · exact absurd hc (by decide)

theorem isDottedNameChar_of_mem_dotted {qualifiers : List Text} {name : Text}
    (h : ∀ w ∈ qualifiers ++ [name], IsIdentifier w) {c : Char} (hc : c ∈ dotted qualifiers name) :
    isDottedNameChar c = true := by
  have hidentifier : ∀ w ∈ qualifiers ++ [name], c ∈ w → isDottedNameChar c = true := by
    intro w hw hcw
    rcases (h w hw).chars hcw with hword | rfl
    · simp [isDottedNameChar, hword]
    · decide
  simp only [dotted, List.mem_append, List.mem_flatMap, List.mem_singleton] at hc
  rcases hc with ⟨w, hw, hcw | rfl⟩ | hcw
  · exact hidentifier w (List.mem_append_left _ hw) hcw
  · decide
  · exact hidentifier name (by simp) hcw

theorem dotted_eq_intercalate (qualifiers : List Text) (name : Text) :
    dotted qualifiers name = ['.'].intercalate (qualifiers ++ [name]) := by
  rw [intercalate_append_cons, List.intercalate_singleton, dotted]

/-- Splitting at the dots gives the qualifiers and splits what follows them. -/
theorem splitOn_dotted {qualifiers : List Text} (h : ∀ w ∈ qualifiers, '.' ∉ w) (t : Text) :
    (dotted qualifiers t).splitOn '.' = qualifiers ++ t.splitOn '.' := by
  induction qualifiers with
  | nil => rfl
  | cons w rest ih =>
    have hcons : dotted (w :: rest) t = w ++ '.' :: dotted rest t := by simp [dotted]
    rw [List.forall_mem_cons] at h
    rw [hcons, List.splitOn_append_cons_self_of_not_mem h.1, ih h.2]
    rfl

/-- The pieces of a qualified name between its dots. -/
theorem splitOn_dotted_identifiers {qualifiers : List Text} {name : Text}
    (h : ∀ w ∈ qualifiers ++ [name], IsIdentifier w) :
    (dotted qualifiers name).splitOn '.' = qualifiers ++ [name] := by
  rw [splitOn_dotted fun w hw => (h w (List.mem_append_left _ hw)).dot_notMem,
    List.splitOn_eq_singleton (h name (by simp)).dot_notMem]

/-- Characters other than the dot join the first piece of what follows them. -/
theorem exists_splitOn_append {name : Text} (h : '.' ∉ name) (t : Text) :
    ∃ more others, (name ++ t).splitOn '.' = (name ++ more) :: others := by
  by_cases hdot : '.' ∈ t
  · obtain ⟨more, rest, rfl, hmore⟩ := List.eq_append_cons_of_mem hdot
    refine ⟨more, rest.splitOn '.', ?_⟩
    rw [← List.append_assoc, List.splitOn_append_cons_self_of_not_mem (by simp [h, hmore])]
  · exact ⟨t, [], List.splitOn_eq_singleton (by simp [h, hdot])⟩

/-! ## The longest qualified name -/

theorem isIdentifier_of_mem_leadingIdentifiers {t w : Text} (h : w ∈ leadingIdentifiers t) :
    IsIdentifier w := by
  have hstart : w.head?.any isIdentifierStart = true :=
    List.mem_takeWhile_imp (p := fun s : Text => s.head?.any isIdentifierStart) h
  have hpiece := (List.takeWhile_prefix _).subset h
  cases w with
  | nil => exact absurd hstart (by decide)
  | cons c r =>
    refine ⟨c, r, rfl, hstart, fun d hd => ?_⟩
    obtain ⟨hrun, hne⟩ := mem_of_mem_splitOn hpiece (List.mem_cons_of_mem c hd)
    have hdotted := List.mem_takeWhile_imp hrun
    simpa [isDottedNameChar, hne] using hdotted

/-- A qualified name at the start of a text consists of its leading identifiers, of which the last
one that it has may be cut short. -/
theorem leadingIdentifiers_of_dotted {qualifiers : List Text} {name t : Text}
    (h : ∀ w ∈ qualifiers ++ [name], IsIdentifier w) (hstart : dotted qualifiers name <+: t) :
    ∃ more others, leadingIdentifiers t = qualifiers ++ (name ++ more) :: others := by
  obtain ⟨rest, rfl⟩ := hstart
  have hidentifier : ∀ w ∈ qualifiers ++ [name], w.head?.any isIdentifierStart = true := by
    intro w hw
    obtain ⟨c, r, rfl, hc, -⟩ := h w hw
    exact hc
  have hname : IsIdentifier name := h name (by simp)
  have hpieces : ((dotted qualifiers name ++ rest).takeWhile isDottedNameChar).splitOn '.' =
      qualifiers ++ (name ++ rest.takeWhile isDottedNameChar).splitOn '.' := by
    have hassoc : dotted qualifiers name ++ rest.takeWhile isDottedNameChar =
        dotted qualifiers (name ++ rest.takeWhile isDottedNameChar) := by simp [dotted]
    rw [List.takeWhile_append_of_pos fun c hc => isDottedNameChar_of_mem_dotted h hc, hassoc,
      splitOn_dotted fun w hw => (h w (List.mem_append_left _ hw)).dot_notMem]
  obtain ⟨more, others, hsplit⟩ :=
    exists_splitOn_append hname.dot_notMem (rest.takeWhile isDottedNameChar)
  have hlast : (name ++ more).head?.any isIdentifierStart = true := by
    rw [List.head?_append_of_ne_nil _ hname.ne_nil]
    exact hidentifier name (by simp)
  refine ⟨more, others.takeWhile fun s => s.head?.any isIdentifierStart, ?_⟩
  rw [leadingIdentifiers, hpieces, hsplit,
    List.takeWhile_append_of_pos fun w hw => hidentifier w (List.mem_append_left _ hw),
    List.takeWhile_cons, if_pos hlast]

/-- No qualified name at the start of a text is longer than its leading identifiers, of which there
are at least two if there is any qualified name. -/
theorem dotted_isPrefix_leadingIdentifiers {qualifiers : List Text} {name t : Text}
    (hqualified : qualifiers ≠ []) (h : ∀ w ∈ qualifiers ++ [name], IsIdentifier w)
    (hstart : dotted qualifiers name <+: t) :
    2 ≤ (leadingIdentifiers t).length ∧
      dotted qualifiers name <+: ['.'].intercalate (leadingIdentifiers t) := by
  obtain ⟨more, others, hleading⟩ := leadingIdentifiers_of_dotted h hstart
  have hpos := List.length_pos_of_ne_nil hqualified
  refine ⟨by rw [hleading, List.length_append, List.length_cons]; omega, ?_⟩
  have hfew : qualifiers ++ [name ++ more] <+: leadingIdentifiers t := by
    rw [hleading]
    exact ⟨others, by simp⟩
  have hcut : dotted qualifiers name <+: dotted qualifiers (name ++ more) := ⟨more, by simp [dotted]⟩
  refine hcut.trans ?_
  rw [dotted_eq_intercalate]
  exact intercalate_isPrefix hfew

/-- The leading identifiers, if there are two of them at a boundary, make up a qualified name. -/
theorem exists_qualifiedAt {before : Option Char} {t : Text}
    (hboundary : boundary before t.head? = true) (hlength : 2 ≤ (leadingIdentifiers t).length) :
    ∃ qualifiers name, leadingIdentifiers t = qualifiers ++ [name] ∧
      QualifiedAt before t qualifiers name := by
  rcases List.eq_nil_or_concat (leadingIdentifiers t) with hnil | ⟨qualifiers, name, hsplit⟩
  · rw [hnil] at hlength
    exact absurd hlength (by decide)
  · rw [List.concat_eq_append] at hsplit
    refine ⟨qualifiers, name, hsplit, hboundary, ?_, ?_, ?_⟩
    · rintro rfl
      rw [hsplit] at hlength
      exact absurd hlength (by simp)
    · rw [← hsplit]
      exact fun w => isIdentifier_of_mem_leadingIdentifiers
    · rw [dotted_eq_intercalate, ← hsplit]
      exact (intercalate_leadingIdentifiers t).trans (List.takeWhile_prefix _)

/-- Nothing is found where no qualified name starts. -/
theorem qualifiedName_eq_none_iff {before : Option Char} {t : Text} :
    qualifiedName before t = none ↔ ∀ qualifiers name, ¬QualifiedAt before t qualifiers name := by
  rw [qualifiedName]
  constructor
  · intro h qualifiers name hname
    obtain ⟨hlength, -⟩ :=
      dotted_isPrefix_leadingIdentifiers hname.qualified hname.identifiers hname.start
    simp [hname.boundary, hlength] at h
  · intro h
    apply if_neg
    intro hcond
    obtain ⟨hboundary, hlength⟩ := Bool.and_eq_true_iff.1 hcond
    obtain ⟨qualifiers, name, -, hname⟩ := exists_qualifiedAt hboundary (by simpa using hlength)
    exact h qualifiers name hname

/-- What is found is the longest qualified name. -/
theorem qualifiedName_eq_some_iff {before : Option Char} {t : Text} {m : Match} :
    qualifiedName before t = some m ↔ ∃ qualifiers name, QualifiedAt before t qualifiers name ∧
      (∀ qualifiers' name', QualifiedAt before t qualifiers' name' →
        (dotted qualifiers' name').length ≤ (dotted qualifiers name).length) ∧
      m = ⟨(dotted qualifiers name).length - 1, name⟩ := by
  have hlongest : ∀ qualifiers name, QualifiedAt before t qualifiers name →
      2 ≤ (leadingIdentifiers t).length ∧
        dotted qualifiers name <+: ['.'].intercalate (leadingIdentifiers t) :=
    fun qualifiers name h =>
      dotted_isPrefix_leadingIdentifiers h.qualified h.identifiers h.start
  constructor
  · intro h
    rw [qualifiedName] at h
    split at h
    next hcond =>
      obtain ⟨hboundary, hlength⟩ := Bool.and_eq_true_iff.1 hcond
      obtain ⟨qualifiers, name, hsplit, hname⟩ :=
        exists_qualifiedAt hboundary (by simpa using hlength)
      refine ⟨qualifiers, name, hname, fun qualifiers' name' hname' => ?_, ?_⟩
      · rw [dotted_eq_intercalate qualifiers, ← hsplit]
        exact (hlongest qualifiers' name' hname').2.length_le
      · rw [← Option.some.inj h, hsplit, ← dotted_eq_intercalate]
        simp
    next => cases h
  · rintro ⟨qualifiers, name, hname, hmost, rfl⟩
    obtain ⟨hlength, hprefix⟩ := hlongest qualifiers name hname
    obtain ⟨qualifiers', name', hsplit, hname'⟩ := exists_qualifiedAt hname.boundary hlength
    -- both are longest, so they are the same text, and its pieces between the dots are the same
    rw [hsplit, ← dotted_eq_intercalate] at hprefix
    have hsame := hprefix.eq_of_length (Nat.le_antisymm hprefix.length_le (hmost _ _ hname'))
    have hpieces : qualifiers ++ [name] = qualifiers' ++ [name'] := by
      rw [← splitOn_dotted_identifiers hname.identifiers,
        ← splitOn_dotted_identifiers hname'.identifiers, hsame]
    rw [qualifiedName, if_pos (by simp [hname.boundary, hlength]), hsplit, ← hpieces,
      ← dotted_eq_intercalate]
    simp

/-! ## The pass -/

theorem dotted_ne_nil {qualifiers : List Text} {name : Text} (h : qualifiers ≠ []) :
    dotted qualifiers name ≠ [] := by
  obtain ⟨w, rest, rfl⟩ := List.exists_cons_of_ne_nil h
  simp [dotted]

/-- The pass has one result, the text without qualifiers. -/
theorem unqualifies_iff {before : Option Char} {t u : Text} :
    Unqualifies before t u ↔ u = substituteFrom qualifiedName before 0 t := by
  constructor
  · intro h
    induction h with
    | nil before => rfl
    | kept hnone _ ih => rw [substituteFrom_cons_none (qualifiedName_eq_none_iff.2 hnone), ih]
    | dropped hname hlongest _ ih =>
      have hm := qualifiedName_eq_some_iff.2 ⟨_, _, hname, hlongest, rfl⟩
      rw [substituteFrom_match (dotted_ne_nil hname.qualified) hm, ih]
  · rintro rfl
    -- the pass goes on behind a character or behind a name, where the text is shorter
    induction hn : t.length using Nat.strong_induction_on generalizing before t with
    | h n ih =>
      cases t with
      | nil =>
        rw [substituteFrom_nil]
        exact .nil before
      | cons c r =>
        cases hm : qualifiedName before (c :: r) with
        | none =>
          rw [substituteFrom_cons_none hm]
          exact .kept (qualifiedName_eq_none_iff.1 hm) (ih r.length (by simp [← hn]) rfl)
        | some m =>
          obtain ⟨qualifiers, name, hname, hlongest, rfl⟩ := qualifiedName_eq_some_iff.1 hm
          obtain ⟨rest, hrest⟩ := hname.start
          have hne : dotted qualifiers name ≠ [] := dotted_ne_nil hname.qualified
          have hlt : rest.length < n := by
            have hpos := List.length_pos_of_ne_nil hne
            rw [← hn, ← hrest, List.length_append]
            omega
          rw [← hrest] at hm hname hlongest ⊢
          rw [substituteFrom_match hne hm]
          exact .dropped hname hlongest (ih rest.length hlt rfl)

/-- The two canonical texts are coherent: a pass that drops qualifiers leads from one to the other
and nowhere else. Signatures with the same qualified text have the same simple text and show the
same declaration, and if the simple texts are the same, both show a declaration or neither does. -/
theorem canonical_coherent :
    (∀ s u, canonical .simple s = u ↔ Unqualifies none (canonical .qualified s) u) ∧
    ∀ a b, (canonical .qualified a = canonical .qualified b →
        canonical .simple a = canonical .simple b ∧ ofText? a = ofText? b) ∧
      (canonical .simple a = canonical .simple b →
        ((ofText? a).isSome = true ↔ (ofText? b).isSome = true)) := by
  refine ⟨fun s u => ?_, fun a b => ⟨fun h => ?_, fun h => ?_⟩⟩
  · rw [unqualifies_iff, canonical_simple]
    exact eq_comm
  · rw [canonical_simple, canonical_simple, ofText?, ofText?, h]
    exact ⟨rfl, rfl⟩
  · rw [isSome_ofText?, isSome_ofText?, h]

end Disassembly.Signature
