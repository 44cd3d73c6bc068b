import Disassembly.Proofs.Declaration.Syntax
import Disassembly.Proofs.Signature.Layout
import Mathlib.Tactic

/-!
# What becomes of the parts of a declaration

On its way to the canonical text a part of a declaration first loses its type arguments, while the
dots of a variable number of arguments become brackets (`Bare`), and then its spacing is settled
(`Settles`). Both are told of a part in front of any rest, so they can be put together: types and
parameters reduce to what `TypeUse.erased` and `Parameter.canonical` say
(`TypeUse.reduces`, `Parameter.reduces`).
-/

set_option autoImplicit false

namespace Disassembly.Declaration

open Text Signature

/-! ## Classes of characters -/

/-- A character that nothing but spacing is about. -/
def isOrdinary (c : Char) : Bool :=
  isPlain c && c != '@' && c != ')' && c != '\x00' && c != '.'

theorem isOrdinary_iff {c : Char} :
    isOrdinary c = true ↔ isPlain c = true ∧ c ≠ '@' ∧ c ≠ ')' ∧ c ≠ '\x00' ∧ c ≠ '.' := by
  simp [isOrdinary, and_assoc]

theorem isOrdinary_of_isBlank {c : Char} (h : isBlank c = true) : isOrdinary c = true := by
  rw [isOrdinary_iff, isPlain_iff]
  exact ⟨⟨ne_of_class h (by decide), ne_of_class h (by decide)⟩, ne_of_class h (by decide),
    ne_of_class h (by decide), ne_of_class h (by decide), ne_of_class h (by decide)⟩

theorem isOrdinary_of_isIdentifierChar {c : Char} (h : isIdentifierChar c = true) :
    isOrdinary c = true := by
  rw [isOrdinary_iff, isPlain_iff]
  exact ⟨⟨ne_of_class h (by decide), ne_of_class h (by decide)⟩, ne_of_class h (by decide),
    ne_of_class h (by decide), ne_of_class h (by decide), ne_of_class h (by decide)⟩

theorem not_isBlank_of_isIdentifierChar {c : Char} (h : isIdentifierChar c = true) :
    isBlank c = false := by
  apply not_isBlank_of_printable
  simp only [isIdentifierChar, Bool.or_eq_true, beq_iff_eq] at h
  rcases h with (h | rfl) | rfl
  · have := isAlphanum_iff.1 h
    omega
  · decide
  · decide

theorem isSolid_of_isIdentifierChar {c : Char} (h : isIdentifierChar c = true) :
    isSolid c = true := by
  rw [isSolid_iff]
  refine ⟨not_isBlank_of_isIdentifierChar h, ?_, ?_⟩
  · rw [Bool.eq_false_iff]
    intro hc
    rcases isPunctuation_iff.1 hc with rfl | rfl | rfl <;> exact absurd h (by decide)
  · rw [Bool.eq_false_iff]
    intro hc
    rcases (by simpa [isBracket] using hc : c = '[' ∨ c = ']') with rfl | rfl <;>
      exact absurd h (by decide)

theorem isNameChar_of_isIdentifierChar {c : Char} (h : isIdentifierChar c = true) :
    isNameChar c = true := by
  have hword : ∀ {d : Char}, d.isAlphanum = true → isWord d = true := by
    intro d hd
    have hlow : d.toNat < 0x80 := by
      have := isAlphanum_iff.1 hd
      omega
    simp [isWord, isAlphanumeric, hlow, hd]
  simp only [isIdentifierChar, Bool.or_eq_true, beq_iff_eq] at h
  rcases h with (h | rfl) | rfl
  · simp [isNameChar, isDottedNameChar, hword h]
  · decide
  · decide

theorem Identifier.exists_cons (i : Identifier) :
    ∃ c r, i.text = c :: r ∧ isIdentifierChar c = true := by
  have hstart := i.start
  cases htext : i.text with
  | nil => simp [htext] at hstart
  | cons c r => exact ⟨c, r, rfl, i.chars c (htext ▸ List.mem_cons_self)⟩

theorem Identifier.ne_nil (i : Identifier) : i.text ≠ [] := by
  obtain ⟨c, r, htext, -⟩ := i.exists_cons
  rw [htext]
  exact List.cons_ne_nil c r

/-! ## Type arguments and dots -/

/-- Neither erasing type arguments nor replacing three dots changes the text. -/
structure Kept (t : Text) : Prop where
  chars : ∀ c ∈ t, isPlain c = true ∧ c ≠ '@' ∧ c ≠ ')' ∧ c ≠ '\x00'
  dots : Rewrites ['.', '.', '.'] ['[', ']'] t t

namespace Kept

theorem append {t t' : Text} (h : Kept t) (h' : Kept t') : Kept (t ++ t') := by
  exact ⟨List.forall_mem_append.2 ⟨h.chars, h'.chars⟩, h.dots.append h'.dots⟩

theorem of_ordinary {t : Text} (h : ∀ c ∈ t, isOrdinary c = true) : Kept t := by
  refine ⟨fun c hc => ?_, rewrites_self_of_head rfl fun hc => ?_⟩
  · obtain ⟨hplain, hat, hclose, hshield, -⟩ := isOrdinary_iff.1 (h c hc)
    exact ⟨hplain, hat, hclose, hshield⟩
  · exact (isOrdinary_iff.1 (h _ hc)).2.2.2.2 rfl

theorem margin (m : Margin) : Kept m.text :=
  .of_ordinary fun c hc => isOrdinary_of_isBlank (m.blank c hc)

theorem identifier (i : Identifier) : Kept i.text :=
  .of_ordinary fun c hc => isOrdinary_of_isIdentifierChar (i.chars c hc)

/-- A single dot is kept. -/
theorem dot {c : Char} {r : Text} (hc : c ≠ '.') (h : Kept (c :: r)) : Kept ('.' :: c :: r) := by
  refine ⟨fun d hd => ?_, h.dots.cons fun rest hstart => ?_⟩
  · rcases List.mem_cons.1 hd with rfl | hd
    · decide
    · exact h.chars d hd
  · rw [List.cons_append, List.cons_prefix_cons, List.cons_append,
      List.cons_prefix_cons] at hstart
    exact hc hstart.2.1.symm

theorem dot_identifier (i : Identifier) : Kept ('.' :: i.text) := by
  obtain ⟨c, r, htext, hc⟩ := i.exists_cons
  rw [htext]
  exact .dot (ne_of_class hc (by decide)) (htext ▸ identifier i)

end Kept

/-- The second text is left of the first one when type arguments are erased and three dots are
replaced. -/
structure Bare (t u : Text) : Prop where
  quiet : ∀ c ∈ t, c ≠ '@' ∧ c ≠ ')'
  generic : ∃ v, Generic t v ∧ Rewrites ['.', '.', '.'] ['[', ']'] v u

namespace Bare

theorem nil : Bare [] [] :=
  ⟨fun _ hc => absurd hc List.not_mem_nil, [], .nil, .nil⟩

theorem append {t u t' u' : Text} (h : Bare t u) (h' : Bare t' u') : Bare (t ++ t') (u ++ u') := by
  obtain ⟨v, hv, hu⟩ := h.generic
  obtain ⟨v', hv', hu'⟩ := h'.generic
  exact ⟨List.forall_mem_append.2 ⟨h.quiet, h'.quiet⟩, v ++ v', hv.append hv', hu.append hu'⟩

theorem flatMap {α : Type} {f g : α → Text} {l : List α} (h : ∀ x ∈ l, Bare (f x) (g x)) :
    Bare (l.flatMap f) (l.flatMap g) := by
  induction l with
  | nil => exact .nil
  | cons x l ih =>
    rw [List.flatMap_cons, List.flatMap_cons]
    exact (h x List.mem_cons_self).append (ih fun y hy => h y (List.mem_cons_of_mem x hy))

theorem of_kept {t : Text} (h : Kept t) : Bare t t := by
  refine ⟨fun c hc => ⟨(h.chars c hc).2.1, (h.chars c hc).2.2.1⟩, t, ?_, h.dots⟩
  exact .of_plain (fun c hc => (h.chars c hc).1) fun hc => (h.chars _ hc).2.2.2 rfl

/-- Type arguments go. -/
theorem clause (c : Clause) : Bare c.text [] := by
  refine ⟨fun d hd => ?_, [], .of_pair c.balanced c.notInit c.notClinit, .nil⟩
  have hcases : d = '<' ∨ d ∈ c.inner ∨ d = '>' := by simpa [Clause.text] using hd
  rcases hcases with rfl | hd | rfl
  · decide
  · exact ⟨(c.chars d hd).1, (c.chars d hd).2.1⟩
  · decide

/-- Three dots become a pair of brackets. -/
theorem ellipsis : Bare ['.', '.', '.'] ['[', ']'] :=
  ⟨by decide, ['.', '.', '.'], .of_plain (by decide) (by decide), rewrites_old (by decide)⟩

end Bare

/-! ## Spacing -/

/-- After any blank characters the text goes on with a solid one. -/
def Opens (t : Text) : Prop :=
  ∃ m c r, t = m ++ c :: r ∧ (∀ d ∈ m, isBlank d = true) ∧ isSolid c = true

theorem Opens.blank_append {m t : Text} (hm : ∀ c ∈ m, isBlank c = true) (h : Opens t) :
    Opens (m ++ t) := by
  obtain ⟨m', c, r, rfl, hm', hc⟩ := h
  exact ⟨m ++ m', c, r, (List.append_assoc _ _ _).symm, List.forall_mem_append.2 ⟨hm, hm'⟩, hc⟩

/-- Behind a word, a gap is one space. -/
theorem respaceAfter_gap_of_opens (g : Gap) {t : Text} (h : Opens t) :
    respaceAfter (g.text ++ t) = ' ' :: respace t := by
  obtain ⟨m, c, r, rfl, hm, hc⟩ := h
  have hblank : ∀ d ∈ g.text ++ m, isBlank d = true := List.forall_mem_append.2 ⟨g.blank, hm⟩
  have hne : g.text ++ m ≠ [] := fun hnil => g.nonempty (List.append_eq_nil_iff.1 hnil).1
  rw [← List.append_assoc, respaceAfter_gap hblank hne hc, respace_blank_append hm,
    respace_cons hc]

/-- The first text is a word or several, and the second one is its canonical spacing. -/
structure Settles (t k : Text) : Prop where
  start : ∃ c r, t = c :: r ∧ isSolid c = true
  respace : ∀ rest, respace (t ++ rest) = k ++ respaceAfter rest

namespace Settles

variable {t k t' k' : Text}

theorem opens (h : Settles t k) (rest : Text) : Opens (t ++ rest) := by
  obtain ⟨c, r, rfl, hc⟩ := h.start
  exact ⟨[], c, r ++ rest, rfl, fun d hd => absurd hd List.not_mem_nil, hc⟩

theorem of_solid {w : Text} (hne : w ≠ []) (h : ∀ c ∈ w, isSolid c = true) : Settles w w := by
  have hafter : ∀ v : Text, (∀ c ∈ v, isSolid c = true) → ∀ rest,
      respaceAfter (v ++ rest) = v ++ respaceAfter rest := by
    intro v hv rest
    induction v with
    | nil => rfl
    | cons c v ih =>
      rw [List.cons_append, respaceAfter_cons (hv c List.mem_cons_self),
        ih fun d hd => hv d (List.mem_cons_of_mem c hd)]
      rfl
  cases w with
  | nil => exact absurd rfl hne
  | cons c r =>
    refine ⟨⟨c, r, rfl, h c List.mem_cons_self⟩, fun rest => ?_⟩
    rw [List.cons_append, respace_cons (h c List.mem_cons_self),
      hafter r fun d hd => h d (List.mem_cons_of_mem c hd)]
    rfl

theorem gap (h : Settles t k) (g : Gap) (h' : Settles t' k') :
    Settles (t ++ g.text ++ t') (k ++ ' ' :: k') := by
  refine ⟨?_, fun rest => ?_⟩
  · obtain ⟨c, r, rfl, hc⟩ := h.start
    exact ⟨c, r ++ g.text ++ t', rfl, hc⟩
  · rw [List.append_assoc, List.append_assoc, h.respace,
      respaceAfter_gap_of_opens g (h'.opens rest), h'.respace]
    simp

theorem brackets (h : Settles t k) (m m' : Margin) :
    Settles (t ++ (m.text ++ '[' :: (m'.text ++ [']']))) (k ++ ['[', ']']) := by
  refine ⟨?_, fun rest => ?_⟩
  · obtain ⟨c, r, rfl, hc⟩ := h.start
    exact ⟨c, _, rfl, hc⟩
  · have hassoc : t ++ (m.text ++ '[' :: (m'.text ++ [']'])) ++ rest =
        t ++ (m.text ++ '[' :: (m'.text ++ ']' :: rest)) := by simp
    rw [hassoc, h.respace, respaceAfter_brackets m.blank m'.blank]
    simp

end Settles

/-! ## Types -/

/-- The first text has the second one as its canonical text. -/
def Reduces (t k : Text) : Prop :=
  ∃ u, Bare t u ∧ Settles u k

namespace Reduces

variable {t k t' k' : Text}

theorem gap (h : Reduces t k) (g : Gap) (h' : Reduces t' k') :
    Reduces (t ++ g.text ++ t') (k ++ ' ' :: k') := by
  obtain ⟨u, hu, hk⟩ := h
  obtain ⟨u', hu', hk'⟩ := h'
  exact ⟨u ++ g.text ++ u', (hu.append (.of_kept (.margin g.toMargin))).append hu', hk.gap g hk'⟩

theorem identifier (i : Identifier) : Reduces i.text i.text :=
  ⟨i.text, .of_kept (.identifier i),
    .of_solid i.ne_nil fun c hc => isSolid_of_isIdentifierChar (i.chars c hc)⟩

theorem dimensions (h : Reduces t k) (d : Dimensions) :
    Reduces (t ++ d.write) (k ++ (List.replicate d.count ['[', ']']).flatten) := by
  cases d with
  | brackets pairs =>
    rw [Dimensions.write, Dimensions.count]
    -- each pair of brackets settles behind what was written so far
    induction pairs generalizing t k with
    | nil => simpa using h
    | cons pair pairs ih =>
      obtain ⟨u, hu, hk⟩ := h
      have hpair : Bare (Dimensions.writePair pair) (Dimensions.writePair pair) := by
        have hopen := (Kept.margin pair.1).append (.of_ordinary (t := ['[']) (by decide))
        have hclose := (Kept.margin pair.2).append (.of_ordinary (t := [']']) (by decide))
        simpa [Dimensions.writePair] using Bare.of_kept (hopen.append hclose)
      have hstep := ih ⟨_, hu.append hpair, hk.brackets pair.1 pair.2⟩
      simpa [List.replicate_succ] using hstep
  | ellipsis before =>
    obtain ⟨u, hu, hk⟩ := h
    refine ⟨u ++ (before.text ++ ['[', ']']), ?_, ?_⟩
    · exact hu.append ((Bare.of_kept (.margin before)).append .ellipsis)
    · exact hk.brackets before ⟨[], by simp⟩

end Reduces

namespace TypeUse

theorem mem_name {t : TypeUse} {c : Char} (h : c ∈ t.name) :
    isIdentifierChar c = true ∨ c = '.' := by
  rw [name, List.mem_append, List.mem_flatMap] at h
  rcases h with h | ⟨s, -, h⟩
  · exact Or.inl (t.first.name.chars c h)
  · rcases List.mem_cons.1 h with rfl | h
    · exact Or.inr rfl
    · exact Or.inl (s.name.chars c h)

theorem name_ne_nil (t : TypeUse) : t.name ≠ [] := by
  rw [name]
  exact fun h => t.first.name.ne_nil (List.append_eq_nil_iff.1 h).1

theorem isSolid_of_mem_name {t : TypeUse} {c : Char} (h : c ∈ t.name) : isSolid c = true := by
  rcases mem_name h with h | rfl
  · exact isSolid_of_isIdentifierChar h
  · decide

theorem bare_segment (s : Segment) : Bare s.write s.name.text := by
  rw [Segment.write]
  cases s.arguments with
  | none => simpa using Bare.of_kept (.identifier s.name)
  | some c => simpa using (Bare.of_kept (.identifier s.name)).append (.clause c)

theorem bare_dot_segment (s : Segment) : Bare ('.' :: s.write) ('.' :: s.name.text) := by
  rw [Segment.write]
  cases s.arguments with
  | none => simpa using Bare.of_kept (.dot_identifier s.name)
  | some c => simpa using (Bare.of_kept (.dot_identifier s.name)).append (.clause c)

/-- A type reduces to the erased one. -/
theorem reduces (t : TypeUse) : Reduces t.write t.erased := by
  have hbare : Bare (t.first.write ++ t.rest.flatMap fun s => '.' :: s.write) t.name :=
    (bare_segment t.first).append (.flatMap fun s _ => bare_dot_segment s)
  have hsettles : Settles t.name t.name :=
    .of_solid t.name_ne_nil fun c => isSolid_of_mem_name
  exact Reduces.dimensions ⟨t.name, hbare, hsettles⟩ t.dimensions

end TypeUse

/-! ## Parameters -/

/-- The canonical text of a parameter. -/
def Parameter.canonical (p : Parameter) : Text :=
  (p.final?.map fun _ => "final ".toList).getD [] ++ p.type.erased ++
    (p.name?.map fun named => ' ' :: named.2.text).getD []

/-- A type with an optional modifier in front and an optional name behind. -/
theorem Reduces.parameter {t k : Text} (h : Reduces t k) (final? : Option Gap)
    (name? : Option (Gap × Identifier)) :
    Reduces
      ((final?.map fun gap => "final".toList ++ gap.text).getD [] ++ t ++
        (name?.map fun named => named.1.text ++ named.2.text).getD [])
      ((final?.map fun _ => "final ".toList).getD [] ++ k ++
        (name?.map fun named => ' ' :: named.2.text).getD []) := by
  -- the word in front of the type is kept like an identifier
  have hfinal : Reduces "final".toList "final".toList :=
    ⟨_, .of_kept (.of_ordinary (by decide)), .of_solid (by decide) (by decide)⟩
  have htype : Reduces ((final?.map fun gap => "final".toList ++ gap.text).getD [] ++ t)
      ((final?.map fun _ => "final ".toList).getD [] ++ k) := by
    cases final? with
    | none => exact h
    | some g => exact hfinal.gap g h
  cases name? with
  | none => simpa using htype
  | some named =>
    have hname := htype.gap named.1 (.identifier named.2)
    simpa [List.append_assoc] using hname

/-- A parameter reduces to its canonical text. -/
theorem Parameter.reduces (p : Parameter) : Reduces p.write p.canonical :=
  p.type.reduces.parameter p.final? p.name?

end Disassembly.Declaration
