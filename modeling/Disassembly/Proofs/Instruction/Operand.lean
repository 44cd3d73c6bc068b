import Disassembly.Instruction.Line
import Disassembly.Proofs.Numeral
import Disassembly.Proofs.Text.Split
import Mathlib.Tactic

/-!
# Canonical operands

The operands that a line can show: integers with few enough digits, and references and symbols that
hold only the characters of one operand and read as what they are. A canonical operand is shown as
a token from which it is read back (`Operand.Canonical.ofToken_print`), and every token stands for a
canonical operand (`Operand.canonical_ofToken`). Tokens in a row, with commas between them and any
number of spaces around the commas, are found again (`InRow.map_trim_splitOn`).
-/

set_option autoImplicit false

namespace Disassembly

open Text

/-! ## Canonical operands -/

/-- A character of one operand, which commas separate from others. -/
def isTokenChar (c : Char) : Bool :=
  isOperandChar c && c != ','

/-- What may stand between two commas of the operands, apart from spaces around it. -/
structure IsToken (t : Text) : Prop where
  nonempty : t ≠ []
  chars : ∀ c ∈ t, isTokenChar c = true
  trimmed : Trimmed t

/-- An operand that its own token stands for. -/
def Operand.Canonical : Operand → Prop
  | .constant reference =>
    reference.head? = some '#' ∧ (∀ c ∈ reference, isTokenChar c = true) ∧
      reference.getLast? ≠ some ' '
  | .numeric value => value.natAbs < 10 ^ Numeral.maxDigits
  | .symbol name =>
    name ≠ [] ∧ (∀ c ∈ name, isTokenChar c = true) ∧ name.head? ≠ some ' ' ∧
      name.getLast? ≠ some ' ' ∧ name.head? ≠ some '#' ∧ Numeral.read? name = none

theorem isOperandChar_iff {c : Char} :
    isOperandChar c = true ↔ (48 ≤ c.toNat ∧ c.toNat ≤ 57) ∨ (97 ≤ c.toNat ∧ c.toNat ≤ 122) ∨
      c = '#' ∨ c = ',' ∨ c = '-' ∨ c = ' ' := by
  simp only [isOperandChar, Bool.or_eq_true, isDigit_iff, isLower_iff, beq_iff_eq, or_assoc]

/-- The only blank character of the operands is the space. -/
theorem eq_space_of_isBlank {c : Char} (hc : isOperandChar c = true) (hblank : isBlank c = true) :
    c = ' ' := by
  by_contra hne
  have hprintable : 33 ≤ c.toNat ∧ c.toNat ≤ 126 := by
    rcases isOperandChar_iff.1 hc with h | h | rfl | rfl | rfl | rfl
    · omega
    · omega
    all_goals first | decide | exact absurd rfl hne
  rw [not_isBlank_of_printable hprintable] at hblank
  exact Bool.false_ne_true hblank

theorem isOperandChar_of_isTokenChar {c : Char} (h : isTokenChar c = true) :
    isOperandChar c = true :=
  (Bool.and_eq_true_iff.1 h).1

theorem ne_comma_of_isTokenChar {c : Char} (h : isTokenChar c = true) : c ≠ ',' := by
  simpa using (Bool.and_eq_true_iff.1 h).2

theorem isToken_of_chars {t : Text} (hne : t ≠ []) (hchars : ∀ c ∈ t, isTokenChar c = true)
    (hhead : t.head? ≠ some ' ') (hlast : t.getLast? ≠ some ' ') : IsToken t := by
  have hblank : ∀ c ∈ t, c ≠ ' ' → isBlank c = false := by
    intro c hc hspace
    rw [Bool.eq_false_iff]
    exact fun h => hspace (eq_space_of_isBlank (isOperandChar_of_isTokenChar (hchars c hc)) h)
  refine ⟨hne, hchars, ?_, ?_⟩
  · intro c hc
    exact hblank c (List.mem_of_mem_head? hc) fun h => hhead (h ▸ hc)
  · intro c hc
    exact hblank c (List.mem_of_mem_getLast? hc) fun h => hlast (h ▸ hc)

namespace Operand

theorem isTokenChar_of_mem_print {v : Int} {c : Char} (h : c ∈ Numeral.print v) :
    isTokenChar c = true := by
  rcases Numeral.mem_print h with h | rfl
  · have hne : c ≠ ',' := by
      rintro rfl
      simp at h
    simp [isTokenChar, isOperandChar, h, hne]
  · decide

/-- A canonical operand is shown as a token. -/
theorem Canonical.isToken_print {o : Operand} (h : o.Canonical) : IsToken o.print := by
  cases o with
  | constant reference =>
    obtain ⟨hhead, hchars, hlast⟩ := h
    -- a reference starts with its mark, so it is not empty and starts with no space
    refine isToken_of_chars ?_ hchars ?_ hlast
    · rintro rfl
      simp at hhead
    · change reference.head? ≠ some ' '
      rw [hhead]
      decide
  | numeric value =>
    have hblank : ∀ c ∈ Numeral.print value, isBlank c = false :=
      fun c hc => Numeral.not_isBlank_of_mem_print hc
    exact ⟨Numeral.print_ne_nil value, fun c hc => isTokenChar_of_mem_print hc,
      fun c hc => hblank c (List.mem_of_mem_head? hc),
      fun c hc => hblank c (List.mem_of_mem_getLast? hc)⟩
  | symbol name =>
    obtain ⟨hne, hchars, hhead, hlast, -, -⟩ := h
    exact isToken_of_chars hne hchars hhead hlast

theorem isToken_of_mem_map_print {operands : List Operand} (h : ∀ o ∈ operands, o.Canonical) :
    ∀ t ∈ operands.map print, IsToken t := by
  intro t ht
  obtain ⟨o, ho, rfl⟩ := List.mem_map.1 ht
  exact (h o ho).isToken_print

/-- An integer with few enough digits is read back from its token. -/
theorem ofToken_print_numeric {v : Int} (h : v.natAbs < 10 ^ Numeral.maxDigits) :
    ofToken (Numeral.print v) = .numeric v := by
  -- a plain numeral does not start with the mark of a reference
  have hhead : (Numeral.print v).head? ≠ some '#' := by
    intro hh
    rcases Numeral.mem_print (List.mem_of_mem_head? hh) with hd | hd
    · simp at hd
    · exact absurd hd (by decide)
  rw [ofToken, if_neg hhead, Numeral.read?_print h]

/-- A canonical operand is read back from its token. -/
theorem Canonical.ofToken_print {o : Operand} (h : o.Canonical) : ofToken o.print = o := by
  cases o with
  | constant reference => exact if_pos h.1
  | numeric value => exact ofToken_print_numeric h
  | symbol name =>
    obtain ⟨-, -, -, -, hhead, hread⟩ := h
    rw [print, ofToken, if_neg hhead, hread]

/-- What a token stands for is canonical. -/
theorem canonical_ofToken {t : Text} (h : IsToken t) : (ofToken t).Canonical := by
  have hhead : t.head? ≠ some ' ' := fun hh => absurd (h.trimmed.1 ' ' hh) (by decide)
  have hlast : t.getLast? ≠ some ' ' := fun hh => absurd (h.trimmed.2 ' ' hh) (by decide)
  -- the kind of the operand is decided by the mark first and by the numeral then
  by_cases hmark : t.head? = some '#'
  · rw [ofToken, if_pos hmark]
    exact ⟨hmark, h.chars, hlast⟩
  · rw [ofToken, if_neg hmark]
    cases hread : Numeral.read? t with
    | some v => exact Numeral.natAbs_lt_of_read? hread
    | none => exact ⟨h.nonempty, h.chars, hhead, hlast, hmark, hread⟩

end Operand

/-! ## Tokens in a row -/

/-- Any number of spaces. -/
def spaces (n : Nat) : Text :=
  List.replicate n ' '

theorem isBlank_of_mem_spaces {n : Nat} : ∀ c ∈ spaces n, isBlank c = true := by
  intro c hc
  rw [List.eq_of_mem_replicate hc]
  decide

theorem isOperandChar_of_mem_spaces {n : Nat} : ∀ c ∈ spaces n, isOperandChar c = true := by
  intro c hc
  rw [List.eq_of_mem_replicate hc]
  decide

/-- Spaces in front of a text do not count for the pieces between its commas. -/
theorem map_trim_splitOn_spaces (n : Nat) (t : Text) :
    ((spaces n ++ t).splitOn ',').map trim = (t.splitOn ',').map trim := by
  induction n with
  | zero => rfl
  | succ n ih =>
    obtain ⟨first, others, hsplit⟩ :=
      List.exists_cons_of_ne_nil (List.splitOn_ne_nil ',' (spaces n ++ t))
    rw [hsplit] at ih
    rw [spaces, List.replicate_succ, List.cons_append, ← spaces,
      List.splitOn_cons_eq_if_modifyHead, if_neg (by decide), hsplit, List.modifyHead_cons,
      List.map_cons, trim_cons_blank (by decide), ← List.map_cons, ih]

/-- Tokens with a comma between two of them, and any number of spaces on either side of it. -/
inductive InRow : List Text → Text → Prop where
  | last (t : Text) : InRow [t] t
  | comma (t : Text) (before behind : Nat) {rest : List Text} {u : Text} (hrest : InRow rest u) :
      InRow (t :: rest) (t ++ (spaces before ++ ',' :: (spaces behind ++ u)))

/-- Tokens joined by a comma and a space are in a row. -/
theorem inRow_intercalate {tokens : List Text} (hne : tokens ≠ []) :
    InRow tokens ([',', ' '].intercalate tokens) := by
  induction tokens with
  | nil => exact absurd rfl hne
  | cons t rest ih =>
    cases rest with
    | nil => exact List.intercalate_singleton ▸ .last t
    | cons u rest =>
      rw [List.intercalate_cons_cons, List.append_assoc]
      exact .comma t 0 1 (ih (List.cons_ne_nil u rest))

namespace InRow

variable {tokens : List Text} {t : Text} (h : InRow tokens t)
include h

theorem ne_nil (htokens : ∀ u ∈ tokens, u ≠ []) : t ≠ [] := by
  cases h with
  | last => exact htokens t List.mem_cons_self
  | comma u before behind hrest =>
    exact List.append_ne_nil_of_left_ne_nil (htokens u List.mem_cons_self) _

theorem isOperandChar_of_mem (htokens : ∀ u ∈ tokens, IsToken u) :
    ∀ c ∈ t, isOperandChar c = true := by
  have htoken : ∀ u, IsToken u → ∀ c ∈ u, isOperandChar c = true :=
    fun u hu c hc => isOperandChar_of_isTokenChar (hu.chars c hc)
  induction h with
  | last t => exact htoken t (htokens t List.mem_cons_self)
  | comma u before behind _ ih =>
    rw [List.forall_mem_cons] at htokens
    rw [List.forall_mem_append, List.forall_mem_append, List.forall_mem_cons,
      List.forall_mem_append]
    exact ⟨htoken u htokens.1, isOperandChar_of_mem_spaces, by decide,
      isOperandChar_of_mem_spaces, ih htokens.2⟩

/-- Tokens in a row begin and end like tokens. -/
theorem trimmed (htokens : ∀ u ∈ tokens, IsToken u) : Trimmed t := by
  induction h with
  | last t => exact (htokens t List.mem_cons_self).trimmed
  | @comma u before behind rest v hrest ih =>
    rw [List.forall_mem_cons] at htokens
    obtain ⟨hu, hothers⟩ := htokens
    have hv : v ≠ [] := hrest.ne_nil fun w hw => (hothers w hw).nonempty
    refine ⟨?_, ?_⟩
    · rw [List.head?_append_of_ne_nil _ hu.nonempty]
      exact hu.trimmed.1
    · -- whatever stands in front of it, the end is that of the last token
      have hassoc : u ++ (spaces before ++ ',' :: (spaces behind ++ v)) =
          (u ++ (spaces before ++ ',' :: spaces behind)) ++ v := by
        simp
      rw [hassoc, List.getLast?_append_of_ne_nil _ hv]
      exact (ih hothers).2

/-- Tokens are found again between the commas. -/
theorem map_trim_splitOn (htokens : ∀ u ∈ tokens, IsToken u) : (t.splitOn ',').map trim = tokens := by
  have hcomma : ∀ u, IsToken u → ',' ∉ u :=
    fun u hu hc => ne_comma_of_isTokenChar (hu.chars ',' hc) rfl
  induction h with
  | last t =>
    have ht := htokens t List.mem_cons_self
    rw [List.splitOn_eq_singleton (hcomma t ht), List.map_singleton, trim_eq_self ht.trimmed]
  | @comma u before behind rest v _ ih =>
    rw [List.forall_mem_cons] at htokens
    obtain ⟨hu, hothers⟩ := htokens
    have hfirst : ',' ∉ u ++ spaces before := by
      rw [List.mem_append, not_or]
      exact ⟨hcomma u hu, fun hc => absurd (List.eq_of_mem_replicate hc) (by decide)⟩
    have hpiece : trim (u ++ spaces before) = u := by
      rw [trim_append_blank isBlank_of_mem_spaces, trim_eq_self hu.trimmed]
    -- the spaces behind a comma belong to the next piece and are trimmed
    rw [← List.append_assoc, List.splitOn_append_cons_self_of_not_mem hfirst, List.map_cons, hpiece,
      map_trim_splitOn_spaces, ih hothers]

end InRow

end Disassembly
