import Disassembly.Proofs.Instruction.Operand
import Disassembly.Proofs.Numeral.Denotation
import Mathlib.Tactic

/-!
# What a token stands for

Every token stands for an operand: for a reference or a symbol of its own text, or for the integer
that it denotes (`Operand.ofToken_cases`). An operand that some token stands for can be written, and
what is written stands for the same operand again (`Operand.ofToken_stable`). So the spelling of an
integer is lost, its kind and value are not, and a text that only looks like a numeral, because it
has too many digits or an underscore at the wrong place, is kept as a symbol.
-/

set_option autoImplicit false

namespace Disassembly.Operand

open Text

theorem ofToken_eq_numeric_iff {t : Text} {v : Int} :
    ofToken t = .numeric v ↔ Numeral.Denotes t v := by
  rw [← Numeral.read?_eq_some_iff, ofToken]
  split
  · next hmark =>
    -- the mark of a reference is no character of a numeral
    refine iff_of_false (by simp) fun h => ?_
    have hmem := (Numeral.read?_eq_some_iff.1 h).mem (List.mem_of_head? hmark)
    exact absurd hmem (by decide)
  · cases Numeral.read? t <;> simp

/-- A token stands for itself, as a reference or as a symbol, or for the integer that it denotes. -/
theorem ofToken_cases (t : Text) :
    ofToken t = .constant t ∨ ofToken t = .symbol t ∨
      ∃ v, ofToken t = .numeric v ∧ Numeral.Denotes t v := by
  by_cases hmark : t.head? = some '#'
  · exact Or.inl (if_pos hmark)
  · cases hread : Numeral.read? t with
    | none =>
      refine Or.inr (Or.inl ?_)
      rw [ofToken, if_neg hmark, hread]
    | some v =>
      have hdenotes := Numeral.read?_eq_some_iff.1 hread
      exact Or.inr (Or.inr ⟨v, ofToken_eq_numeric_iff.2 hdenotes, hdenotes⟩)

/-- A token with too many digits to be a numeral stands for a symbol, if it is no reference. -/
theorem ofToken_of_digits {t : Text} (hmark : t.head? ≠ some '#')
    (hdigits : Numeral.maxDigits < t.countP isDecimal) : ofToken t = .symbol t := by
  rcases ofToken_cases t with h | h | ⟨v, -, hdenotes⟩
  · rw [ofToken, if_neg hmark] at h
    split at h <;> cases h
  · exact h
  · exact absurd hdenotes.countP_isDecimal_le (Nat.not_le_of_lt hdigits)

/-- Every token stands for an operand that can be written, and what is written stands for the same
operand. An integer with at most `maxDigits` digits is what its plain numeral stands for; the tokens
for an integer are the texts that denote it, and digits beyond that number are a symbol. -/
theorem ofToken_stable :
    (∀ t, (ofToken t).isWritable = true ∧ ofToken (ofToken t).print = ofToken t) ∧
      (∀ v : Int, v.natAbs < 10 ^ Numeral.maxDigits →
        (numeric v).isWritable = true ∧ ofToken (numeric v).print = .numeric v) ∧
      (∀ t v, ofToken t = .numeric v ↔ Numeral.Denotes t v) ∧
      ∀ t : Text, (∀ c ∈ t, isDecimal c = true) → Numeral.maxDigits < t.length →
        ofToken t = .symbol t := by
  have hnumeric : ∀ v : Int, v.natAbs < 10 ^ Numeral.maxDigits →
      (numeric v).isWritable = true ∧ ofToken (numeric v).print = .numeric v :=
    fun v hv => ⟨Numeral.isWritable_iff.2 hv, ofToken_print_numeric hv⟩
  refine ⟨fun t => ?_, hnumeric, fun t v => ofToken_eq_numeric_iff, fun t hdigits hlength => ?_⟩
  · rcases ofToken_cases t with h | h | ⟨v, h, hdenotes⟩
    · rw [h]
      exact ⟨rfl, h⟩
    · rw [h]
      exact ⟨rfl, h⟩
    · -- only integers with few enough digits are read, and these are read back
      rw [h]
      exact hnumeric v (Numeral.natAbs_lt_of_read? (Numeral.read?_eq_some_iff.2 hdenotes))
  · refine ofToken_of_digits ?_ ?_
    · intro hmark
      exact absurd (hdigits '#' (List.mem_of_head? hmark)) (by decide)
    · rwa [List.countP_eq_length.2 hdigits]

/-- The greatest integer that is read, and one digit more than it has, in another script. -/
theorem ofToken_stable_limit :
    ofToken (numeric ((10 ^ Numeral.maxDigits - 1 : Nat) : Int)).print =
        .numeric ((10 ^ Numeral.maxDigits - 1 : Nat) : Int) ∧
      ofToken (List.replicate (Numeral.maxDigits + 1) '٣') =
        .symbol (List.replicate (Numeral.maxDigits + 1) '٣') := by
  refine ⟨(ofToken_stable.2.1 _ ?_).2, ofToken_stable.2.2.2 _ (fun c hc => ?_) ?_⟩
  · rw [Int.natAbs_natCast]
    exact Nat.sub_lt (Nat.pow_pos (by decide)) Nat.one_pos
  · rw [List.eq_of_mem_replicate hc]
    decide
  · rw [List.length_replicate]
    exact Nat.lt_succ_self _

end Disassembly.Operand
