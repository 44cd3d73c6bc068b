import Disassembly.Text.Blank
import Disassembly.Text.Word
import Mathlib.Tactic

/-!
# Character classes by code point

The classes of characters as ranges of code points, so that arithmetic decides whether two of them
meet. Blank characters are no word characters (`not_isWord_of_isBlank`): the runs of both classes
are compared by `decide`.
-/

set_option autoImplicit false

namespace Disassembly.Text

theorem isDigit_iff {c : Char} : c.isDigit = true ↔ 48 ≤ c.toNat ∧ c.toNat ≤ 57 :=
  Char.isDigit_iff_toNat

theorem isLower_iff {c : Char} : c.isLower = true ↔ 97 ≤ c.toNat ∧ c.toNat ≤ 122 := by
  have h : c.isLower = (decide (97 ≤ c.val) && decide (c.val ≤ 122)) := rfl
  simp [h, UInt32.le_iff_toNat_le]

theorem isUpper_iff {c : Char} : c.isUpper = true ↔ 65 ≤ c.toNat ∧ c.toNat ≤ 90 := by
  have h : c.isUpper = decide (65 ≤ c.val ∧ c.val ≤ 90) := rfl
  simp [h, UInt32.le_iff_toNat_le]

theorem isAlpha_iff {c : Char} :
    c.isAlpha = true ↔ (65 ≤ c.toNat ∧ c.toNat ≤ 90) ∨ (97 ≤ c.toNat ∧ c.toNat ≤ 122) := by
  have h : c.isAlpha = (c.isUpper || c.isLower) := rfl
  rw [h, Bool.or_eq_true, isUpper_iff, isLower_iff]

theorem isAlphanum_iff {c : Char} :
    c.isAlphanum = true ↔ (65 ≤ c.toNat ∧ c.toNat ≤ 90) ∨ (97 ≤ c.toNat ∧ c.toNat ≤ 122) ∨
      (48 ≤ c.toNat ∧ c.toNat ≤ 57) := by
  have h : c.isAlphanum = (c.isAlpha || c.isDigit) := rfl
  rw [h, Bool.or_eq_true, isAlpha_iff, isDigit_iff, or_assoc]

/-- The code points of the blank characters, as first and last code point of each run. -/
def blankRuns : List (Nat × Nat) :=
  [(0x09, 0x0D), (0x1C, 0x20), (0x85, 0x85), (0xA0, 0xA0), (0x1680, 0x1680), (0x2000, 0x200A),
   (0x2028, 0x2029), (0x202F, 0x202F), (0x205F, 0x205F), (0x3000, 0x3000)]

theorem isBlank_iff {c : Char} :
    isBlank c = true ↔ ∃ run ∈ blankRuns, run.1 ≤ c.toNat ∧ c.toNat ≤ run.2 := by
  simp only [isBlank, blankRuns, Bool.or_eq_true, Bool.and_eq_true, decide_eq_true_eq, beq_iff_eq,
    List.mem_cons, List.not_mem_nil, or_false, exists_eq_or_imp, exists_eq_left]
  omega

/-- No visible character of the basic Latin block is blank. -/
theorem not_isBlank_of_printable {c : Char} (h : 33 ≤ c.toNat ∧ c.toNat ≤ 126) :
    isBlank c = false := by
  rw [Bool.eq_false_iff, Ne, isBlank_iff]
  rintro ⟨run, hrun, hc⟩
  simp only [blankRuns, List.mem_cons, List.not_mem_nil, or_false] at hrun
  rcases hrun with rfl | rfl | rfl | rfl | rfl | rfl | rfl | rfl | rfl | rfl <;>
    simp only at hc <;> omega

theorem not_isBlank_of_isDigit {c : Char} (h : c.isDigit = true) : isBlank c = false := by
  have := isDigit_iff.1 h
  exact not_isBlank_of_printable (by omega)

/-- No run of letters meets a run of blank characters. -/
theorem blankRuns_disjoint_letterRuns :
    ∀ run ∈ letterRuns, ∀ blank ∈ blankRuns, blank.2 < run.1 ∨ run.2 < blank.1 := by
  decide +kernel

/-- A blank character is no word character. -/
theorem not_isWord_of_isBlank {c : Char} (h : isBlank c = true) : isWord c = false := by
  obtain ⟨blank, hblank, hc⟩ := isBlank_iff.1 h
  rw [Bool.eq_false_iff]
  intro hword
  -- an underscore is not blank, so the character would be a letter or digit
  have hunder : c ≠ '_' := by
    rintro rfl
    revert h
    decide
  have halpha : isAlphanumeric c = true := by simpa [isWord, hunder] using hword
  -- below the first run of letters the class is that of plain letters and digits
  by_cases hlow : c.toNat < 0x80
  · have := isAlphanum_iff.1 (by simpa [isAlphanumeric, hlow] using halpha)
    rw [not_isBlank_of_printable (by omega)] at h
    exact Bool.false_ne_true h
  · rw [isAlphanumeric, if_neg hlow] at halpha
    obtain ⟨run, hrun, hin⟩ := List.any_eq_true.1 halpha
    simp only [Bool.and_eq_true, decide_eq_true_eq] at hin
    rcases blankRuns_disjoint_letterRuns run hrun blank hblank with hlt | hlt <;> omega

end Disassembly.Text
