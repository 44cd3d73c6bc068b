import Disassembly.Proofs.Instruction.Line
import Disassembly.Proofs.Text.Line
import Disassembly.Platform.Standard
import Disassembly.Render
import Mathlib.Tactic

/-!
# Printing and reading listings

The text of a listing that was read shows its instructions and nothing else: read again, it gives
the same instructions and no skipped line (`read_render_text`). What carries this is that only
canonical instructions are read, that the lines of canonical instructions are found again in the
text, and that each of these lines is read back.
-/

set_option autoImplicit false

namespace Disassembly

open Text

namespace Instruction

theorem le_toNat_of_mem_mnemonic (o : Opcode) : ∀ c ∈ o.mnemonic, 32 ≤ c.toNat := by
  intro c hc
  have hchar := o.isMnemonicChar_of_mem c hc
  simp only [isMnemonicChar, Bool.or_eq_true, isDigit_iff, isLower_iff, beq_iff_eq] at hchar
  rcases hchar with (h | h) | rfl
  · omega
  · omega
  · decide

theorem le_toNat_of_isOperandChar {c : Char} (h : isOperandChar c = true) : 32 ≤ c.toNat := by
  rcases isOperandChar_iff.1 h with h | h | rfl | rfl | rfl | rfl
  · omega
  · omega
  all_goals decide

/-- The line of a canonical instruction ends with the comment, and before that it holds no control
character. -/
theorem exists_print_eq {i : Instruction} (h : i.Canonical) :
    ∃ front, i.print = front ++ i.comment.getD [] ∧ front ≠ [] ∧ ∀ c ∈ front, 32 ≤ c.toNat := by
  have hoffset : ∀ c ∈ Numeral.print i.offset, 32 ≤ c.toNat := by
    intro c hc
    rcases Numeral.mem_print hc with hd | rfl
    · have := isDigit_iff.1 hd
      omega
    · decide
  have hoperands : ∀ c ∈ if i.operands.isEmpty then [] else ' ' :: printOperands i.operands,
      32 ≤ c.toNat := by
    intro c hc
    split at hc
    · simp at hc
    · rcases List.mem_cons.1 hc with rfl | hc
      · decide
      · exact le_toNat_of_isOperandChar (printOperands_chars h.operands c hc)
  have hmnemonic : ∀ c ∈ Numeral.print i.offset ++ [':', ' '] ++ i.opcode.mnemonic,
      32 ≤ c.toNat := by
    rw [List.forall_mem_append, List.forall_mem_append]
    exact ⟨⟨hoffset, by decide⟩, le_toNat_of_mem_mnemonic i.opcode⟩
  have hfront : ∀ t : Text, (∀ c ∈ t, 32 ≤ c.toNat) →
      ∀ c ∈ Numeral.print i.offset ++ [':', ' '] ++ i.opcode.mnemonic ++
        (if i.operands.isEmpty then [] else ' ' :: printOperands i.operands) ++ t,
        32 ≤ c.toNat := by
    intro t ht
    rw [List.forall_mem_append, List.forall_mem_append]
    exact ⟨⟨hmnemonic, hoperands⟩, ht⟩
  cases hcomment : i.comment with
  | none =>
    refine ⟨_, ?_, ?_, hfront [] (by simp)⟩
    · rw [print, hcomment, printRest_none]
      simp
    · simp
  | some c =>
    refine ⟨_, ?_, ?_, hfront [' ', '/', '/', ' '] (by decide)⟩
    · rw [print, hcomment, printRest_some i.operands (h.comment c hcomment).nonempty]
      simp
    · simp

/-- The line of a canonical instruction stays in one piece. -/
theorem unbroken_print {i : Instruction} (h : i.Canonical) : Unbroken i.print := by
  obtain ⟨front, hprint, hne, hfront⟩ := exists_print_eq h
  rw [hprint]
  refine ⟨?_, ?_⟩
  · -- a line feed could only stand in the comment, which is on one line
    intro hmem
    rcases List.mem_append.1 hmem with hmem | hmem
    · exact absurd (hfront _ hmem) (by decide)
    · cases hcomment : i.comment with
      | none => simp [hcomment] at hmem
      | some c =>
        rw [hcomment, Option.getD_some] at hmem
        exact (h.comment c hcomment).oneLine hmem
  · -- a carriage return at the end could only be one of the comment, which is trimmed
    intro hlast
    cases hcomment : i.comment with
    | none =>
      rw [hcomment, Option.getD_none, List.append_nil] at hlast
      exact absurd (hfront _ (List.mem_of_getLast? hlast)) (by decide)
    | some c =>
      have hc := h.comment c hcomment
      rw [hcomment, Option.getD_some, List.getLast?_append_of_ne_nil _ hc.nonempty] at hlast
      exact absurd (hc.trimmed.2 _ hlast) (by decide)

theorem print_ne_nil {i : Instruction} (h : i.Canonical) : i.print ≠ [] := by
  obtain ⟨front, hprint, hne, -⟩ := exists_print_eq h
  rw [hprint]
  exact List.append_ne_nil_of_left_ne_nil hne _

end Instruction

namespace Listing

/-- Every instruction of a listing is read from one of its lines. -/
theorem exists_ofLine_of_mem (lines : List Text) (number : Nat) :
    ∀ i ∈ (attemptLines number lines).1.instructions,
      ∃ line ∈ lines, Instruction.ofLine line = .decoded i := by
  induction lines generalizing number with
  | nil => simp [attemptLines, empty]
  | cons line rest ih =>
    -- the instructions behind the first line are read from the other lines
    have htail : ∀ i ∈ (attemptLines (number + 1) rest).1.instructions,
        ∃ other ∈ line :: rest, Instruction.ofLine other = .decoded i := by
      intro i hi
      obtain ⟨other, hother, hread⟩ := ih (number + 1) i hi
      exact ⟨other, List.mem_cons_of_mem line hother, hread⟩
    rw [attemptLines]
    split
    · next i hi =>
      intro j hj
      rcases List.mem_cons.1 hj with rfl | hj
      · exact ⟨line, List.mem_cons_self, hi⟩
      · exact htail j hj
    · exact htail
    · simp [empty]

theorem canonical_of_read {t : Text} {l : Listing} (h : read t = .ok l) :
    ∀ i ∈ l.instructions, i.Canonical := by
  intro i hi
  rw [read] at h
  split at h
  · next m hattempt =>
    obtain rfl : m = l := Except.ok.inj h
    rw [attempt] at hattempt
    have hread := exists_ofLine_of_mem (Text.lines t) 1
    rw [hattempt] at hread
    obtain ⟨line, -, hline⟩ := hread i hi
    exact Instruction.canonical_of_ofLine hline
  · simp at h

/-- The lines of canonical instructions are read back one by one. -/
theorem attemptLines_print {instructions : List Instruction} (h : ∀ i ∈ instructions, i.Canonical)
    (number : Nat) :
    attemptLines number (instructions.map Instruction.print) = (⟨instructions, []⟩, none) := by
  induction instructions generalizing number with
  | nil => rfl
  | cons i rest ih =>
    have hrest := ih (fun j hj => h j (List.mem_cons_of_mem i hj)) (number + 1)
    rw [List.map_cons, attemptLines, Instruction.ofLine_print (h i List.mem_cons_self), hrest]
    rfl

theorem read_print {l : Listing} (h : ∀ i ∈ l.instructions, i.Canonical) :
    read l.print = .ok ⟨l.instructions, []⟩ := by
  have hlines : Text.lines l.print = l.instructions.map Instruction.print := by
    refine lines_intercalate (fun line hline => ?_) fun hnil => ?_
    · obtain ⟨i, hi, rfl⟩ := List.mem_map.1 hline
      exact Instruction.unbroken_print (h i hi)
    · obtain ⟨i, hi, hempty⟩ := List.mem_map.1 hnil
      exact Instruction.print_ne_nil (h i hi) hempty
  rw [read, attempt, hlines, attemptLines_print h]

/-- The text form of a listing that was read shows the same instructions, and no line of it is
skipped. -/
theorem read_render_text {y : Yaml.Library} {t : Text} {l : Listing} (h : read t = .ok l) :
    read (l.render y .text) = .ok ⟨l.instructions, []⟩ :=
  read_print (canonical_of_read h)

/-- A text with both forms of line breaks, a header, operands that are not printed as they are
written, an empty operand, and a comment that holds other separators. -/
def mixedText : Text :=
  "Code:\r\n  0: bipush  007 , #2 x// a\r\u2028// b \r\n3: ret\n4: goto -0,".toList

/-- The listing that `mixedText` shows. -/
def mixedListing : Listing where
  instructions :=
    [⟨0, ⟨16, by decide⟩, [.numeric 7, .constant "#2 x".toList], some "a\r\u2028// b".toList⟩,
     ⟨3, ⟨169, by decide⟩, [], none⟩]
  skipped := [⟨1, "Code:".toList, .unparseable⟩, ⟨4, "4: goto -0,".toList, .emptyOperand⟩]

theorem read_render_text_mixed :
    read mixedText = .ok mixedListing ∧
      read (mixedListing.render Platform.standard.yaml .text) =
        .ok ⟨mixedListing.instructions, []⟩ := by
  have hread : read mixedText = .ok mixedListing := by decide +kernel
  exact ⟨hread, read_render_text hread⟩

end Listing

end Disassembly
