import Disassembly.Proofs.Instruction.Layout
import Mathlib.Tactic

/-!
# The line of an instruction

A canonical instruction is read from every line that shows it, its own one among them, and whatever
is read from a line is canonical (`Instruction.canonical_of_ofLine`). So

- `Instruction.ofLine_print?_iff`: the canonical instructions are those that are still the same
  after they are written and read;
- `Instruction.ofLine_laidOut`: of an instruction that is read from some line, the layout of its
  line does not matter.
-/

set_option autoImplicit false

namespace Disassembly

open Text

/-! ## What is read from a line -/

/-- The parts of a line hold nothing but characters of their classes. -/
structure LineParts.WellFormed (parts : LineParts) : Prop where
  offset : ∀ c ∈ parts.offset, c.isDigit = true
  operands : ∀ c ∈ parts.operands, isOperandChar c = true
  comment : ∀ c ∈ parts.comment, '\n' ∉ c

namespace LineParts

theorem not_mem_commentAt? {t c : Text} (h : commentAt? t = some c) : '\n' ∉ c := by
  rw [commentAt?.eq_def] at h
  split at h
  · obtain rfl := Option.some.inj h
    intro hmem
    simpa using List.mem_takeWhile_imp hmem
  · simp at h

theorem wellFormed_of_ofLine? {line : Text} {parts : LineParts} (h : ofLine? line = some parts) :
    parts.WellFormed := by
  rw [ofLine?] at h
  split at h
  · split at h
    · simp at h
    · rw [afterOffset?] at h
      split at h
      · simp at h
      · obtain rfl := Option.some.inj h
        exact ⟨fun c hc => List.mem_takeWhile_imp hc, fun c hc => List.mem_takeWhile_imp hc,
          fun c hc => not_mem_commentAt? hc⟩
  · simp at h

/-- Operands that are read are canonical. -/
theorem canonical_of_operands? {parts : LineParts} (hparts : parts.WellFormed)
    {operands : List Operand} (h : parts.operands? = some operands) :
    ∀ o ∈ operands, o.Canonical := by
  rw [LineParts.operands?] at h
  split at h
  · obtain rfl := Option.some.inj h
    simp
  · dsimp only at h
    split at h
    · simp at h
    · next hany =>
      obtain rfl := Option.some.inj h
      intro o ho
      obtain ⟨t, ht, rfl⟩ := List.mem_map.1 ho
      -- a piece between commas is trimmed, and none of them is empty
      refine Operand.canonical_ofToken ⟨?_, ?_, ?_⟩
      · intro hnil
        exact hany (List.any_eq_true.2 ⟨t, ht, by rw [hnil]; rfl⟩)
      · obtain ⟨piece, hpiece, rfl⟩ := List.mem_map.1 ht
        intro c hc
        obtain ⟨hmem, hcomma⟩ := mem_of_mem_splitOn hpiece (mem_of_mem_trim hc)
        simp [isTokenChar, hparts.operands c (mem_of_mem_trim hmem), hcomma]
      · obtain ⟨piece, -, rfl⟩ := List.mem_map.1 ht
        exact trimmed_trim piece

/-- A comment that is read is trimmed, not empty and on one line. -/
theorem isComment_of_comment? {parts : LineParts} (hparts : parts.WellFormed) {c : Text}
    (h : parts.comment? = some c) : IsComment c := by
  obtain ⟨raw, hraw, h⟩ := Option.bind_eq_some_iff.1 h
  split at h
  · simp at h
  · next hne =>
    obtain rfl := Option.some.inj h
    refine ⟨by simpa using hne, fun hmem => ?_, trimmed_trim raw⟩
    exact hparts.comment raw hraw (mem_of_mem_trim hmem)

end LineParts

/-- Digits denote a number below the power of ten that their count gives. -/
theorem offsetValue_lt {digits : Text} (h : digits.length ≤ Numeral.maxDigits)
    (hdigits : ∀ c ∈ digits, c.isDigit = true) :
    (offsetValue digits).toNat < 10 ^ Numeral.maxDigits := by
  -- an offset holds plain digits only
  have hlt : ∀ d ∈ digits.map fun c => c.toNat - '0'.toNat, d < 10 := by
    intro d hd
    obtain ⟨c, hc, rfl⟩ := List.mem_map.1 hd
    have hrange := isDigit_iff.1 (hdigits c hc)
    change c.toNat - 48 < 10
    omega
  have hbound := Numeral.ofDigits_lt hlt
  rw [Numeral.ofDigits_eq_ofDigitChars, List.length_map] at hbound
  rw [offsetValue, Int.toNat_natCast]
  exact lt_of_lt_of_le hbound (Nat.pow_le_pow_right (by decide) h)

/-- Whatever is read from a line is canonical. -/
theorem Instruction.canonical_of_ofLine {line : Text} {i : Instruction}
    (h : ofLine line = .decoded i) : i.Canonical := by
  rw [ofLine] at h
  split at h
  · simp at h
  · next parts hparts =>
    have hwf := LineParts.wellFormed_of_ofLine? hparts
    split at h
    · simp at h
    · split at h
      · simp at h
      · next operands hoperands =>
        split at h
        · next hlength =>
          obtain rfl := LineReading.decoded.inj h
          exact ⟨Int.natCast_nonneg _, offsetValue_lt hlength hwf.offset,
            LineParts.canonical_of_operands? hwf hoperands,
            fun c hc => LineParts.isComment_of_comment? hwf hc⟩
        · simp at h

/-! ## The domain of the round trip -/

theorem Operand.Canonical.isWritable {o : Operand} (h : o.Canonical) : o.isWritable = true := by
  cases o with
  | constant reference => rfl
  | numeric value => exact Numeral.isWritable_iff.2 h
  | symbol name => rfl

/-- A canonical instruction can be written. -/
theorem Instruction.Canonical.print?_eq {i : Instruction} (h : i.Canonical) :
    i.print? = some i.print := by
  have hoffset : Numeral.isWritable i.offset = true := by
    apply Numeral.isWritable_iff.2
    have hnonneg := h.offset_nonneg
    have hlt := h.offset_lt
    omega
  have hoperands : i.operands.all Operand.isWritable = true :=
    List.all_eq_true.2 fun o ho => (h.operands o ho).isWritable
  rw [print?, hoffset, hoperands]
  rfl

/-- Writing an instruction and reading its line gives the instruction again if and only if it is
canonical, and nothing but canonical instructions is ever read. -/
theorem Instruction.ofLine_print?_iff :
    (∀ i : Instruction, i.print?.map ofLine = some (.decoded i) ↔ i.Canonical) ∧
      ∀ line i, ofLine line = .decoded i → i.Canonical := by
  refine ⟨fun i => ⟨fun h => ?_, fun h => ?_⟩, fun line i => canonical_of_ofLine⟩
  · -- the line of an instruction that comes back is a line from which it is read
    obtain ⟨line, -, hline⟩ := Option.map_eq_some_iff.1 h
    exact canonical_of_ofLine hline
  · rw [h.print?_eq, Option.map_some, ofLine_print h]

/-! ## The layout does not matter -/

/-- The own line of an instruction that is read from some line is one of the lines that show it, and
from every line that shows it, the same instruction is read. -/
theorem Instruction.ofLine_laidOut {shown : Text} {i : Instruction} (h : ofLine shown = .decoded i) :
    LaidOut i i.print ∧ ∀ line, LaidOut i line → ofLine line = .decoded i := by
  have hcanonical := canonical_of_ofLine h
  exact ⟨laidOut_print hcanonical, fun line hline => ofLine_of_laidOut hcanonical hline⟩

/-- The decrement of a local variable, in columns and with zeros in front of its offset. -/
theorem Instruction.ofLine_laidOut_columns :
    ofLine "7: iinc 1,-1 //down".toList =
        .decoded ⟨7, ⟨⟨132, by decide⟩⟩, [.numeric 1, .numeric (-1)], some "down".toList⟩ ∧
      ofLine "\t007: iinc     1 ,  -1   //  down ".toList =
        ofLine "7: iinc 1,-1 //down".toList := by
  have h : ofLine "7: iinc 1,-1 //down".toList =
      .decoded ⟨7, ⟨⟨132, by decide⟩⟩, [.numeric 1, .numeric (-1)], some "down".toList⟩ := by
    decide +kernel
  have hdigits : 2 + (Numeral.print 7).length ≤ Numeral.maxDigits := by
    decide +kernel
  have hoperands : Layout.Operands [.numeric 1, .numeric (-1)] "     1 ,  -1".toList :=
    .some 4 (.comma ['1'] 1 2 (.last ['-', '1']))
  have hbefore : IsGap [' ', ' '] := by
    unfold IsGap
    decide
  have hbehind : IsGap [' '] := by
    unfold IsGap
    decide
  have hcomment : Layout.Comment (some "down".toList) "//  down ".toList :=
    .some hbefore hbehind
  have hline : "\t007: iinc     1 ,  -1   //  down ".toList =
      ['\t'] ++ (List.replicate 2 '0' ++ Numeral.print 7) ++
        ':' :: ' ' :: ((⟨⟨132, by decide⟩⟩ : Opcode).mnemonic ++
          ("     1 ,  -1".toList ++ (spaces 3 ++ "//  down ".toList))) := by
    decide +kernel
  refine ⟨h, ?_⟩
  rw [h, hline]
  exact (ofLine_laidOut h).2 _ (.intro 2 3 (by decide) hdigits (by decide) hoperands hcomment)

end Disassembly
