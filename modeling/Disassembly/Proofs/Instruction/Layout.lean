import Disassembly.Proofs.Instruction.Operand
import Mathlib.Tactic

/-!
# The layout of a line

An instruction is canonical if its offset has few enough digits, its operands are canonical and its
comment, if it has one, is trimmed, not empty and on one line. There are many lines that show such
an instruction (`LaidOut`): blank characters may stand in front of the line and around the comment,
zeros in front of the offset, and spaces around every operand. All of them are read as the
instruction (`ofLine_of_laidOut`), and its own line is one of them (`laidOut_print`).
-/

set_option autoImplicit false

namespace Disassembly

open Text

/-- A comment that stands behind an instruction as it is. -/
structure IsComment (c : Text) : Prop where
  nonempty : c ≠ []
  oneLine : '\n' ∉ c
  trimmed : Trimmed c

/-- An instruction that its own line shows. -/
structure Instruction.Canonical (i : Instruction) : Prop where
  offset_nonneg : 0 ≤ i.offset
  offset_lt : i.offset.toNat < 10 ^ Numeral.maxDigits
  operands : ∀ o ∈ i.operands, o.Canonical
  comment : ∀ c ∈ i.comment, IsComment c

/-! ## The mnemonic -/

theorem Opcode.mnemonics_chars :
    ∀ m ∈ Opcode.mnemonics, m.toList ≠ [] ∧ m.toList.all isMnemonicChar = true := by
  decide +kernel

theorem Opcode.mnemonic_ne_nil (o : Opcode) : o.mnemonic ≠ [] :=
  (Opcode.mnemonics_chars _ (List.get_mem _ _)).1

theorem Opcode.isMnemonicChar_of_mem (o : Opcode) :
    ∀ c ∈ o.mnemonic, isMnemonicChar c = true :=
  List.all_eq_true.1 (Opcode.mnemonics_chars _ (List.get_mem _ _)).2

/-! ## Lines that show an instruction -/

/-- Blank characters within one line. -/
def IsGap (t : Text) : Prop :=
  ∀ c ∈ t, isBlank c = true ∧ c ≠ '\n'

namespace Layout

/-- What a line has for its operands: nothing, or the operands in a row with at least one space in
front of them. -/
inductive Operands : List Operand → Text → Prop where
  | none : Operands [] []
  | some {operands : List Operand} {t : Text} (n : Nat)
      (hrow : InRow (operands.map Operand.print) t) : Operands operands (spaces (n + 1) ++ t)

/-- What a line has for its comment: the comment behind two slashes, with a gap on either side; for
no comment nothing, or two slashes with nothing but a gap behind them. -/
inductive Comment : Option Text → Text → Prop where
  | none : Comment none []
  | blank {gap : Text} (hgap : IsGap gap) : Comment none ('/' :: '/' :: gap)
  | some {before comment behind : Text} (hbefore : IsGap before) (hbehind : IsGap behind) :
      Comment (some comment) ('/' :: '/' :: (before ++ (comment ++ behind)))

end Layout

/-- A line that shows the instruction: its offset with any number of zeros in front of it, but few
enough digits, a colon and a blank character, the mnemonic, the operands and the comment, and spaces
between these two. -/
inductive LaidOut (i : Instruction) : Text → Prop where
  | intro {margin operands comment : Text} {gap : Char} (zeros n : Nat)
      (hmargin : ∀ c ∈ margin, isBlank c = true)
      (hdigits : zeros + (Numeral.print i.offset).length ≤ Numeral.maxDigits)
      (hgap : isBlank gap = true) (hoperands : Layout.Operands i.operands operands)
      (hcomment : Layout.Comment i.comment comment) :
      LaidOut i (margin ++ (List.replicate zeros '0' ++ Numeral.print i.offset) ++
        ':' :: gap :: (i.opcode.mnemonic ++ (operands ++ (spaces n ++ comment))))

/-! ## Reading the parts -/

namespace LineParts

theorem skipBlank_eq_self {t : Text} (h : ∀ c ∈ t.head?, isBlank c = false) : skipBlank t = t := by
  cases t with
  | nil => rfl
  | cons c r => simp [skipBlank, h c rfl]

/-- The parts behind a mnemonic: the operands are the run of operand characters, and the comment
starts where the run ends. -/
theorem afterOffset?_mnemonic (offset : Text) (o : Opcode) {rest : Text} (run tail : Text)
    (hrest : ∀ c ∈ rest.head?, isMnemonicChar c = false) (hskip : skipBlank rest = run ++ tail)
    (hrun : ∀ c ∈ run, isOperandChar c = true)
    (htail : ∀ c ∈ tail.head?, isOperandChar c = false ∧ isBlank c = false) :
    afterOffset? offset (o.mnemonic ++ rest) = some ⟨offset, o.mnemonic, run, commentAt? tail⟩ := by
  have htake := takeWhile_run o.isMnemonicChar_of_mem hrest
  have hdrop := dropWhile_run o.isMnemonicChar_of_mem hrest
  have hstop : ∀ c ∈ tail.head?, isOperandChar c = false := fun c hc => (htail c hc).1
  have hblank : skipBlank tail = tail := skipBlank_eq_self fun c hc => (htail c hc).2
  have hne : o.mnemonic.isEmpty = false := by simpa using o.mnemonic_ne_nil
  simp only [afterOffset?, htake, hdrop, hskip, takeWhile_run hrun hstop, dropWhile_run hrun hstop,
    hblank, hne, Bool.false_eq_true, if_false]

theorem commentAt?_slashes {c : Text} (h : '\n' ∉ c) : commentAt? ('/' :: '/' :: c) = some c := by
  have hrun : ∀ d ∈ c, (d != '\n') = true := by
    intro d hd
    simpa using fun hnl : d = '\n' => h (hnl ▸ hd)
  rw [commentAt?, List.takeWhile_eq_self_iff.2 hrun]

/-- The digits at the start of a line are found behind the blank characters in front of them. -/
theorem ofLine?_offset {margin digits : Text} {gap : Char} (hmargin : ∀ c ∈ margin, isBlank c = true)
    (hne : digits ≠ []) (hdigits : ∀ c ∈ digits, c.isDigit = true) (hgap : isBlank gap = true)
    (rest : Text) : ofLine? (margin ++ digits ++ ':' :: gap :: rest) = afterOffset? digits rest := by
  -- the first digit ends the margin, and the colon ends the digits
  have hhead : ∀ c ∈ (digits ++ ':' :: gap :: rest).head?, isBlank c = false := by
    intro c hc
    rw [List.head?_append_of_ne_nil _ hne] at hc
    exact not_isBlank_of_isDigit (hdigits c (List.mem_of_mem_head? hc))
  have hcolon : ∀ c ∈ (':' :: gap :: rest).head?, c.isDigit = false := by
    rintro c ⟨⟩
    decide
  have hleft : trimLeft (margin ++ digits ++ ':' :: gap :: rest) = digits ++ ':' :: gap :: rest := by
    rw [List.append_assoc]
    exact dropWhile_run hmargin hhead
  rw [ofLine?, hleft, takeWhile_run hdigits hcolon, dropWhile_run hdigits hcolon]
  simp only [List.isEmpty_eq_false_iff.2 hne, hgap, Bool.not_true, Bool.or_self,
    Bool.false_eq_true, if_false]

/-- A run of blank characters shows no operands. -/
theorem operands?_of_blank {parts : LineParts} (h : ∀ c ∈ parts.operands, isBlank c = true) :
    parts.operands? = some [] := by
  simp only [LineParts.operands?, trim_eq_nil_iff.2 h, List.isEmpty_nil, if_true]

/-- Canonical operands are read from their tokens. -/
theorem operands?_of_tokens {parts : LineParts} {operands : List Operand} {t : Text}
    (h : ∀ o ∈ operands, o.Canonical) (hrow : InRow (operands.map Operand.print) t)
    (hshown : trim parts.operands = t) : parts.operands? = some operands := by
  have htokens := Operand.isToken_of_mem_map_print h
  have hne : t.isEmpty = false :=
    List.isEmpty_eq_false_iff.2 (hrow.ne_nil fun u hu => (htokens u hu).nonempty)
  -- no token is empty, so the reader finds no missing operand
  have hnone : (operands.map Operand.print).any List.isEmpty = false := by
    rw [List.any_eq_false]
    intro u hu
    simpa using (htokens u hu).nonempty
  have hback : (operands.map Operand.print).map Operand.ofToken = operands := by
    have hid : operands.map (Operand.ofToken ∘ Operand.print) = operands.map id :=
      List.map_congr_left fun o ho => (h o ho).ofToken_print
    rw [List.map_map, hid, List.map_id]
  rw [LineParts.operands?]
  simp only [hshown, hne, Bool.false_eq_true, if_false, hrow.map_trim_splitOn htokens, hnone, hback]

/-- A comment is read, whatever gaps are around it. -/
theorem comment?_of_layout {comment : Option Text} {t : Text} (h : Layout.Comment comment t)
    (hcomment : ∀ c ∈ comment, IsComment c) {parts : LineParts}
    (hparts : parts.comment = commentAt? t) : parts.comment? = comment := by
  rw [comment?, hparts]
  cases h with
  | none => rfl
  | blank hgap =>
    have hline : '\n' ∉ _ := fun hc => (hgap _ hc).2 rfl
    have hblank : (trim _).isEmpty = true :=
      List.isEmpty_iff.2 (trim_eq_nil_iff.2 fun c hc => (hgap c hc).1)
    rw [commentAt?_slashes hline, Option.bind_some, if_pos hblank]
  | @some before c behind hbefore hbehind =>
    have hc : IsComment c := hcomment c rfl
    have hline : '\n' ∉ before ++ (c ++ behind) := by
      rw [List.mem_append, List.mem_append, not_or, not_or]
      exact ⟨fun hmem => (hbefore _ hmem).2 rfl, hc.oneLine, fun hmem => (hbehind _ hmem).2 rfl⟩
    have htrim : trim (before ++ (c ++ behind)) = c := by
      rw [← List.append_assoc, trim_append_blank fun d hd => (hbehind d hd).1,
        trim_blank_append fun d hd => (hbefore d hd).1, trim_eq_self hc.trimmed]
    rw [commentAt?_slashes hline, Option.bind_some, htrim,
      if_neg (by simpa using hc.nonempty)]

end LineParts

namespace Layout

theorem Comment.head? {comment : Option Text} {t : Text} (h : Comment comment t) :
    ∀ c ∈ t.head?, c = '/' := by
  cases h with
  | none => simp
  | blank => simp
  | some => simp

/-- What follows the mnemonic does not continue it. -/
theorem head?_rest {operands : List Operand} {t comment : Text} {said : Option Text} (n : Nat)
    (ht : Operands operands t) (hcomment : Comment said comment) :
    ∀ c ∈ (t ++ (spaces n ++ comment)).head?, isMnemonicChar c = false := by
  have hspaces : ∀ n, ∀ c ∈ (spaces n).head?, isMnemonicChar c = false := by
    intro n c hc
    rw [List.eq_of_mem_replicate (List.mem_of_mem_head? hc)]
    decide
  refine head?_append ?_ (head?_append (hspaces n) fun c hc => hcomment.head? c hc ▸ by decide)
  cases ht with
  | none => simp
  | some m hrow =>
    rintro c ⟨⟩
    decide

/-- Behind the mnemonic stands a run of operand characters that shows the operands, and where the
run ends starts the comment. The space in front of the run is dropped. -/
theorem exists_run {operands : List Operand} {t comment : Text} {said : Option Text} (n : Nat)
    (h : ∀ o ∈ operands, o.Canonical) (ht : Operands operands t) (hcomment : Comment said comment) :
    ∃ run, LineParts.skipBlank (t ++ (spaces n ++ comment)) = run ++ comment ∧
      (∀ c ∈ run, isOperandChar c = true) ∧
      ∀ parts : LineParts, parts.operands = run → parts.operands? = some operands := by
  cases ht with
  | none =>
    -- without operands the run is what is left of the spaces
    cases n with
    | zero =>
      refine ⟨[], ?_, by simp, fun parts hparts => ?_⟩
      · exact LineParts.skipBlank_eq_self fun c hc => hcomment.head? c hc ▸ by decide
      · exact LineParts.operands?_of_blank (by simp [hparts])
    | succ n =>
      refine ⟨spaces n, rfl, isOperandChar_of_mem_spaces, fun parts hparts => ?_⟩
      exact LineParts.operands?_of_blank (hparts ▸ isBlank_of_mem_spaces)
  | @some _ u m hrow =>
    have htokens := Operand.isToken_of_mem_map_print h
    refine ⟨spaces m ++ (u ++ spaces n), ?_, ?_, fun parts hparts => ?_⟩
    · rw [spaces, List.replicate_succ, List.cons_append, List.cons_append, ← spaces,
        List.append_assoc, List.append_assoc, List.append_assoc]
      rfl
    · rw [List.forall_mem_append, List.forall_mem_append]
      exact ⟨isOperandChar_of_mem_spaces, hrow.isOperandChar_of_mem htokens,
        isOperandChar_of_mem_spaces⟩
    · refine LineParts.operands?_of_tokens h hrow ?_
      rw [hparts, trim_blank_append isBlank_of_mem_spaces, trim_append_blank isBlank_of_mem_spaces,
        trim_eq_self (hrow.trimmed htokens)]

end Layout

/-- Digits with zeros in front of them denote the same number. -/
theorem offsetValue_zeros (zeros : Nat) (digits : Text) :
    offsetValue (List.replicate zeros '0' ++ digits) = offsetValue digits := by
  induction zeros with
  | zero => rfl
  | succ n ih =>
    rw [← ih, List.replicate_succ, List.cons_append, offsetValue, offsetValue,
      Nat.ofDigitChars_cons]
    rfl

/-- The digits of an offset with zeros in front of them show the offset. -/
theorem zeros_print {offset : Int} (h : 0 ≤ offset) (zeros : Nat) {digits : Text}
    (hdigits : digits = List.replicate zeros '0' ++ Numeral.print offset) :
    digits ≠ [] ∧ (∀ c ∈ digits, c.isDigit = true) ∧ offsetValue digits = offset := by
  obtain ⟨n, rfl⟩ := Int.eq_ofNat_of_zero_le h
  change digits = List.replicate zeros '0' ++ Numeral.printNat n at hdigits
  subst hdigits
  refine ⟨List.append_ne_nil_of_right_ne_nil _ (Numeral.printNat_ne_nil n), ?_, ?_⟩
  · rw [List.forall_mem_append]
    refine ⟨fun c hc => ?_, fun c hc => Numeral.isDigit_of_mem_printNat hc⟩
    rw [List.eq_of_mem_replicate hc]
    decide
  · rw [offsetValue_zeros, offsetValue, Numeral.printNat, Nat.ofDigitChars_ten_toDigits]

namespace Instruction

/-- Whatever its layout, a line that shows a canonical instruction is read as the instruction. -/
theorem ofLine_of_laidOut {i : Instruction} (h : i.Canonical) {line : Text}
    (hline : LaidOut i line) : ofLine line = .decoded i := by
  obtain @⟨margin, operands, comment, gap, zeros, n, hmargin, hlength, hgap, hoperands, hcomment⟩ :=
    hline
  obtain ⟨digits, hdigits⟩ : ∃ t, t = List.replicate zeros '0' ++ Numeral.print i.offset := ⟨_, rfl⟩
  obtain ⟨hne, hchars, hvalue⟩ := zeros_print h.offset_nonneg zeros hdigits
  have hshort : digits.length ≤ Numeral.maxDigits := by
    rwa [hdigits, List.length_append, List.length_replicate]
  obtain ⟨run, hskip, hrun, hread⟩ := Layout.exists_run n h.operands hoperands hcomment
  have hparts := LineParts.afterOffset?_mnemonic digits i.opcode run comment
    (Layout.head?_rest n hoperands hcomment) hskip hrun fun c hc => hcomment.head? c hc ▸ by decide
  -- the offset, the operands and the comment of these parts are those of the instruction
  have hshown := hread ⟨digits, i.opcode.mnemonic, run, LineParts.commentAt? comment⟩ rfl
  have hsaid : LineParts.comment? ⟨digits, i.opcode.mnemonic, run, LineParts.commentAt? comment⟩ =
      i.comment :=
    LineParts.comment?_of_layout hcomment h.comment rfl
  rw [← hdigits, ofLine, LineParts.ofLine?_offset hmargin hne hchars hgap, hparts]
  simp only [Opcode.ofMnemonic?_mnemonic, hshown, hshort, if_true, hvalue, hsaid]

/-! ## The line that is printed -/

theorem printOperands_chars {operands : List Operand} (h : ∀ o ∈ operands, o.Canonical) :
    ∀ c ∈ printOperands operands, isOperandChar c = true := by
  cases operands with
  | nil => simp [printOperands]
  | cons o rest =>
    exact (inRow_intercalate (by simp)).isOperandChar_of_mem (Operand.isToken_of_mem_map_print h)

theorem printRest_none (operands : List Operand) :
    printRest operands none = if operands.isEmpty then [] else ' ' :: printOperands operands :=
  List.append_nil _

theorem printRest_some (operands : List Operand) {c : Text} (hc : c ≠ []) :
    printRest operands (some c) =
      (if operands.isEmpty then [] else ' ' :: printOperands operands) ++
        ' ' :: '/' :: '/' :: ' ' :: c := by
  cases c with
  | nil => exact absurd rfl hc
  | cons d r => rfl

/-- The comment is written behind one space, with a second one between the slashes and it. -/
theorem exists_comment_printRest {i : Instruction} (h : i.Canonical) :
    ∃ n t, Layout.Comment i.comment t ∧ printRest i.operands i.comment =
      (if i.operands.isEmpty then [] else ' ' :: printOperands i.operands) ++ (spaces n ++ t) := by
  cases hcomment : i.comment with
  | none =>
    refine ⟨0, [], .none, ?_⟩
    rw [printRest_none, spaces, List.replicate_zero, List.append_nil, List.append_nil]
  | some c =>
    have hgap : IsGap [' '] := by
      rintro d hd
      obtain rfl := List.mem_singleton.1 hd
      decide
    have hempty : IsGap [] := fun d hd => absurd hd List.not_mem_nil
    refine ⟨1, '/' :: '/' :: ([' '] ++ (c ++ [])), .some hgap hempty, ?_⟩
    rw [printRest_some i.operands (h.comment c hcomment).nonempty, List.append_nil]
    rfl

/-- The line of a canonical instruction is one of the lines that show it. -/
theorem laidOut_print {i : Instruction} (h : i.Canonical) : LaidOut i i.print := by
  have hdigits : 0 + (Numeral.print i.offset).length ≤ Numeral.maxDigits := by
    rw [Nat.zero_add, ← Int.toNat_of_nonneg h.offset_nonneg]
    exact (Numeral.length_printNat_le_iff _).2 h.offset_lt
  have hoperands : Layout.Operands i.operands
      (if i.operands.isEmpty then [] else ' ' :: printOperands i.operands) := by
    cases i.operands with
    | nil => exact .none
    | cons o rest => exact .some 0 (inRow_intercalate (List.cons_ne_nil _ _))
  obtain ⟨n, t, hcomment, hrest⟩ := exists_comment_printRest h
  have hline : i.print = [] ++ (List.replicate 0 '0' ++ Numeral.print i.offset) ++
      ':' :: ' ' :: (i.opcode.mnemonic ++
        ((if i.operands.isEmpty then [] else ' ' :: printOperands i.operands) ++
          (spaces n ++ t))) := by
    rw [print, hrest, List.append_assoc, List.append_assoc]
    rfl
  rw [hline]
  exact .intro 0 n (by simp) hdigits (by decide) hoperands hcomment

/-- A canonical instruction is read back from its line. -/
theorem ofLine_print {i : Instruction} (h : i.Canonical) : ofLine i.print = .decoded i :=
  ofLine_of_laidOut h (laidOut_print h)

end Instruction

end Disassembly
