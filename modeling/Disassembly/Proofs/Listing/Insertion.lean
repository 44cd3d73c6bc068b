import Disassembly.Proofs.Instruction.Grammar
import Disassembly.Proofs.Instruction.Margin
import Disassembly.Proofs.Listing.Locality
import Mathlib.Tactic

/-!
# A line among others

A text that is made of lines shows the instructions of these lines (`Shows`), whether their breaks
take a carriage return away from them or not. So a further line does not disturb the others
(`read_insert`): their instructions stay where they are, and a line that is no instruction is
reported. The exception is an offset with too many digits: one such line is enough for the whole
text not to be read (`not_exists_read_overlong`).
-/

set_option autoImplicit false

namespace Disassembly

open Text

/-- A carriage return that belongs to the break says nothing. -/
theorem Instruction.ofLine_withoutReturn (line : Text) :
    ofLine (withoutReturn line) = ofLine line := by
  rcases eq_withoutReturn line with h | h
  · rw [h]
  · conv_rhs => rw [← h]
    exact (ofLine_append_blank (by decide) _).symm

namespace Listing

/-- The instructions of lines, each line taken for itself. -/
def instructionsOf (lines : List Text) : List Instruction :=
  lines.filterMap fun line => (Instruction.ofLine line).instruction?

/-- A text shows lines: it can be read if none of their offsets is too long, and what is read then
are the instructions of these lines. -/
structure Shows (t : Text) (lines : List Text) : Prop where
  readable : (∃ l, read t = .ok l) ↔
    ∀ line ∈ lines, ∀ digits, Instruction.ofLine line ≠ .overlongOffset digits
  instructions : ∀ l, read t = .ok l → l.instructions = instructionsOf lines

/-! ## The text of a line -/

/-- A text with one line shows every line that means the same. -/
theorem shows_of_lines {t line shown : Text} (hlines : Text.lines t = [shown])
    (hsame : Instruction.ofLine shown = Instruction.ofLine line) : Shows t [line] := by
  have hread : read t = ofLine 1 shown := by
    rw [read_eq, hlines, ofLines_cons, ofLines_nil]
    cases ofLine 1 shown with
    | error e => rfl
    | ok l => exact congrArg Except.ok (append_empty l)
  constructor
  · rw [hread, ofLine, hsame]
    cases hline : Instruction.ofLine line <;> simp [hline]
  · intro l hl
    rw [hread] at hl
    rw [eq_of_ofLine hl, hsame, instructionsOf, List.filterMap_cons, List.filterMap_nil]
    cases (Instruction.ofLine line).instruction? <;> rfl

theorem shows_line {line : Text} (h : '\n' ∉ line) : Shows line [line] := by
  by_cases hne : line = []
  · subst hne
    refine ⟨⟨fun _ => ?_, fun _ => ⟨empty, rfl⟩⟩, fun l hl => ?_⟩
    · simp [show Instruction.ofLine [] = .skipped .unparseable from rfl]
    · obtain rfl := Except.ok.inj hl
      rfl
  · exact shows_of_lines (lines_eq_singleton h hne) rfl

theorem shows_line_break {line : Text} (h : '\n' ∉ line) : Shows (line ++ ['\n']) [line] :=
  shows_of_lines (lines_append_lineFeed h) (Instruction.ofLine_withoutReturn line)

/-! ## Several lines -/

/-- A text that ends with a line feed shows its lines in front of those of what follows. -/
theorem Shows.append {a b : Text} {xs ys : List Text} (ha : Shows a xs) (hb : Shows b ys)
    (hend : a = [] ∨ a.getLast? = some '\n') : Shows (a ++ b) (xs ++ ys) := by
  constructor
  · rw [List.forall_mem_append, ← ha.readable, ← hb.readable, read_append hend]
    constructor
    · rintro ⟨l, hl⟩
      obtain ⟨first, hfirst, hl⟩ := bind_eq_ok_iff.1 hl
      obtain ⟨second, hsecond, -⟩ := bind_eq_ok_iff.1 hl
      exact ⟨⟨first, hfirst⟩, second, hsecond⟩
    · rintro ⟨⟨first, hfirst⟩, second, hsecond⟩
      rw [hfirst, hsecond]
      exact ⟨_, rfl⟩
  · intro l hl
    rw [read_append hend] at hl
    obtain ⟨first, hfirst, hl⟩ := bind_eq_ok_iff.1 hl
    obtain ⟨second, hsecond, hl⟩ := bind_eq_ok_iff.1 hl
    obtain rfl := Except.ok.inj hl
    rw [instructionsOf, List.filterMap_append]
    exact congrArg₂ _ (ha.instructions first hfirst) (hb.instructions second hsecond)

/-- Joined lines are shown. -/
theorem shows_intercalate {lines : List Text} (h : ∀ line ∈ lines, '\n' ∉ line) :
    Shows (['\n'].intercalate lines) lines := by
  induction lines with
  | nil =>
    refine ⟨⟨fun _ => by simp, fun _ => ⟨empty, rfl⟩⟩, fun l hl => ?_⟩
    obtain rfl := Except.ok.inj hl
    rfl
  | cons line rest ih =>
    rw [List.forall_mem_cons] at h
    cases rest with
    | nil =>
      rw [List.intercalate_singleton]
      exact shows_line h.1
    | cons next rest =>
      rw [List.intercalate_cons_cons]
      exact (shows_line_break h.1).append (ih h.2) (Or.inr (by simp))

/-! ## The reports -/

/-- The first of joined lines is read first, unless it is empty and the only one. -/
theorem exists_lines_intercalate {x : Text} {after : List Text} (h : '\n' ∉ x)
    (hshown : ¬(x = [] ∧ after = [])) : ∃ shown,
      Text.lines (['\n'].intercalate (x :: after)) =
          shown :: Text.lines (['\n'].intercalate after) ∧
        Instruction.ofLine shown = Instruction.ofLine x ∧ (shown = x ∨ shown ++ ['\r'] = x) := by
  cases after with
  | nil =>
    refine ⟨x, ?_, rfl, Or.inl rfl⟩
    rw [List.intercalate_singleton]
    exact lines_eq_singleton h fun hx => hshown ⟨hx, rfl⟩
  | cons next rest =>
    refine ⟨withoutReturn x, ?_, Instruction.ofLine_withoutReturn x, eq_withoutReturn x⟩
    rw [List.intercalate_cons_cons, lines_append (Or.inr (by simp)), lines_append_lineFeed h]
    rfl

/-- The report on the first of joined lines stands in front of those on the others. -/
theorem exists_report_of_read_cons {x : Text} {after : List Text} (h : '\n' ∉ x) {l : Listing}
    (hread : read (['\n'].intercalate (x :: after)) = .ok l) : ∃ rest own,
      read (['\n'].intercalate after) = .ok rest ∧
        l.skipped = own ++ (rest.renumber 1).skipped ∧
        (x = [] ∧ after = [] ∧ own = [] ∨ ∃ shown, (shown = x ∨ shown ++ ['\r'] = x) ∧
          own = ((Instruction.ofLine x).report? 1 shown).toList) := by
  by_cases hshown : x = [] ∧ after = []
  · obtain ⟨rfl, rfl⟩ := hshown
    obtain rfl := Except.ok.inj hread
    exact ⟨empty, [], rfl, rfl, Or.inl ⟨rfl, rfl, rfl⟩⟩
  · obtain ⟨shown, hlines, hsame, hline⟩ := exists_lines_intercalate h hshown
    rw [read_eq, hlines, ofLines_cons, ofLines_add] at hread
    obtain ⟨head, hhead, hread⟩ := bind_eq_ok_iff.1 hread
    obtain ⟨others, hothers, hread⟩ := bind_eq_ok_iff.1 hread
    obtain rfl := Except.ok.inj hread
    cases hrest : read (['\n'].intercalate after) with
    | error e =>
      rw [← read_eq, hrest] at hothers
      cases hothers
    | ok rest =>
      rw [← read_eq, hrest] at hothers
      obtain rfl := Except.ok.inj hothers
      refine ⟨rest, head.skipped, rfl, rfl, Or.inr ⟨shown, hline, ?_⟩⟩
      rw [eq_of_ofLine hhead, hsame]

/-- The report on a line stands between those on the lines around it. -/
theorem exists_report_of_read {x : Text} {before after : List Text}
    (h : ∀ line ∈ before ++ x :: after, '\n' ∉ line) {l : Listing}
    (hread : read (['\n'].intercalate (before ++ x :: after)) = .ok l) : ∃ first rest own,
      read (unlines before) = .ok first ∧ read (['\n'].intercalate after) = .ok rest ∧
        l.skipped = first.skipped ++ own ++ (rest.renumber (before.length + 1)).skipped ∧
        (x = [] ∧ after = [] ∧ own = [] ∨ ∃ shown, (shown = x ∨ shown ++ ['\r'] = x) ∧
          own = ((Instruction.ofLine x).report? (before.length + 1) shown).toList) := by
  rw [List.forall_mem_append, List.forall_mem_cons] at h
  rw [intercalate_append_cons, ← unlines, read_append (unlines_ends before),
    length_lines_unlines h.1] at hread
  obtain ⟨first, hfirst, hread⟩ := bind_eq_ok_iff.1 hread
  obtain ⟨second, hsecond, hread⟩ := bind_eq_ok_iff.1 hread
  obtain rfl := Except.ok.inj hread
  obtain ⟨rest, own, hrest, hskipped, hown⟩ := exists_report_of_read_cons h.2.1 hsecond
  -- the lines in front move the numbers of all reports behind them
  refine ⟨first, rest, own.map fun s => { s with number := s.number + before.length }, hfirst,
    hrest, ?_, ?_⟩
  · rw [Nat.add_comm before.length, ← renumber_renumber, List.append_assoc]
    refine congrArg (first.skipped ++ ·) ?_
    rw [renumber, hskipped, List.map_append]
    rfl
  · rcases hown with ⟨hx, hafter, rfl⟩ | ⟨shown, hline, rfl⟩
    · exact Or.inl ⟨hx, hafter, rfl⟩
    · refine Or.inr ⟨shown, hline, ?_⟩
      rw [Nat.add_comm before.length]
      cases Instruction.ofLine x <;> rfl

/-- A further line among others, each without a line feed, does not disturb them. The text of all
lines is read unless a line would be an instruction but for an offset with too many digits. The
instructions of the other lines are then read in their order, with that of the further line between
them if it is one. If it is none it only adds a report to those on the other lines, of which the
ones behind it count one line more; an empty line at the very end gets no report. -/
theorem read_insert {before after : List Text} {x : Text}
    (h : ∀ line ∈ before ++ x :: after, '\n' ∉ line) :
    ((∃ l, read (['\n'].intercalate (before ++ x :: after)) = .ok l) ↔
        ∀ line ∈ before ++ x :: after, ∀ digits,
          ¬Instruction.Answers line (.overlongOffset digits)) ∧
      ∀ l, read (['\n'].intercalate (before ++ x :: after)) = .ok l →
        l.instructions = instructionsOf before ++ (Instruction.ofLine x).instruction?.toList ++
            instructionsOf after ∧
          ∃ first rest own, read (unlines before) = .ok first ∧
            read (['\n'].intercalate after) = .ok rest ∧
            l.skipped = first.skipped ++ own ++ (rest.renumber (before.length + 1)).skipped ∧
            (x = [] ∧ after = [] ∧ own = [] ∨ ∃ shown, (shown = x ∨ shown ++ ['\r'] = x) ∧
              own = ((Instruction.ofLine x).report? (before.length + 1) shown).toList) := by
  have hshows := shows_intercalate h
  have hanswers : ∀ line digits, Instruction.Answers line (.overlongOffset digits) ↔
      Instruction.ofLine line = .overlongOffset digits := by
    intro line digits
    refine ⟨Instruction.ofLine_of_answers, fun hline => ?_⟩
    rw [← hline]
    exact Instruction.answers_ofLine line
  refine ⟨?_, fun l hl => ⟨?_, exists_report_of_read h hl⟩⟩
  · simp only [hanswers]
    exact hshows.readable
  · rw [hshows.instructions l hl, instructionsOf, instructionsOf, instructionsOf,
      List.filterMap_append, List.filterMap_cons, List.append_assoc]
    cases (Instruction.ofLine x).instruction? <;> rfl

/-- A header between two instructions, the first of which has a longer line break. -/
def headedBlock : List Text :=
  ["0: nop\r".toList] ++ "Code:".toList :: ["1: aconst_null".toList]

theorem read_insert_header :
    (∀ line ∈ headedBlock, '\n' ∉ line) ∧ ∃ l, read (['\n'].intercalate headedBlock) = .ok l ∧
      l.instructions = instructionsOf ["0: nop\r".toList] ++
        (Instruction.ofLine "Code:".toList).instruction?.toList ++
        instructionsOf ["1: aconst_null".toList] := by
  have hlines : ∀ line ∈ headedBlock, '\n' ∉ line := by decide
  have hread : read (['\n'].intercalate headedBlock) =
      .ok ⟨[⟨0, ⟨0, by decide⟩, [], none⟩, ⟨1, ⟨1, by decide⟩, [], none⟩],
        [⟨2, "Code:".toList, .unparseable⟩]⟩ := by
    decide +kernel
  exact ⟨hlines, _, hread, ((read_insert hlines).2 _ hread).1⟩

/-! ## An offset with too many digits -/

/-- The line of an instruction that does nothing, with the given digits for its offset. -/
def nopLine (digits : Text) : Text :=
  digits ++ ':' :: ' ' :: "nop".toList

/-- A line is an instruction but for the number of digits of its offset. -/
theorem answers_nopLine {digits : Text} (hdigits : ∀ c ∈ digits, c.isDigit = true)
    (hlong : Numeral.maxDigits < digits.length) :
    Instruction.Answers (nopLine digits) (.overlongOffset digits.length) := by
  have hne : digits ≠ [] := by
    rintro rfl
    exact absurd hlong (Nat.not_lt_zero _)
  have hline : LongestRun isBlank (nopLine digits) [] (nopLine digits) := by
    refine ⟨rfl, by simp, fun c hc => ?_⟩
    rw [nopLine, List.head?_append_of_ne_nil _ hne] at hc
    exact not_isBlank_of_isDigit (hdigits c (List.mem_of_head? hc))
  have hmnemonic : LongestRun isMnemonicChar "nop".toList "nop".toList [] :=
    ⟨List.append_nil _, by decide, by simp⟩
  have hoperands : LongestRun isOperandChar [] [] [] := ⟨rfl, by simp, by simp⟩
  have hparts : LineParts.Divides (nopLine digits) ⟨digits, "nop".toList, [], none⟩ :=
    .intro hline hne hdigits (by decide) hmnemonic (by decide) (.other (by simp)) hoperands
      (.other (by simp)) (.absent (by decide))
  exact .overlongOffset (o := ⟨0, by decide⟩) hparts rfl (.blank (by simp [Blank])) hlong

/-- A line between two instructions, with one digit too many for its offset. -/
def overlongBlock : List Text :=
  ["0: nop".toList, nopLine (List.replicate (Numeral.maxDigits + 1) '1'), "2: return".toList]

/-- One line can keep a text from being read. -/
theorem not_exists_read_overlong :
    (∀ line ∈ overlongBlock, '\n' ∉ line) ∧
      ¬∃ l, read (['\n'].intercalate overlongBlock) = .ok l := by
  have hdigits : ∀ c ∈ List.replicate (Numeral.maxDigits + 1) '1', c = '1' :=
    fun c hc => (List.mem_replicate.1 hc).2
  have hlines : ∀ line ∈ overlongBlock, '\n' ∉ line := by
    rw [overlongBlock, List.forall_mem_cons, List.forall_mem_cons, List.forall_mem_singleton]
    refine ⟨by decide, fun hmem => ?_, by decide⟩
    rcases List.mem_append.1 hmem with hmem | hmem
    · exact absurd (hdigits _ hmem) (by decide)
    · exact absurd hmem (by decide)
  refine ⟨hlines, fun hread => ?_⟩
  have hanswers := answers_nopLine (fun c hc => hdigits c hc ▸ rfl)
    (List.length_replicate.symm ▸ Nat.lt_succ_self Numeral.maxDigits)
  have hnone := (shows_intercalate hlines).readable.1 hread _
    (List.mem_cons_of_mem _ List.mem_cons_self)
  exact hnone _ (Instruction.ofLine_of_answers hanswers)

end Listing

end Disassembly
