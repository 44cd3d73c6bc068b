import Disassembly.Listing
import Disassembly.Proofs.Outcome
import Disassembly.Proofs.Text.Line
import Mathlib.Tactic

/-!
# Listings are read line by line

What a listing says of a line depends on the line and its number alone. `Listing.ofLines` reads
numbered lines as one listing, and the listing of lines behind each other is that of the first ones
in front of that of the others (`ofLines_append`), whose numbers are those of a listing of their own
moved by the number of the first lines (`ofLines_add`).

Nothing is lost on the way (`exists_accounts`): the numbers of the lines fall apart into those of
the instructions and those of the skipped lines, both in their order. Both results together are
`read_lineLocal`.
-/

set_option autoImplicit false

namespace Disassembly

open Text

/-- The instruction that was read, if it is one. -/
def LineReading.instruction? : LineReading → Option Instruction
  | .decoded i => some i
  | _ => none

/-- The report on a line of which this was read, if it is skipped. -/
def LineReading.report? (number : Nat) (line : Text) : LineReading → Option SkippedLine
  | .skipped reason => some ⟨number, line, reason⟩
  | _ => none

namespace Listing

/-! ## Listings behind each other -/

/-- A listing with another one behind it. -/
def append (a b : Listing) : Listing :=
  ⟨a.instructions ++ b.instructions, a.skipped ++ b.skipped⟩

/-- The listing with greater numbers for its skipped lines. -/
def renumber (offset : Nat) (l : Listing) : Listing :=
  { l with skipped := l.skipped.map fun s => { s with number := s.number + offset } }

theorem append_empty (l : Listing) : l.append empty = l := by
  rw [append, empty, List.append_nil, List.append_nil]

theorem append_assoc (a b c : Listing) : (a.append b).append c = a.append (b.append c) := by
  rw [append, append, append, append, List.append_assoc, List.append_assoc]

theorem renumber_renumber (offset more : Nat) (l : Listing) :
    (l.renumber offset).renumber more = l.renumber (offset + more) := by
  simp only [renumber, List.map_map, Function.comp_def, Nat.add_assoc]

theorem renumber_append (offset : Nat) (a b : Listing) :
    (a.append b).renumber offset = (a.renumber offset).append (b.renumber offset) := by
  rw [renumber, renumber, renumber, append, append, List.map_append]

/-! ## Reading numbered lines -/

/-- The listing of one line with its number. -/
def ofLine (number : Nat) (line : Text) : Except OverlongOffset Listing :=
  match Instruction.ofLine line with
  | .decoded i => .ok ⟨[i], []⟩
  | .skipped reason => .ok ⟨[], [⟨number, line, reason⟩]⟩
  | .overlongOffset digits => .error ⟨digits⟩

/-- What is read of a line is its instruction or the report on it. -/
theorem eq_of_ofLine {number : Nat} {line : Text} {l : Listing} (h : ofLine number line = .ok l) :
    l = ⟨(Instruction.ofLine line).instruction?.toList,
      ((Instruction.ofLine line).report? number line).toList⟩ := by
  rw [ofLine] at h
  split at h
  next i hline =>
    rw [hline]
    exact (Except.ok.inj h).symm
  next reason hline =>
    rw [hline]
    exact (Except.ok.inj h).symm
  next => cases h

/-- The listing of lines of which the first has the given number. -/
def ofLines (number : Nat) (lines : List Text) : Except OverlongOffset Listing :=
  match attemptLines number lines with
  | (l, none) => .ok l
  | (_, some e) => .error e

theorem read_eq (t : Text) : read t = ofLines 1 (Text.lines t) :=
  rfl

theorem ofLines_nil (number : Nat) : ofLines number [] = .ok empty :=
  rfl

theorem ofLines_cons (number : Nat) (line : Text) (rest : List Text) :
    ofLines number (line :: rest) = do
      let first ← ofLine number line
      let others ← ofLines (number + 1) rest
      return first.append others := by
  rw [ofLines, ofLines, attemptLines, ofLine]
  cases Instruction.ofLine line with
  | overlongOffset digits => rfl
  | decoded i =>
    obtain ⟨l, fault⟩ := attemptLines (number + 1) rest
    cases fault <;> rfl
  | skipped reason =>
    obtain ⟨l, fault⟩ := attemptLines (number + 1) rest
    cases fault <;> rfl

theorem ofLines_append (number : Nat) (xs ys : List Text) :
    ofLines number (xs ++ ys) = do
      let first ← ofLines number xs
      let second ← ofLines (number + xs.length) ys
      return first.append second := by
  induction xs generalizing number with
  | nil =>
    rw [ofLines_nil, List.nil_append, List.length_nil, Nat.add_zero]
    cases ofLines number ys <;> rfl
  | cons x xs ih =>
    rw [List.cons_append, ofLines_cons, ofLines_cons, ih, List.length_cons, Nat.add_assoc,
      Nat.add_comm 1]
    cases ofLine number x with
    | error e => rfl
    | ok first =>
      cases ofLines (number + 1) xs with
      | error e => rfl
      | ok second =>
        cases ofLines (number + (xs.length + 1)) ys with
        | error e => rfl
        | ok third => exact congrArg Except.ok (append_assoc first second third).symm

theorem ofLine_add (number offset : Nat) (line : Text) :
    ofLine (number + offset) line = (ofLine number line).map (renumber offset) := by
  rw [ofLine, ofLine]
  cases Instruction.ofLine line <;> rfl

/-- Lines with greater numbers are read in the same way. -/
theorem ofLines_add (number offset : Nat) (lines : List Text) :
    ofLines (number + offset) lines = (ofLines number lines).map (renumber offset) := by
  induction lines generalizing number with
  | nil => rfl
  | cons line rest ih =>
    rw [ofLines_cons, ofLines_cons, ofLine_add, Nat.add_right_comm, ih]
    cases ofLine number line with
    | error e => rfl
    | ok first =>
      cases ofLines (number + 1) rest with
      | error e => rfl
      | ok others => exact congrArg Except.ok (renumber_append offset first others).symm

/-- A text that ends with a line feed is read apart from what follows. -/
theorem read_append {a : Text} (h : a = [] ∨ a.getLast? = some '\n') (b : Text) :
    read (a ++ b) = do
      let first ← read a
      let second ← read b
      return first.append (second.renumber (Text.lines a).length) := by
  rw [read_eq, read_eq, read_eq, lines_append h, ofLines_append, ofLines_add]
  cases ofLines 1 (Text.lines a) with
  | error e => rfl
  | ok first => cases ofLines 1 (Text.lines b) <;> rfl

/-! ## The account of all lines -/

/-- The lines of a listing, of which the first has the given number, are accounted for: the numbers
of the instructions are `numbers`, the other lines are the skipped ones, and both are in order. -/
structure Accounts (first : Nat) (lines : List Text) (numbers : List Nat) (l : Listing) : Prop where
  /-- Every line is an instruction or skipped, and none of them twice. -/
  complete : (numbers ++ l.skipped.map SkippedLine.number).Perm (List.range' first lines.length)
  increasing : numbers.Pairwise (· < ·)
  decoded : List.Forall₂ (fun number i => ∃ line, (line, number) ∈ lines.zipIdx first ∧
    Instruction.ofLine line = .decoded i) numbers l.instructions
  skipped_increasing : l.skipped.Pairwise (·.number < ·.number)
  skipped : ∀ s ∈ l.skipped, (s.line, s.number) ∈ lines.zipIdx first ∧
    Instruction.ofLine s.line = .skipped s.reason

namespace Accounts

variable {first : Nat} {line : Text} {rest : List Text} {numbers : List Nat} {l : Listing}

theorem le_of_mem (h : Accounts first rest numbers l) :
    (∀ number ∈ numbers, first ≤ number) ∧ ∀ s ∈ l.skipped, first ≤ s.number := by
  have hmem : ∀ number ∈ numbers ++ l.skipped.map SkippedLine.number, first ≤ number := by
    intro number hnumber
    exact (List.mem_range'_1.1 (h.complete.mem_iff.1 hnumber)).1
  rw [List.forall_mem_append, List.forall_mem_map] at hmem
  exact hmem

theorem consDecoded (h : Accounts (first + 1) rest numbers l) {i : Instruction}
    (hline : Instruction.ofLine line = .decoded i) :
    Accounts first (line :: rest) (first :: numbers) (l.addInstruction i) where
  complete := by
    rw [List.length_cons, List.range'_succ, List.cons_append]
    exact h.complete.cons first
  increasing := List.pairwise_cons.2 ⟨h.le_of_mem.1, h.increasing⟩
  decoded := by
    rw [List.zipIdx_cons]
    refine .cons ⟨line, List.mem_cons_self, hline⟩ (h.decoded.imp ?_)
    rintro number j ⟨other, hmem, hother⟩
    exact ⟨other, List.mem_cons_of_mem _ hmem, hother⟩
  skipped_increasing := h.skipped_increasing
  skipped := by
    intro s hs
    rw [List.zipIdx_cons]
    exact (h.skipped s hs).imp_left (List.mem_cons_of_mem _)

theorem consSkipped (h : Accounts (first + 1) rest numbers l) {reason : SkipReason}
    (hline : Instruction.ofLine line = .skipped reason) :
    Accounts first (line :: rest) numbers (l.addSkipped ⟨first, line, reason⟩) where
  complete := by
    rw [List.length_cons, List.range'_succ]
    exact List.perm_middle.trans (h.complete.cons first)
  increasing := h.increasing
  decoded := by
    rw [List.zipIdx_cons]
    refine h.decoded.imp ?_
    rintro number j ⟨other, hmem, hother⟩
    exact ⟨other, List.mem_cons_of_mem _ hmem, hother⟩
  skipped_increasing := List.pairwise_cons.2 ⟨h.le_of_mem.2, h.skipped_increasing⟩
  skipped := by
    rw [List.zipIdx_cons]
    refine List.forall_mem_cons.2 ⟨⟨List.mem_cons_self, hline⟩, fun s hs => ?_⟩
    exact (h.skipped s hs).imp_left (List.mem_cons_of_mem _)

end Accounts

/-- Every line that is read is accounted for. -/
theorem exists_accounts {first : Nat} {lines : List Text} {l : Listing}
    (h : ofLines first lines = .ok l) : ∃ numbers, Accounts first lines numbers l := by
  induction lines generalizing first l with
  | nil =>
    obtain rfl := Except.ok.inj h
    exact ⟨[], .nil, .nil, .nil, .nil, by simp [empty]⟩
  | cons line rest ih =>
    rw [ofLines_cons] at h
    obtain ⟨head, hhead, h⟩ := bind_eq_ok_iff.1 h
    obtain ⟨others, hothers, h⟩ := bind_eq_ok_iff.1 h
    obtain rfl := Except.ok.inj h
    obtain ⟨numbers, hnumbers⟩ := ih hothers
    rw [ofLine] at hhead
    split at hhead
    next i hline =>
      obtain rfl := Except.ok.inj hhead
      exact ⟨first :: numbers, hnumbers.consDecoded hline⟩
    next reason hline =>
      obtain rfl := Except.ok.inj hhead
      exact ⟨numbers, hnumbers.consSkipped hline⟩
    next => cases hhead

/-- Reading is local to the lines and loses none of them. The lines of a text that is read are all
accounted for. And a text whose first part ends with a line feed, or is empty, is read part by part:
reading it fails if and only if reading a part fails, and what is read is what the first part shows
and behind it what the second part shows, whose numbers count on from the lines of the first. -/
theorem read_lineLocal :
    (∀ t l, read t = .ok l → ∃ numbers, Accounts 1 (Text.lines t) numbers l) ∧
      ∀ a b, a = [] ∨ a.getLast? = some '\n' → read (a ++ b) = do
        let first ← read a
        let second ← read b
        return first.append (second.renumber (Text.lines a).length) :=
  ⟨fun _ _ h => exists_accounts h, fun _ b h => read_append h b⟩

/-- A header and an instruction, each with a line break behind it. -/
def firstPart : Text :=
  "Code:\r\n  0: nop\n".toList

/-- A line with a missing operand and an instruction. -/
def secondPart : Text :=
  "1: nop #2,\n4: aconst_null // done\n".toList

/-- The listing that `secondPart` shows. -/
def secondListing : Listing where
  instructions := [⟨4, ⟨1, by decide⟩, [], some "done".toList⟩]
  skipped := [⟨1, "1: nop #2,".toList, .emptyOperand⟩]

theorem read_lineLocal_parts :
    read secondPart = .ok secondListing ∧
      (∃ numbers, Accounts 1 (Text.lines secondPart) numbers secondListing) ∧
      (firstPart = [] ∨ firstPart.getLast? = some '\n') ∧
      read (firstPart ++ secondPart) = do
        let first ← read firstPart
        let second ← read secondPart
        return first.append (second.renumber (Text.lines firstPart).length) := by
  have hread : read secondPart = .ok secondListing := by decide +kernel
  have hend : firstPart = [] ∨ firstPart.getLast? = some '\n' := Or.inr (by decide)
  exact ⟨hread, read_lineLocal.1 _ _ hread, hend, read_lineLocal.2 _ _ hend⟩

end Listing

end Disassembly
