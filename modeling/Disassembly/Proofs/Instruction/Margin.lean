import Disassembly.Proofs.Instruction.Line
import Mathlib.Tactic

/-!
# Blank characters at the end of a line

Blank characters at the end of a line change nothing of what is read from it
(`Instruction.ofLine_append_blank`). They can come to stand behind the operands or behind the
comment, which are trimmed, and everywhere else they are not reached: every step of reading leads
from a text and a padded text (`Padded`) to a text and a padded text again.
-/

set_option autoImplicit false

namespace Disassembly

open Text

/-- The second text is the first one with blank characters behind it. -/
def Padded (t u : Text) : Prop :=
  ∃ margin, (∀ c ∈ margin, isBlank c = true) ∧ t ++ margin = u

namespace Padded

variable {t u : Text} {p : Char → Bool}

theorem head?_of_nil (h : Padded [] u) : ∀ c ∈ u.head?, isBlank c = true := by
  obtain ⟨margin, hmargin, rfl⟩ := h
  exact fun c hc => hmargin c (List.mem_of_head? hc)

theorem cons_iff {c : Char} : Padded (c :: t) u ↔ ∃ v, u = c :: v ∧ Padded t v := by
  constructor
  · rintro ⟨margin, hmargin, rfl⟩
    exact ⟨t ++ margin, rfl, margin, hmargin, rfl⟩
  · rintro ⟨v, rfl, margin, hmargin, rfl⟩
    exact ⟨margin, hmargin, rfl⟩

/-- A run that the padding may continue is the same but for blank characters at its end. -/
theorem takeWhile (h : Padded t u) : Padded (t.takeWhile p) (u.takeWhile p) := by
  obtain ⟨margin, hmargin, rfl⟩ := h
  rw [List.takeWhile_append]
  split
  next hall =>
    rw [(List.takeWhile_prefix p).eq_of_length hall]
    exact ⟨margin.takeWhile p, fun c hc => hmargin c ((List.takeWhile_prefix p).subset hc), rfl⟩
  next => exact ⟨[], by simp, List.append_nil _⟩

/-- A run of a class without blank characters is the same. -/
theorem takeWhile_eq (h : Padded t u) (hp : ∀ c, isBlank c = true → p c = false) :
    t.takeWhile p = u.takeWhile p := by
  obtain ⟨margin, hmargin, rfl⟩ := h
  rw [List.takeWhile_append]
  split
  next hall =>
    rw [(List.takeWhile_prefix p).eq_of_length hall, takeWhile_eq_nil, List.append_nil]
    exact fun c hc => hp c (hmargin c (List.mem_of_head? hc))
  next => rfl

theorem dropWhile (h : Padded t u) : Padded (t.dropWhile p) (u.dropWhile p) := by
  obtain ⟨margin, hmargin, rfl⟩ := h
  rw [List.dropWhile_append]
  split
  next hempty =>
    rw [List.isEmpty_iff.1 hempty]
    exact ⟨margin.dropWhile p, fun c hc => hmargin c ((List.dropWhile_suffix p).subset hc), rfl⟩
  next => exact ⟨margin, hmargin, rfl⟩

theorem skipBlank (h : Padded t u) : Padded (LineParts.skipBlank t) (LineParts.skipBlank u) := by
  cases t with
  | nil =>
    obtain ⟨margin, hmargin, rfl⟩ := h
    cases margin with
    | nil => exact ⟨[], by simp, rfl⟩
    | cons c r =>
      rw [List.forall_mem_cons] at hmargin
      refine ⟨r, hmargin.2, ?_⟩
      rw [List.nil_append, LineParts.skipBlank, LineParts.skipBlank, if_pos hmargin.1,
        List.nil_append]
  | cons c r =>
    obtain ⟨v, rfl, hv⟩ := cons_iff.1 h
    rw [LineParts.skipBlank, LineParts.skipBlank]
    split
    · exact hv
    · exact cons_iff.2 ⟨v, rfl, hv⟩

theorem trim_eq (h : Padded t u) : trim t = trim u := by
  obtain ⟨margin, hmargin, rfl⟩ := h
  exact (trim_append_blank hmargin).symm

/-- The padding starts no comment, and what a comment says does not depend on it. -/
theorem commentAt?_eq (h : Padded t u) :
    (LineParts.commentAt? t).map trim = (LineParts.commentAt? u).map trim := by
  have hslash : ∀ {v : Text}, Padded [] ('/' :: v) → False := fun hv =>
    Bool.false_ne_true (hv.head?_of_nil '/' rfl)
  rw [LineParts.commentAt?.eq_def, LineParts.commentAt?.eq_def]
  split
  next r =>
    obtain ⟨v, rfl, hv⟩ := cons_iff.1 h
    obtain ⟨w, rfl, hw⟩ := cons_iff.1 hv
    exact congrArg some hw.takeWhile.trim_eq
  next hnone =>
    split
    next r =>
      -- two slashes at the start of the padded text stand in the text itself
      cases t with
      | nil => exact (hslash h).elim
      | cons c t =>
        obtain ⟨v, hv, htail⟩ := cons_iff.1 h
        obtain ⟨rfl, rfl⟩ := List.cons.inj hv
        cases t with
        | nil => exact (hslash htail).elim
        | cons d t =>
          obtain ⟨w, hw, -⟩ := cons_iff.1 htail
          obtain ⟨rfl, rfl⟩ := List.cons.inj hw
          exact (hnone t rfl).elim
    next => rfl

end Padded

/-! ## The parts of a padded line -/

namespace LineParts

/-- Two lines have the same parts, apart from blank characters around the operands and around the
comment. -/
structure Alike (x y : LineParts) : Prop where
  offset : x.offset = y.offset
  mnemonic : x.mnemonic = y.mnemonic
  operands : trim x.operands = trim y.operands
  comment : x.comment.map trim = y.comment.map trim

theorem Alike.operands?_eq {x y : LineParts} (h : Alike x y) : x.operands? = y.operands? := by
  rw [LineParts.operands?, LineParts.operands?, h.operands]

theorem comment?_eq (parts : LineParts) : parts.comment? =
    (parts.comment.map trim).bind fun c => if c.isEmpty then none else some c := by
  rw [comment?, Option.bind_map]
  rfl

theorem Alike.comment?_eq {x y : LineParts} (h : Alike x y) : x.comment? = y.comment? := by
  rw [LineParts.comment?_eq, LineParts.comment?_eq, h.comment]

theorem not_isMnemonicChar_of_isBlank (c : Char) (h : isBlank c = true) :
    isMnemonicChar c = false := by
  rw [Bool.eq_false_iff]
  intro hc
  simp only [isMnemonicChar, Bool.or_eq_true, isDigit_iff, isLower_iff, beq_iff_eq] at hc
  have hprintable : 33 ≤ c.toNat ∧ c.toNat ≤ 126 := by
    rcases hc with (hc | hc) | rfl
    · omega
    · omega
    · decide
  rw [not_isBlank_of_printable hprintable] at h
  exact Bool.false_ne_true h

theorem afterOffset?_of_padded (offset : Text) {t u : Text} (h : Padded t u) :
    Option.Rel Alike (afterOffset? offset t) (afterOffset? offset u) := by
  have hmnemonic := h.takeWhile_eq not_isMnemonicChar_of_isBlank
  have hrest : Padded (skipBlank (t.dropWhile isMnemonicChar))
      (skipBlank (u.dropWhile isMnemonicChar)) := h.dropWhile.skipBlank
  rw [afterOffset?, afterOffset?, hmnemonic]
  split
  · exact .none
  · exact .some ⟨rfl, rfl, hrest.takeWhile.trim_eq, hrest.dropWhile.skipBlank.commentAt?_eq⟩

theorem afterOffset?_blank (offset : Text) {t : Text} (h : ∀ c ∈ t, isBlank c = true) :
    afterOffset? offset t = none := by
  have hempty : t.takeWhile isMnemonicChar = [] :=
    takeWhile_eq_nil fun c hc => not_isMnemonicChar_of_isBlank c (h c (List.mem_of_head? hc))
  rw [afterOffset?, hempty]
  rfl

theorem ofLine?_of_padded {line padded : Text} (h : Padded line padded) :
    Option.Rel Alike (ofLine? line) (ofLine? padded) := by
  have hleft : Padded (trimLeft line) (trimLeft padded) := h.dropWhile
  have hoffset := hleft.takeWhile_eq (p := Char.isDigit) fun c hc =>
    Bool.eq_false_iff.2 fun hd => Bool.false_ne_true ((not_isBlank_of_isDigit hd).symm.trans hc)
  have hrest : Padded ((trimLeft line).dropWhile Char.isDigit)
      ((trimLeft padded).dropWhile Char.isDigit) := hleft.dropWhile
  rw [ofLine?, ofLine?, hoffset]
  generalize (trimLeft line).dropWhile Char.isDigit = t at hrest ⊢
  generalize (trimLeft padded).dropWhile Char.isDigit = u at hrest ⊢
  split
  next gap body =>
    obtain ⟨v, rfl, hv⟩ := Padded.cons_iff.1 hrest
    obtain ⟨w, rfl, hw⟩ := Padded.cons_iff.1 hv
    change Option.Rel Alike (if _ then none else afterOffset? _ body)
      (if _ then none else afterOffset? _ w)
    split
    · exact .none
    · exact afterOffset?_of_padded _ hw
  next hnone =>
    split
    next gap body =>
      -- the colon stands in the line itself, and behind it there is nothing but the padding
      cases t with
      | nil => exact (Bool.false_ne_true (hrest.head?_of_nil ':' rfl)).elim
      | cons c t =>
        obtain ⟨v, hv, htail⟩ := Padded.cons_iff.1 hrest
        obtain ⟨rfl, rfl⟩ := List.cons.inj hv
        cases t with
        | cons d t => exact (hnone d t rfl).elim
        | nil =>
          obtain ⟨margin, hmargin, hbody⟩ := htail
          have hblank : ∀ c ∈ body, isBlank c = true := by
            intro c hc
            have hmem : c ∈ [] ++ margin := by
              rw [hbody]
              exact List.mem_cons_of_mem gap hc
            exact hmargin c hmem
          rw [afterOffset?_blank _ hblank, ite_self]
          exact .none
    next => exact .none

end LineParts

/-- Blank characters at the end of a line do not count. -/
theorem Instruction.ofLine_append_blank {margin : Text} (h : ∀ c ∈ margin, isBlank c = true)
    (line : Text) : ofLine (line ++ margin) = ofLine line := by
  have hpadded : Padded line (line ++ margin) := ⟨margin, h, rfl⟩
  have hparts := LineParts.ofLine?_of_padded hpadded
  rw [ofLine, ofLine]
  generalize LineParts.ofLine? line = x at hparts ⊢
  generalize LineParts.ofLine? (line ++ margin) = y at hparts ⊢
  cases hparts with
  | none => rfl
  | some halike =>
    simp only [halike.offset, halike.mnemonic, halike.operands?_eq, halike.comment?_eq]

end Disassembly
