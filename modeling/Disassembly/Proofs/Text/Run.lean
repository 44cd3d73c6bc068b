import Disassembly.Text.Blank
import Mathlib.Data.List.TakeWhile
import Mathlib.Tactic

/-!
# Runs and trimming

A run of a class of characters ends where a text goes on with a character outside the class, so
cutting the run off gives back its two parts (`takeWhile_run`, `dropWhile_run`). A text is trimmed
if neither end of it is blank: trimming gives a trimmed text (`trimmed_trim`) and changes no trimmed
text (`trim_eq_self`).
-/

set_option autoImplicit false

namespace Disassembly.Text

/-- What is said of all characters of a text is decided by going through the text. -/
instance decidableForallMem {p : Char → Prop} [DecidablePred p] (t : Text) :
    Decidable (∀ c ∈ t, p c) :=
  List.decidableBAll p t

/-! ## Runs -/

section Runs

variable {p : Char → Bool} {run rest : Text}

/-- A character of a class differs from the characters outside it. -/
theorem ne_of_class {c d : Char} (hc : p c = true) (hd : p d = false) : c ≠ d := by
  rintro rfl
  exact Bool.false_ne_true (hd.symm.trans hc)

theorem takeWhile_eq_nil (hrest : ∀ c ∈ rest.head?, p c = false) : rest.takeWhile p = [] := by
  cases rest with
  | nil => rfl
  | cons c r => simp [hrest c rfl]

theorem dropWhile_eq_self (hrest : ∀ c ∈ rest.head?, p c = false) : rest.dropWhile p = rest := by
  cases rest with
  | nil => rfl
  | cons c r => simp [hrest c rfl]

/-- What is taken of a run that is not continued is the run. -/
theorem takeWhile_run (hrun : ∀ c ∈ run, p c = true) (hrest : ∀ c ∈ rest.head?, p c = false) :
    (run ++ rest).takeWhile p = run := by
  rw [List.takeWhile_append_of_pos hrun, takeWhile_eq_nil hrest, List.append_nil]

/-- What is left behind a run that is not continued is the rest. -/
theorem dropWhile_run (hrun : ∀ c ∈ run, p c = true) (hrest : ∀ c ∈ rest.head?, p c = false) :
    (run ++ rest).dropWhile p = rest := by
  rw [List.dropWhile_append_of_pos hrun, dropWhile_eq_self hrest]

/-- What is true of the first characters of two texts is true of that of the whole. -/
theorem head?_append {P : Char → Prop} {x y : Text} (hx : ∀ c ∈ x.head?, P c)
    (hy : ∀ c ∈ y.head?, P c) : ∀ c ∈ (x ++ y).head?, P c := by
  cases x with
  | nil => exact hy
  | cons c x => exact hx

theorem head?_dropWhile (t : Text) : ∀ c ∈ (t.dropWhile p).head?, p c = false := by
  intro c hc
  have h := List.head?_dropWhile_not p t
  rw [hc] at h
  simpa using h

/-- What is dropped from the end does not reach beyond a character outside the class. -/
theorem dropWhileEnd_append_cons {c : Char} (hc : p c = false) (x y : Text) :
    dropWhileEnd p (x ++ c :: y) = x ++ c :: dropWhileEnd p y := by
  -- read from its end, the text reaches the character before anything of the part in front
  have hreverse : (x ++ c :: y).reverse = y.reverse ++ c :: x.reverse := by simp
  rw [dropWhileEnd, dropWhileEnd, hreverse, List.dropWhile_append]
  by_cases hy : (y.reverse.dropWhile p).isEmpty = true
  · rw [if_pos hy, List.isEmpty_iff.1 hy, List.dropWhile_cons_of_neg (by simp [hc])]
    simp
  · rw [if_neg hy]
    simp

/-- A run at the end of a text does not reach beyond a character outside the class. -/
theorem takeWhileEnd_append_cons {c : Char} (hc : p c = false) (x y : Text) :
    takeWhileEnd p (x ++ c :: y) = takeWhileEnd p y := by
  have hreverse : (x ++ c :: y).reverse = y.reverse ++ c :: x.reverse := by simp
  rw [takeWhileEnd, takeWhileEnd, hreverse, List.takeWhile_append]
  by_cases hy : (y.reverse.takeWhile p).length = y.reverse.length
  · rw [if_pos hy, List.takeWhile_cons_of_neg (by simp [hc]), List.append_nil,
      (List.takeWhile_prefix p).eq_of_length hy]
  · rw [if_neg hy]

theorem dropWhileEnd_append_takeWhileEnd (p : Char → Bool) (t : Text) :
    dropWhileEnd p t ++ takeWhileEnd p t = t := by
  rw [dropWhileEnd, takeWhileEnd, ← List.reverse_append, List.takeWhile_append_dropWhile,
    List.reverse_reverse]

theorem dropWhileEnd_isPrefix (p : Char → Bool) (t : Text) : dropWhileEnd p t <+: t := by
  have h : t.reverse.dropWhile p <:+ t.reverse := List.dropWhile_suffix p
  have := List.reverse_prefix.2 h
  rwa [List.reverse_reverse] at this

end Runs

/-! ## Trimmed texts -/

/-- Neither end of the text is blank. -/
def Trimmed (t : Text) : Prop :=
  (∀ c ∈ t.head?, isBlank c = false) ∧ (∀ c ∈ t.getLast?, isBlank c = false)

theorem Trimmed.reverse {t : Text} (h : Trimmed t) : Trimmed t.reverse := by
  refine ⟨?_, ?_⟩
  · rw [List.head?_reverse]
    exact h.2
  · rw [List.getLast?_reverse]
    exact h.1

theorem trimLeft_eq_self {t : Text} (h : Trimmed t) : trimLeft t = t :=
  dropWhile_eq_self h.1

theorem trimRight_eq_self {t : Text} (h : Trimmed t) : trimRight t = t := by
  have hr : t.reverse.dropWhile isBlank = t.reverse := dropWhile_eq_self h.reverse.1
  rw [trimRight, dropWhileEnd, hr, List.reverse_reverse]

/-- Trimming changes no trimmed text. -/
theorem trim_eq_self {t : Text} (h : Trimmed t) : trim t = t := by
  rw [trim, trimLeft_eq_self h, trimRight_eq_self h]

theorem trim_cons_blank {c : Char} (hc : isBlank c = true) (t : Text) : trim (c :: t) = trim t := by
  rw [trim, trim, trimLeft, trimLeft, List.dropWhile_cons_of_pos hc]

/-- Blank characters at the start do not count. -/
theorem trim_blank_append {margin : Text} (h : ∀ c ∈ margin, isBlank c = true) (t : Text) :
    trim (margin ++ t) = trim t := by
  rw [trim, trim, trimLeft, trimLeft, List.dropWhile_append_of_pos h]

theorem trimLeft_eq_nil {t : Text} (h : ∀ c ∈ t, isBlank c = true) : trimLeft t = [] :=
  List.dropWhile_eq_nil_iff.2 h

theorem trimRight_append_blank {t margin : Text} (h : ∀ c ∈ margin, isBlank c = true) :
    trimRight (t ++ margin) = trimRight t := by
  rw [trimRight, dropWhileEnd, List.reverse_append,
    List.dropWhile_append_of_pos fun c hc => h c (List.mem_reverse.1 hc)]
  rfl

/-- Blank characters at the end do not count. -/
theorem trim_append_blank {t margin : Text} (h : ∀ c ∈ margin, isBlank c = true) :
    trim (t ++ margin) = trim t := by
  have hleft : trimLeft (t ++ margin) =
      if (trimLeft t).isEmpty then trimLeft margin else trimLeft t ++ margin :=
    List.dropWhile_append
  -- either nothing of the text is left of the margin, or the margin is trimmed from the end
  cases ht : trimLeft t with
  | nil =>
    rw [trim, hleft, ht, trim, ht]
    simp [trimLeft_eq_nil h]
  | cons c r =>
    rw [trim, hleft, ht, trim, ht]
    simp only [List.isEmpty_cons, Bool.false_eq_true, if_false]
    exact trimRight_append_blank h

/-- Only a blank text is trimmed away. -/
theorem trim_eq_nil_iff {t : Text} : trim t = [] ↔ ∀ c ∈ t, isBlank c = true := by
  constructor
  · intro h
    rw [← List.dropWhile_eq_nil_iff]
    cases hleft : t.dropWhile isBlank with
    | nil => rfl
    | cons c r =>
      -- what trimming leaves at the start is not blank, so trimming the end does not reach it
      have hc : isBlank c = false := head?_dropWhile t c (by rw [hleft]; rfl)
      rw [trim, trimLeft, hleft, trimRight, ← List.nil_append (c :: r),
        dropWhileEnd_append_cons hc] at h
      cases h
  · intro h
    rw [trim, trimLeft_eq_nil h]
    rfl

theorem trimRight_isPrefix (t : Text) : trimRight t <+: t :=
  dropWhileEnd_isPrefix isBlank t

theorem mem_of_mem_trim {c : Char} {t : Text} (h : c ∈ trim t) : c ∈ t :=
  (List.dropWhile_suffix _).subset ((trimRight_isPrefix _).subset h)

/-- Trimming gives a trimmed text. -/
theorem trimmed_trim (t : Text) : Trimmed (trim t) := by
  refine ⟨?_, ?_⟩
  · intro c hc
    -- what is cut off at the end cannot uncover a blank character at the start
    obtain ⟨s, hs⟩ := trimRight_isPrefix (trimLeft t)
    have hhead : (trimLeft t).head? = some c := by
      rw [← hs, List.head?_append, show (trimRight (trimLeft t)).head? = some c from hc]
      rfl
    exact head?_dropWhile t c hhead
  · intro c hc
    rw [trim, trimRight, dropWhileEnd, List.getLast?_reverse] at hc
    exact head?_dropWhile _ c hc

end Disassembly.Text
