import Disassembly.Numeral
import Disassembly.Proofs.Text.Character
import Disassembly.Proofs.Text.Run
import Mathlib.Tactic

/-!
# Printing and reading numerals

An integer whose magnitude has at most `maxDigits` digits is read back from its plain numeral
(`read?_print`), and only such integers are ever read (`natAbs_lt_of_read?`). Both rest on the
values of the digits: the digits of the plain numeral have their usual values, and a run of digit
values denotes a number below the power of ten that its length gives.
-/

set_option autoImplicit false

namespace Disassembly

open Text

namespace Text

theorem decimalValue?_of_isDigit {c : Char} (h : c.isDigit = true) :
    decimalValue? c = some (c.toNat - '0'.toNat) := by
  have hc := isDigit_iff.1 h
  -- the plain digits are the first run of ten digits in the table
  have hfirst : (0x30 ≤ c.toNat && c.toNat < 0x30 + 10) = true := by
    simp only [Bool.and_eq_true, decide_eq_true_eq]
    omega
  simp only [decimalValue?, zeros, List.find?_cons, hfirst]
  rfl

theorem lt_ten_of_decimalValue? {c : Char} {d : Nat} (h : decimalValue? c = some d) : d < 10 := by
  obtain ⟨z, hz, rfl⟩ := Option.map_eq_some_iff.1 h
  have hrange := List.find?_some hz
  simp only [Bool.and_eq_true, decide_eq_true_eq] at hrange
  omega

end Text

namespace Numeral

/-! ## Plain numerals -/

theorem isDigit_of_mem_printNat {n : Nat} {c : Char} (h : c ∈ printNat n) : c.isDigit = true :=
  Nat.isDigit_of_mem_toDigits (by decide) (by decide) h

theorem printNat_ne_nil (n : Nat) : printNat n ≠ [] :=
  Nat.toDigits_ne_nil

theorem maxDigits_pos : 0 < maxDigits := by
  simp [maxDigits]

/-- A number has at most `maxDigits` digits if it is below that power of ten. -/
theorem length_printNat_le_iff (n : Nat) : (printNat n).length ≤ maxDigits ↔ n < 10 ^ maxDigits :=
  Nat.length_toDigits_le_iff (by decide) maxDigits_pos

theorem isWritable_iff {v : Int} : isWritable v = true ↔ v.natAbs < 10 ^ maxDigits := by
  rw [isWritable, decide_eq_true_iff, length_printNat_le_iff]

/-! ## The values of digits -/

theorem ofDigits_eq_ofDigitChars (t : Text) :
    ofDigits (t.map fun c => c.toNat - '0'.toNat) = Nat.ofDigitChars 10 t 0 := by
  rw [ofDigits, List.foldl_map, Nat.ofDigitChars_eq_foldl]

theorem foldl_digits_lt (ds : List Nat) (h : ∀ d ∈ ds, d < 10) :
    ∀ n, ds.foldl (fun n d => 10 * n + d) n < 10 ^ ds.length * (n + 1) := by
  induction ds with
  | nil =>
    intro n
    simp
  | cons d rest ih =>
    intro n
    -- each further digit multiplies the bound by ten
    have hd : d < 10 := h d List.mem_cons_self
    have hrest := ih (fun e he => h e (List.mem_cons_of_mem d he)) (10 * n + d)
    calc (d :: rest).foldl (fun n d => 10 * n + d) n
        = rest.foldl (fun n d => 10 * n + d) (10 * n + d) := rfl
      _ < 10 ^ rest.length * (10 * n + d + 1) := hrest
      _ ≤ 10 ^ rest.length * (10 * (n + 1)) := Nat.mul_le_mul_left _ (by omega)
      _ = 10 ^ (d :: rest).length * (n + 1) := by rw [List.length_cons]; ring

/-- Digit values denote a number below the power of ten that their count gives. -/
theorem ofDigits_lt {ds : List Nat} (h : ∀ d ∈ ds, d < 10) : ofDigits ds < 10 ^ ds.length := by
  have := foldl_digits_lt ds h 0
  rwa [Nat.zero_add, Nat.mul_one] at this

theorem mapM_decimalValue? {t : Text} (h : ∀ c ∈ t, c.isDigit = true) :
    t.mapM decimalValue? = some (t.map fun c => c.toNat - '0'.toNat) := by
  induction t with
  | nil => rfl
  | cons c r ih =>
    have hc := decimalValue?_of_isDigit (h c List.mem_cons_self)
    have hr := ih fun d hd => h d (List.mem_cons_of_mem c hd)
    rw [List.mapM_cons, hc, hr]
    rfl

theorem lt_ten_of_mapM_decimalValue? {t : Text} {ds : List Nat}
    (h : t.mapM decimalValue? = some ds) : ∀ d ∈ ds, d < 10 := by
  induction t generalizing ds with
  | nil =>
    obtain rfl : [] = ds := by simpa using h
    simp
  | cons c r ih =>
    rw [List.mapM_cons] at h
    obtain ⟨d, hd, h⟩ := Option.bind_eq_some_iff.1 h
    obtain ⟨es, hes, h⟩ := Option.bind_eq_some_iff.1 h
    obtain rfl : d :: es = ds := by simpa using h
    intro e he
    rcases List.mem_cons.1 he with rfl | he
    · exact lt_ten_of_decimalValue? hd
    · exact ih hes e he

/-! ## Reading back -/

theorem groupedDigits?_of_isDigit {t : Text} (hne : t ≠ []) (h : ∀ c ∈ t, c.isDigit = true) :
    groupedDigits? t = some (t.map fun c => c.toNat - '0'.toNat) := by
  have hunder : '_' ∉ t := by
    intro hm
    have := h '_' hm
    simp at this
  have hempty : t.isEmpty = false := by simpa using hne
  rw [groupedDigits?, List.splitOn_eq_singleton hunder]
  simp [hempty, mapM_decimalValue? h]

/-- A number is read back from its digits. -/
theorem magnitude?_printNat {n : Nat} (h : n < 10 ^ maxDigits) :
    magnitude? (printNat n) = some n := by
  have hdigits : ∀ c ∈ printNat n, c.isDigit = true := fun c hc => isDigit_of_mem_printNat hc
  have hlength := (length_printNat_le_iff n).2 h
  have hvalue : ofDigits ((printNat n).map fun c => c.toNat - '0'.toNat) = n := by
    rw [ofDigits_eq_ofDigitChars]
    exact Nat.ofDigitChars_ten_toDigits
  simp only [magnitude?, groupedDigits?_of_isDigit (printNat_ne_nil n) hdigits, Option.bind_eq_bind,
    Option.bind_some, List.length_map, hlength, if_true, hvalue]

theorem magnitude?_lt {t : Text} {n : Nat} (h : magnitude? t = some n) : n < 10 ^ maxDigits := by
  obtain ⟨ds, hds, h⟩ := Option.bind_eq_some_iff.1 h
  by_cases hlength : ds.length ≤ maxDigits
  · rw [if_pos hlength] at h
    obtain rfl : ofDigits ds = n := by simpa using h
    -- whatever digits are written, their values are below ten
    have hten : ∀ d ∈ ds, d < 10 := by
      rw [groupedDigits?] at hds
      by_cases hany : (t.splitOn '_').any List.isEmpty = true
      · simp [hany] at hds
      · rw [if_neg hany] at hds
        exact lt_ten_of_mapM_decimalValue? hds
    exact lt_of_lt_of_le (ofDigits_lt hten) (Nat.pow_le_pow_right (by decide) hlength)
  · rw [if_neg hlength] at h
    simp at h

theorem signed?_neg (t : Text) :
    signed? ('-' :: t) = (magnitude? t).map fun n : Nat => -(n : Int) := by
  rw [signed?]
  cases magnitude? t <;> rfl

theorem signed?_plus (t : Text) :
    signed? ('+' :: t) = (magnitude? t).map fun n : Nat => (n : Int) := by
  rw [signed?]
  cases magnitude? t <;> rfl

theorem signed?_unsigned {t : Text} (hminus : t.head? ≠ some '-') (hplus : t.head? ≠ some '+') :
    signed? t = (magnitude? t).map fun n : Nat => (n : Int) := by
  rw [signed?]
  · cases magnitude? t <;> rfl
  -- the two other cases are those of a sign in front
  · rintro s rfl
    exact hminus rfl
  · rintro s rfl
    exact hplus rfl

theorem print_ne_nil (v : Int) : print v ≠ [] := by
  cases v with
  | ofNat n => exact printNat_ne_nil n
  | negSucc n => exact List.cons_ne_nil _ _

/-- A plain numeral holds digits and perhaps a minus sign. -/
theorem mem_print {v : Int} {c : Char} (h : c ∈ print v) : c.isDigit = true ∨ c = '-' := by
  cases v with
  | ofNat n => exact Or.inl (isDigit_of_mem_printNat h)
  | negSucc n =>
    rcases List.mem_cons.1 h with rfl | h
    · exact Or.inr rfl
    · exact Or.inl (isDigit_of_mem_printNat h)

theorem not_isBlank_of_mem_print {v : Int} {c : Char} (h : c ∈ print v) : isBlank c = false := by
  rcases mem_print h with h | rfl
  · exact not_isBlank_of_isDigit h
  · decide

theorem read?_eq_signed? {t : Text} (h : ∀ c ∈ t, isBlank c = false) : read? t = signed? t := by
  have hmargin : ∀ c ∈ t, isMargin c = false := fun c hc => by simp [isMargin, h c hc]
  have hfront : t.dropWhile isMargin = t :=
    dropWhile_eq_self fun c hc => hmargin c (List.mem_of_mem_head? hc)
  have hback : t.reverse.dropWhile isMargin = t.reverse :=
    dropWhile_eq_self fun c hc => hmargin c (List.mem_reverse.1 (List.mem_of_mem_head? hc))
  rw [read?, hfront, dropWhileEnd, hback, List.reverse_reverse]

theorem signed?_print {v : Int} (h : v.natAbs < 10 ^ maxDigits) : signed? (print v) = some v := by
  cases v with
  | ofNat n =>
    have hhead : ∀ c ∈ (printNat n).head?, c.isDigit = true :=
      fun c hc => isDigit_of_mem_printNat (List.mem_of_mem_head? hc)
    have hminus : (printNat n).head? ≠ some '-' := fun hc => absurd (hhead '-' hc) (by decide)
    have hplus : (printNat n).head? ≠ some '+' := fun hc => absurd (hhead '+' hc) (by decide)
    rw [print, signed?_unsigned hminus hplus]
    exact congrArg _ (magnitude?_printNat h)
  | negSucc n =>
    rw [print, signed?_neg]
    exact congrArg _ (magnitude?_printNat h)

/-- An integer is read back from its plain numeral. -/
theorem read?_print {v : Int} (h : v.natAbs < 10 ^ maxDigits) : read? (print v) = some v := by
  rw [read?_eq_signed? fun c hc => not_isBlank_of_mem_print hc, signed?_print h]

theorem natAbs_lt_of_signed? {t : Text} {v : Int} (h : signed? t = some v) :
    v.natAbs < 10 ^ maxDigits := by
  rw [signed?.eq_def] at h
  split at h
  all_goals
    obtain ⟨m, hm, rfl⟩ := Option.map_eq_some_iff.1 h
    obtain ⟨n, hn, hmn⟩ := Option.bind_eq_some_iff.1 hm
    obtain rfl : (n : Int) = m := Option.some.inj hmn
    simpa using magnitude?_lt hn

/-- Only integers with few enough digits are read. -/
theorem natAbs_lt_of_read? {t : Text} {v : Int} (h : read? t = some v) :
    v.natAbs < 10 ^ maxDigits :=
  natAbs_lt_of_signed? h

/-! ## Numerals in front of something else -/

theorem printNat_append_inj {m n : Nat} {r s : Text} (hr : ∀ c ∈ r.head?, c.isDigit = false)
    (hs : ∀ c ∈ s.head?, c.isDigit = false) (h : printNat m ++ r = printNat n ++ s) :
    m = n ∧ r = s := by
  have hm : (printNat m ++ r).takeWhile Char.isDigit = printNat m :=
    takeWhile_run (fun c hc => isDigit_of_mem_printNat hc) hr
  have hn : (printNat n ++ s).takeWhile Char.isDigit = printNat n :=
    takeWhile_run (fun c hc => isDigit_of_mem_printNat hc) hs
  have hdigits : printNat m = printNat n := by rw [← hm, h, hn]
  refine ⟨?_, List.append_cancel_left (hdigits ▸ h)⟩
  calc m = Nat.ofDigitChars 10 (printNat m) 0 := Nat.ofDigitChars_ten_toDigits.symm
    _ = Nat.ofDigitChars 10 (printNat n) 0 := by rw [hdigits]
    _ = n := Nat.ofDigitChars_ten_toDigits

/-- Numerals that no digit follows are the same text only if they are the same integer. -/
theorem print_append_inj {v w : Int} {r s : Text} (hr : ∀ c ∈ r.head?, c.isDigit = false)
    (hs : ∀ c ∈ s.head?, c.isDigit = false) (h : print v ++ r = print w ++ s) :
    v = w ∧ r = s := by
  have hminus : ∀ n (x y : Text), printNat n ++ x ≠ '-' :: y := by
    intro n x y heq
    obtain ⟨c, d, hcons⟩ := List.exists_cons_of_ne_nil (printNat_ne_nil n)
    have hc : c.isDigit = true := isDigit_of_mem_printNat (hcons ▸ List.mem_cons_self)
    rw [hcons] at heq
    rw [(List.cons.inj heq).1] at hc
    exact absurd hc (by decide)
  cases v with
  | ofNat m =>
    cases w with
    | ofNat n =>
      obtain ⟨rfl, hrest⟩ := printNat_append_inj hr hs h
      exact ⟨rfl, hrest⟩
    | negSucc n => exact absurd h (hminus m r _)
  | negSucc m =>
    cases w with
    | ofNat n => exact absurd h.symm (hminus n s _)
    | negSucc n =>
      obtain ⟨hsucc, hrest⟩ := printNat_append_inj hr hs (List.cons.inj h).2
      obtain rfl : m = n := Nat.succ.inj hsucc
      exact ⟨rfl, hrest⟩

end Numeral

end Disassembly
