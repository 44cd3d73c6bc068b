import Disassembly.Proofs.Numeral
import Mathlib.Data.List.Induction
import Mathlib.Tactic

/-!
# Which integer a text denotes

`Denotes` says without the reader which texts are numerals, and of which integers: blank characters
on both sides, one sign or none, and a row of decimal digits of any script in which one underscore
may stand between two digits; underscores and signs apart, there are at most `maxDigits` characters
in the row. The reader accepts these texts and gives these integers (`read?_eq_some_iff`).
-/

set_option autoImplicit false

namespace Disassembly

open Text

namespace Text

theorem isDecimal_of_decimalValue? {c : Char} {d : Nat} (h : decimalValue? c = some d) :
    isDecimal c = true :=
  Option.isSome_of_eq_some h

theorem ne_underscore_of_isDecimal {c : Char} (h : isDecimal c = true) : c ≠ '_' :=
  ne_of_class h (by decide)

theorem not_isBlank_of_isDecimal {c : Char} (h : isDecimal c = true) : isBlank c = false := by
  -- no blank character lies within ten code points behind a zero
  have htable : ∀ z ∈ zeros, ∀ k < 10, isBlank (Char.ofNat (z + k)) = false := by decide +kernel
  obtain ⟨d, hd⟩ := Option.isSome_iff_exists.1 h
  obtain ⟨z, hz, rfl⟩ := Option.map_eq_some_iff.1 hd
  have hrange := List.find?_some hz
  simp only [Bool.and_eq_true, decide_eq_true_eq] at hrange
  have hc := htable z (List.mem_of_find?_eq_some hz) (c.toNat - z) (by omega)
  rwa [Nat.add_sub_cancel' hrange.1, Char.ofNat_toNat] at hc

end Text

namespace Numeral

/-! ## Rows of digits -/

/-- A row of digits and their values; one underscore may stand between two digits. -/
inductive DigitRow : Text → List Nat → Prop where
  | last {c : Char} {d : Nat} (hdigit : decimalValue? c = some d) : DigitRow [c] [d]
  | next {c : Char} {d : Nat} {t : Text} {ds : List Nat} (hdigit : decimalValue? c = some d)
    (hrest : DigitRow t ds) : DigitRow (c :: t) (d :: ds)
  | underscore {c : Char} {d : Nat} {t : Text} {ds : List Nat}
    (hdigit : decimalValue? c = some d) (hrest : DigitRow t ds) :
    DigitRow (c :: '_' :: t) (d :: ds)

theorem mapM_decimalValue?_cons (c : Char) (t : Text) :
    (c :: t).mapM decimalValue? =
      (decimalValue? c).bind fun d => (t.mapM decimalValue?).map (d :: ·) := by
  rw [List.mapM_cons]
  cases decimalValue? c with
  | none => rfl
  | some d => cases t.mapM decimalValue? <;> rfl

theorem groupedDigits?_singleton {c : Char} (hc : c ≠ '_') :
    groupedDigits? [c] = (decimalValue? c).map ([·]) := by
  rw [groupedDigits?, List.splitOn_eq_singleton (by simpa using hc.symm)]
  exact (mapM_decimalValue?_cons c []).trans (by cases decimalValue? c <;> rfl)

theorem groupedDigits?_underscore (t : Text) : groupedDigits? ('_' :: t) = none := by
  rw [groupedDigits?, List.splitOn_cons_eq_if_modifyHead]
  rfl

/-- In front of a character that is no underscore, a digit is one more digit of the same group. -/
theorem groupedDigits?_cons_cons {c e : Char} (hc : c ≠ '_') (he : e ≠ '_') (t : Text) :
    groupedDigits? (c :: e :: t) =
      (decimalValue? c).bind fun d => (groupedDigits? (e :: t)).map (d :: ·) := by
  obtain ⟨group, others, hsplit⟩ := List.exists_cons_of_ne_nil (List.splitOn_ne_nil '_' t)
  simp only [groupedDigits?, List.splitOn_cons_eq_if_modifyHead, beq_iff_eq, hc, he, if_false,
    hsplit, List.modifyHead_cons, List.any_cons, List.isEmpty_cons, Bool.false_or,
    List.flatten_cons, List.cons_append]
  split
  · simp
  · rw [mapM_decimalValue?_cons]

/-- In front of an underscore, a digit is a group of its own. -/
theorem groupedDigits?_cons_underscore {c : Char} (hc : c ≠ '_') (t : Text) :
    groupedDigits? (c :: '_' :: t) =
      (decimalValue? c).bind fun d => (groupedDigits? t).map (d :: ·) := by
  simp only [groupedDigits?, List.splitOn_cons_eq_if_modifyHead, beq_iff_eq, hc, if_false, if_true,
    List.modifyHead_cons, List.any_cons, List.isEmpty_cons, Bool.false_or, List.flatten_cons,
    List.singleton_append]
  split
  · simp
  · rw [mapM_decimalValue?_cons]

namespace DigitRow

variable {t : Text} {ds : List Nat}

/-- A row starts with a digit. -/
theorem exists_cons (h : DigitRow t ds) : ∃ c rest, t = c :: rest ∧ isDecimal c = true := by
  cases h with
  | last hdigit => exact ⟨_, _, rfl, isDecimal_of_decimalValue? hdigit⟩
  | next hdigit => exact ⟨_, _, rfl, isDecimal_of_decimalValue? hdigit⟩
  | underscore hdigit => exact ⟨_, _, rfl, isDecimal_of_decimalValue? hdigit⟩

/-- A row ends with a digit. -/
theorem exists_append (h : DigitRow t ds) : ∃ front c, t = front ++ [c] ∧ isDecimal c = true := by
  induction h with
  | last hdigit => exact ⟨[], _, rfl, isDecimal_of_decimalValue? hdigit⟩
  | @next c d t ds _ _ ih =>
    obtain ⟨front, e, rfl, he⟩ := ih
    exact ⟨c :: front, e, rfl, he⟩
  | @underscore c d t ds _ _ ih =>
    obtain ⟨front, e, rfl, he⟩ := ih
    exact ⟨c :: '_' :: front, e, rfl, he⟩

/-- The underscores apart, a row consists of its digits. -/
theorem countP_isDecimal (h : DigitRow t ds) : t.countP isDecimal = ds.length := by
  have hunderscore : isDecimal '_' = false := by decide
  induction h with
  | last hdigit => rw [List.countP_cons_of_pos (isDecimal_of_decimalValue? hdigit)]; rfl
  | next hdigit _ ih =>
    rw [List.countP_cons_of_pos (isDecimal_of_decimalValue? hdigit), ih, List.length_cons]
  | underscore hdigit _ ih =>
    rw [List.countP_cons_of_pos (isDecimal_of_decimalValue? hdigit),
      List.countP_cons_of_neg (by rw [hunderscore]; decide), ih, List.length_cons]

end DigitRow

/-- The digits of a numeral are read if and only if they are in a row. -/
theorem groupedDigits?_eq_some_iff {t : Text} {ds : List Nat} :
    groupedDigits? t = some ds ↔ DigitRow t ds := by
  constructor
  · intro h
    induction t using List.twoStepInduction generalizing ds with
    | nil => cases h
    | singleton c =>
      by_cases hc : c = '_'
      · rw [hc, groupedDigits?_underscore] at h
        cases h
      rw [groupedDigits?_singleton hc] at h
      obtain ⟨d, hd, rfl⟩ := Option.map_eq_some_iff.1 h
      exact .last hd
    | cons_cons c e t ihrest ihnext =>
      by_cases hc : c = '_'
      · rw [hc, groupedDigits?_underscore] at h
        cases h
      by_cases he : e = '_'
      · rw [he, groupedDigits?_cons_underscore hc] at h
        obtain ⟨d, hd, h⟩ := Option.bind_eq_some_iff.1 h
        obtain ⟨rest, hrest, rfl⟩ := Option.map_eq_some_iff.1 h
        exact he ▸ .underscore hd (ihrest hrest)
      · rw [groupedDigits?_cons_cons hc he] at h
        obtain ⟨d, hd, h⟩ := Option.bind_eq_some_iff.1 h
        obtain ⟨rest, hrest, rfl⟩ := Option.map_eq_some_iff.1 h
        exact .next hd (ihnext e hrest)
  · intro h
    induction h with
    | last hdigit =>
      have hc := ne_underscore_of_isDecimal (isDecimal_of_decimalValue? hdigit)
      rw [groupedDigits?_singleton hc, hdigit]
      rfl
    | next hdigit hrest ih =>
      have hc := ne_underscore_of_isDecimal (isDecimal_of_decimalValue? hdigit)
      obtain ⟨e, rest, rfl, he⟩ := hrest.exists_cons
      rw [groupedDigits?_cons_cons hc (ne_underscore_of_isDecimal he), hdigit, ih]
      rfl
    | underscore hdigit _ ih =>
      have hc := ne_underscore_of_isDecimal (isDecimal_of_decimalValue? hdigit)
      rw [groupedDigits?_cons_underscore hc, hdigit, ih]
      rfl

/-! ## Numerals -/

/-- A sign in front of a magnitude, or none, and the integer that both give. -/
inductive Sign : Text → Nat → Int → Prop where
  | none (n : Nat) : Sign [] n n
  | plus (n : Nat) : Sign ['+'] n n
  | minus (n : Nat) : Sign ['-'] n (-n)

/-- A text denotes an integer: between blank characters stand a sign or none and a row of not too
many digits. -/
inductive Denotes : Text → Int → Prop where
  | intro {front sign row back : Text} {ds : List Nat} {v : Int}
    (hfront : ∀ c ∈ front, isMargin c = true) (hsign : Sign sign (ofDigits ds) v)
    (hrow : DigitRow row ds) (hlength : ds.length ≤ maxDigits)
    (hback : ∀ c ∈ back, isMargin c = true) : Denotes (front ++ (sign ++ (row ++ back))) v

theorem magnitude?_eq_some_iff {t : Text} {n : Nat} :
    magnitude? t = some n ↔ ∃ ds, DigitRow t ds ∧ ds.length ≤ maxDigits ∧ ofDigits ds = n := by
  rw [magnitude?, Option.bind_eq_bind, Option.bind_eq_some_iff]
  refine exists_congr fun ds => and_congr groupedDigits?_eq_some_iff ?_
  split <;> simp_all

theorem signed?_eq_some_iff {t : Text} {v : Int} :
    signed? t = some v ↔ ∃ sign row ds, t = sign ++ row ∧ Sign sign (ofDigits ds) v ∧
      DigitRow row ds ∧ ds.length ≤ maxDigits := by
  constructor
  · intro h
    by_cases hminus : t.head? = some '-'
    · obtain ⟨row, rfl⟩ := List.head?_eq_some_iff.1 hminus
      obtain ⟨n, hn, rfl⟩ := Option.map_eq_some_iff.1 ((signed?_neg row).symm.trans h)
      obtain ⟨ds, hrow, hlength, rfl⟩ := magnitude?_eq_some_iff.1 hn
      exact ⟨['-'], row, ds, rfl, .minus _, hrow, hlength⟩
    by_cases hplus : t.head? = some '+'
    · obtain ⟨row, rfl⟩ := List.head?_eq_some_iff.1 hplus
      obtain ⟨n, hn, rfl⟩ := Option.map_eq_some_iff.1 ((signed?_plus row).symm.trans h)
      obtain ⟨ds, hrow, hlength, rfl⟩ := magnitude?_eq_some_iff.1 hn
      exact ⟨['+'], row, ds, rfl, .plus _, hrow, hlength⟩
    · rw [signed?_unsigned hminus hplus] at h
      obtain ⟨n, hn, rfl⟩ := Option.map_eq_some_iff.1 h
      obtain ⟨ds, hrow, hlength, rfl⟩ := magnitude?_eq_some_iff.1 hn
      exact ⟨[], t, ds, rfl, .none _, hrow, hlength⟩
  · rintro ⟨sign, row, ds, rfl, hsign, hrow, hlength⟩
    have hmagnitude := magnitude?_eq_some_iff.2 ⟨ds, hrow, hlength, rfl⟩
    cases hsign with
    | none =>
      obtain ⟨c, rest, rfl, hc⟩ := hrow.exists_cons
      have hhead : ∀ e, isDecimal e = false → (c :: rest).head? ≠ some e :=
        fun e he heq => ne_of_class hc he (Option.some.inj heq)
      rw [List.nil_append, signed?_unsigned (hhead '-' (by decide)) (hhead '+' (by decide)),
        hmagnitude]
      rfl
    | plus =>
      rw [List.singleton_append, signed?_plus, hmagnitude]
      rfl
    | minus =>
      rw [List.singleton_append, signed?_neg, hmagnitude]
      rfl

theorem not_isMargin_of_isDecimal {c : Char} (h : isDecimal c = true) : isMargin c = false := by
  rw [isMargin, not_isBlank_of_isDecimal h, Bool.false_and]

/-- The blank characters on both sides of a numeral do not belong to it. -/
theorem margins_dropped {front sign row back : Text} {ds : List Nat} {n : Nat} {v : Int}
    (hfront : ∀ c ∈ front, isMargin c = true) (hsign : Sign sign n v) (hrow : DigitRow row ds)
    (hback : ∀ c ∈ back, isMargin c = true) :
    dropWhileEnd isMargin ((front ++ (sign ++ (row ++ back))).dropWhile isMargin) =
      sign ++ row := by
  have hhead : ∀ c ∈ (sign ++ (row ++ back)).head?, isMargin c = false := by
    cases hsign with
    | none =>
      obtain ⟨c, rest, rfl, hc⟩ := hrow.exists_cons
      rintro d ⟨⟩
      exact not_isMargin_of_isDecimal hc
    | plus =>
      rintro d ⟨⟩
      decide
    | minus =>
      rintro d ⟨⟩
      decide
  have hnil : dropWhileEnd isMargin back = [] := by
    rw [dropWhileEnd, List.dropWhile_eq_nil_iff.2 fun c hc => hback c (List.mem_reverse.1 hc)]
    rfl
  -- the last digit of the row keeps what stands in front of it
  obtain ⟨digits, c, rfl, hc⟩ := hrow.exists_append
  have hassoc : sign ++ ((digits ++ [c]) ++ back) = (sign ++ digits) ++ c :: back := by simp
  rw [dropWhile_run hfront hhead, hassoc, dropWhileEnd_append_cons (not_isMargin_of_isDecimal hc),
    hnil, List.append_assoc]

/-- A text is read as an integer if and only if it denotes that integer. -/
theorem read?_eq_some_iff {t : Text} {v : Int} : read? t = some v ↔ Denotes t v := by
  constructor
  · intro h
    obtain ⟨sign, row, ds, hcore, hsign, hrow, hlength⟩ := signed?_eq_some_iff.1 h
    have htext : t.takeWhile isMargin ++
        (sign ++ (row ++ takeWhileEnd isMargin (t.dropWhile isMargin))) = t := by
      rw [← List.append_assoc sign, ← hcore, dropWhileEnd_append_takeWhileEnd,
        List.takeWhile_append_dropWhile]
    exact htext ▸ .intro (fun c hc => List.mem_takeWhile_imp hc) hsign hrow hlength
      fun c hc => List.mem_takeWhile_imp (List.mem_reverse.1 hc)
  · rintro ⟨hfront, hsign, hrow, hlength, hback⟩
    rw [read?, margins_dropped hfront hsign hrow hback]
    exact signed?_eq_some_iff.2 ⟨_, _, _, rfl, hsign, hrow, hlength⟩

/-! ## The characters of numerals -/

theorem DigitRow.mem {t : Text} {ds : List Nat} (h : DigitRow t ds) {c : Char} (hc : c ∈ t) :
    isDecimal c = true ∨ c = '_' := by
  induction h with
  | last hdigit =>
    rw [List.mem_singleton.1 hc]
    exact Or.inl (isDecimal_of_decimalValue? hdigit)
  | next hdigit _ ih =>
    rcases List.mem_cons.1 hc with rfl | hc
    · exact Or.inl (isDecimal_of_decimalValue? hdigit)
    · exact ih hc
  | underscore hdigit _ ih =>
    rcases List.mem_cons.1 hc with rfl | hc
    · exact Or.inl (isDecimal_of_decimalValue? hdigit)
    rcases List.mem_cons.1 hc with rfl | hc
    · exact Or.inr rfl
    · exact ih hc

theorem Sign.mem {sign : Text} {n : Nat} {v : Int} (h : Sign sign n v) {c : Char} (hc : c ∈ sign) :
    c = '+' ∨ c = '-' := by
  cases h with
  | none => exact absurd hc List.not_mem_nil
  | plus => exact Or.inl (List.mem_singleton.1 hc)
  | minus => exact Or.inr (List.mem_singleton.1 hc)

namespace Denotes

variable {t : Text} {v : Int} (h : Denotes t v)
include h

/-- A numeral holds blank characters, digits, signs and underscores only. -/
theorem mem {c : Char} (hc : c ∈ t) :
    isMargin c = true ∨ isDecimal c = true ∨ c ∈ ['+', '-', '_'] := by
  obtain ⟨hfront, hsign, hrow, -, hback⟩ := h
  rw [List.mem_append, List.mem_append, List.mem_append] at hc
  rcases hc with hc | hc | hc | hc
  · exact Or.inl (hfront c hc)
  · rcases hsign.mem hc with rfl | rfl <;> simp
  · rcases hrow.mem hc with hc | rfl
    · exact Or.inr (Or.inl hc)
    · simp
  · exact Or.inl (hback c hc)

/-- A numeral has at most `maxDigits` digits. -/
theorem countP_isDecimal_le : t.countP isDecimal ≤ maxDigits := by
  obtain ⟨hfront, hsign, hrow, hlength, hback⟩ := h
  have hmargin : ∀ c, isMargin c = true → ¬ isDecimal c = true := fun c hc hdecimal =>
    Bool.false_ne_true ((not_isMargin_of_isDecimal hdecimal).symm.trans hc)
  have hplus : ∀ c, c = '+' ∨ c = '-' → ¬ isDecimal c = true := by
    rintro c (rfl | rfl) <;> decide
  rw [List.countP_append, List.countP_append, List.countP_append, hrow.countP_isDecimal,
    List.countP_eq_zero.2 fun c hc => hmargin c (hfront c hc),
    List.countP_eq_zero.2 fun c hc => hplus c (hsign.mem hc),
    List.countP_eq_zero.2 fun c hc => hmargin c (hback c hc)]
  omega

end Denotes

end Numeral

end Disassembly
