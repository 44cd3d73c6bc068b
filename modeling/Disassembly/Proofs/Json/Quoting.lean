import Disassembly.Json.Token
import Disassembly.Json.Writer
import Disassembly.Proofs.Text.Character
import Mathlib.Tactic

/-!
# Quoted strings

A text that is written as a string is read back, whatever stands behind the string
(`stringRest_writeString`). `Spells` lists the ways in which one code point can be written inside a
string: by itself, by a short escape, by the escape of its code unit or by those of a surrogate
pair. The writer chooses one of them for each character (`spells_writeChar`), and the reader knows
all of them (`Spells.stringRest`).

Since the reader finds the end of a string by itself, two strings in front of something else are
the same text only if they are the same string (`writeString_append_inj`).
-/

set_option autoImplicit false

namespace Disassembly.Json

open Text Token

/-! ## Code units -/

theorem hexValue?_hexDigit {k : Nat} (h : k < 16) : hexValue? (hexDigit .lower k) = some k := by
  have hall : ∀ j < 16, hexValue? (hexDigit .lower j) = some j := by decide
  exact hall k h

theorem readHex?_append_hexDigit {t : Text} {n k : Nat} (ht : readHex? t = some n) (hk : k < 16) :
    readHex? (t ++ [hexDigit .lower k]) = some (16 * n + k) := by
  rw [readHex?] at ht ⊢
  rw [List.foldlM_append, ht]
  simp [hexValue?_hexDigit hk]

/-- The last hexadecimal digits of a number say what it is up to that power of sixteen. -/
theorem readHex?_hexDigits (width n : Nat) :
    readHex? (hexDigits .lower width n) = some (n % 16 ^ width) := by
  induction width generalizing n with
  | zero => simp [hexDigits, readHex?, Nat.mod_one]
  | succ w ih =>
    have hvalue : 16 * (n / 16 % 16 ^ w) + n % 16 = n % 16 ^ (w + 1) := by
      rw [Nat.pow_succ, Nat.mul_comm (16 ^ w) 16, Nat.mod_mul, Nat.add_comm]
    rw [hexDigits, readHex?_append_hexDigit (ih (n / 16)) (Nat.mod_lt n (by decide)), hvalue]

/-- A code unit is read back from its four digits. -/
theorem codeUnit?_hexDigits {n : Nat} (h : n < 0x10000) (r : Text) :
    codeUnit? (hexDigits .lower 4 n ++ r) = some n := by
  have hdigits : codeUnit? (hexDigits .lower 4 n ++ r) = readHex? (hexDigits .lower 4 n) := rfl
  have hfits : n % 16 ^ 4 = n := Nat.mod_eq_of_lt h
  rw [hdigits, readHex?_hexDigits, hfits]

theorem isHighHalf_iff {n : Nat} : isHighHalf n = true ↔ 0xD800 ≤ n ∧ n ≤ 0xDBFF := by
  rw [isHighHalf, Bool.and_eq_true, decide_eq_true_iff, decide_eq_true_iff]

theorem isLowHalf_iff {n : Nat} : isLowHalf n = true ↔ 0xDC00 ≤ n ∧ n ≤ 0xDFFF := by
  rw [isLowHalf, Bool.and_eq_true, decide_eq_true_iff, decide_eq_true_iff]

/-- No character is half of a surrogate pair, so a code unit that is a character stands for it. -/
theorem codePoint_toNat (c : Char) :
    isHighHalf c.toNat = false ∧ CodePoint.ofNat c.toNat = .char c := by
  have hvalid : c.toNat < 0xD800 ∨ 0xDFFF < c.toNat := by
    rcases c.valid with h | h
    · exact Or.inl h
    · exact Or.inr h.1
  have hhigh : isHighHalf c.toNat = false := by
    rw [← Bool.not_eq_true, isHighHalf_iff]
    omega
  refine ⟨hhigh, ?_⟩
  rw [CodePoint.ofNat, if_neg (by omega), Char.ofNat_toNat]

/-! ## The ways to write a code point -/

/-- The text spells the code point inside a string. -/
inductive Spells : Text → CodePoint → Prop
  | plain {c : Char} (hmark : c ≠ '"') (hescape : c ≠ '\\') (hcontrol : 0x20 ≤ c.toNat) :
      Spells [c] (.char c)
  | short {c e : Char} (h : simpleEscape? c = some e) : Spells ['\\', c] (.char e)
  | unit {n : Nat} (h : n < 0x10000) (hhigh : isHighHalf n = false) :
      Spells (unitEscape n) (.ofNat n)
  | pair {high low : Nat} (hhigh : isHighHalf high = true) (hlow : isLowHalf low = true) :
      Spells (unitEscape high ++ unitEscape low) (.char (pairChar high low))

/-- What an escape covers is not read again. -/
theorem stringRest_covered (covered r : Text) :
    stringRest covered.length (covered ++ r) = stringRest 0 r := by
  induction covered with
  | nil => rfl
  | cons c covered ih => exact ih

/-- The reader knows every way to write a code point, and goes on behind it. -/
theorem Spells.stringRest {t : Text} {c : CodePoint} (h : Spells t c) (r : Text) :
    stringRest 0 (t ++ r) = (stringRest 0 r).map fun p => (c :: p.1, p.2) := by
  cases h with
  | plain hmark hescape hcontrol =>
    rw [List.singleton_append, Token.stringRest, if_neg (Nat.not_lt.2 hcontrol)]
    · exact hmark
    · exact hescape
  | @short d _ h =>
    have hu : d ≠ 'u' := by
      rintro rfl
      cases h
    rw [List.cons_append, List.cons_append, List.nil_append, Token.stringRest, h]
    · rfl
    · exact hu
  | @unit n h hhigh =>
    -- the digits are read ahead, and then passed over
    have hcovered := stringRest_covered ('u' :: hexDigits .lower 4 n) r
    rw [unitEscape, List.cons_append, List.cons_append, Token.stringRest,
      codeUnit?_hexDigits h]
    simp only [hhigh, Bool.false_eq_true, if_false]
    rw [← hcovered]
    rfl
  | @pair high low hhigh hlow =>
    -- both escapes are read ahead, the second one to see that it goes with the first
    have hcovered := stringRest_covered
      ('u' :: hexDigits .lower 4 high ++ unitEscape low) r
    have hboundHigh : high < 0x10000 := Nat.lt_of_le_of_lt (isHighHalf_iff.1 hhigh).2 (by decide)
    have hboundLow : low < 0x10000 := Nat.lt_of_le_of_lt (isLowHalf_iff.1 hlow).2 (by decide)
    have hnext : lowHalf? (unitEscape low ++ r) = some low := by
      rw [unitEscape, List.cons_append, List.cons_append, lowHalf?,
        codeUnit?_hexDigits hboundLow]
      exact Option.filter_some_pos hlow
    have hdrop : (hexDigits .lower 4 high ++ (unitEscape low ++ r)).drop 4 = unitEscape low ++ r :=
      rfl
    rw [List.append_assoc, unitEscape, List.cons_append, List.cons_append, Token.stringRest,
      codeUnit?_hexDigits hboundHigh]
    simp only [hhigh, if_true, hdrop, hnext]
    rw [← hcovered]
    rfl

/-- A character beyond the basic plane is the character of its surrogate pair. -/
theorem spells_pair {c : Char} (h : 0x10000 ≤ c.toNat) :
    Spells (unitEscape (0xD800 + (c.toNat - 0x10000) / 0x400) ++
      unitEscape (0xDC00 + (c.toNat - 0x10000) % 0x400)) (.char c) := by
  have hlast : c.toNat < 0x110000 := by
    rcases c.valid with hc | hc
    · exact Nat.lt_trans hc (by decide)
    · exact hc.2
  have hhigh : isHighHalf (0xD800 + (c.toNat - 0x10000) / 0x400) = true := by
    rw [isHighHalf_iff]
    omega
  have hlow : isLowHalf (0xDC00 + (c.toNat - 0x10000) % 0x400) = true := by
    rw [isLowHalf_iff]
    omega
  have hsum : 0x10000 + (0xD800 + (c.toNat - 0x10000) / 0x400 - 0xD800) * 0x400 +
      (0xDC00 + (c.toNat - 0x10000) % 0x400 - 0xDC00) = c.toNat := by omega
  have hpair := Spells.pair hhigh hlow
  rwa [pairChar, hsum, Char.ofNat_toNat] at hpair

/-- The writer chooses one of the ways to write a character. -/
theorem spells_writeChar (c : Char) : Spells (writeChar c) (.char c) := by
  rw [writeChar]
  split_ifs with hmark hn hr ht hf hb hplain hbasic
  · rcases hmark with rfl | rfl <;> exact Spells.short rfl
  · exact hn ▸ Spells.short rfl
  · exact hr ▸ Spells.short rfl
  · exact ht ▸ Spells.short rfl
  · exact hf ▸ Spells.short rfl
  · exact hb ▸ Spells.short rfl
  · rw [not_or] at hmark
    exact Spells.plain hmark.1 hmark.2 hplain.1
  · obtain ⟨hhigh, hunit⟩ := codePoint_toNat c
    have hspells := Spells.unit hbasic hhigh
    rwa [hunit] at hspells
  · exact spells_pair (Nat.not_lt.1 hbasic)

/-! ## Strings -/

theorem stringRest_flatMap_writeChar (t r : Text) :
    stringRest 0 (t.flatMap writeChar ++ '"' :: r) = some (.ofText t, r) := by
  induction t with
  | nil => rfl
  | cons c t ih =>
    -- one character is read and goes in front of what is read behind it
    rw [List.flatMap_cons, List.append_assoc, (spells_writeChar c).stringRest, ih]
    rfl

/-- A written string is its opening mark and what the reader takes for the string. -/
theorem stringRest_writeString (t r : Text) :
    ∃ body, writeString t ++ r = '"' :: body ∧ stringRest 0 body = some (.ofText t, r) := by
  refine ⟨t.flatMap writeChar ++ '"' :: r, ?_, stringRest_flatMap_writeChar t r⟩
  simp [writeString]

/-- Strings in front of something else are the same text only if they are the same. -/
theorem writeString_append_inj {t u r s : Text} (h : writeString t ++ r = writeString u ++ s) :
    t = u ∧ r = s := by
  obtain ⟨x, hx, hreadT⟩ := stringRest_writeString t r
  obtain ⟨y, hy, hreadU⟩ := stringRest_writeString u s
  obtain rfl : x = y := by
    rw [hx, hy] at h
    exact (List.cons.inj h).2
  rw [hreadT, Option.some.injEq, Prod.mk.injEq] at hreadU
  exact ⟨List.map_injective_iff.2 (fun _ _ => CodePoint.char.inj) hreadU.1, hreadU.2⟩

end Disassembly.Json
