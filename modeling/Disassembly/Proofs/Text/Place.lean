import Disassembly.Text.Basic
import Mathlib.Tactic

/-!
# Places of a mark

A mark stands at a position of a text if the text goes on with the mark there (`places`). Cutting a
text at a mark finds the first place of it: what is in front of the cut holds none
(`cut?_eq_some_iff`), and a text is left uncut only if the mark stands nowhere in it
(`cut?_eq_none_iff`). A search from a position on finds the first place that is not in front of that
position (`placeFrom?_eq_some_iff`).
-/

set_option autoImplicit false

namespace Disassembly.Text

/-! ## Cuts -/

/-- A cut is made at the first place of the mark. -/
theorem cut?_eq_some_iff {mark t before rest : Text} :
    cut? mark t = some (before, rest) ↔
      t = before ++ (mark ++ rest) ∧ ∀ i < before.length, ¬ mark <+: t.drop i := by
  induction t generalizing before with
  | nil =>
    rw [cut?]
    constructor
    · intro h
      split at h
      · next hmark =>
        obtain ⟨rfl, rfl⟩ := Prod.mk.inj (Option.some.inj h)
        exact ⟨by rw [hmark]; rfl, fun i hi => absurd hi (Nat.not_lt_zero i)⟩
      · cases h
    · rintro ⟨h, -⟩
      obtain ⟨rfl, hrest⟩ := List.append_eq_nil_iff.1 h.symm
      obtain ⟨rfl, rfl⟩ := List.append_eq_nil_iff.1 hrest
      rfl
  | cons c r ih =>
    rw [cut?]
    by_cases hstart : mark <+: c :: r
    · rw [if_pos (List.isPrefixOf_iff_prefix.2 hstart)]
      obtain ⟨rest', hrest'⟩ := hstart
      rw [← hrest', List.drop_left, Option.some_inj, Prod.mk.injEq]
      constructor
      · rintro ⟨rfl, rfl⟩
        exact ⟨rfl, fun i hi => absurd hi (Nat.not_lt_zero i)⟩
      · rintro ⟨heq, hfirst⟩
        cases before with
        | nil => exact ⟨rfl, (List.append_cancel_left heq)⟩
        | cons d before => exact absurd (List.prefix_append mark rest') (hfirst 0 (Nat.succ_pos _))
    · rw [if_neg fun h => hstart (List.isPrefixOf_iff_prefix.1 h), Option.map_eq_some_iff]
      constructor
      · rintro ⟨parts, hparts, hpair⟩
        obtain ⟨rfl, rfl⟩ := Prod.mk.inj hpair
        obtain ⟨rfl, hfirst⟩ := ih.1 hparts
        refine ⟨rfl, fun i hi => ?_⟩
        cases i with
        | zero => exact hstart
        | succ i => exact hfirst i (Nat.lt_of_succ_lt_succ hi)
      · rintro ⟨heq, hfirst⟩
        cases before with
        | nil => exact absurd (heq ▸ List.prefix_append mark rest) hstart
        | cons d before =>
          obtain ⟨rfl, hr⟩ := List.cons.inj heq
          exact ⟨(before, rest), ih.2 ⟨hr, fun i hi => hfirst (i + 1) (Nat.succ_lt_succ hi)⟩, rfl⟩

theorem cut?_append_self (mark rest : Text) : cut? mark (mark ++ rest) = some ([], rest) :=
  cut?_eq_some_iff.2 ⟨rfl, fun i hi => absurd hi (Nat.not_lt_zero i)⟩

/-- A text is cut at the first place of a character. -/
theorem cut?_singleton_eq_some_iff {c : Char} {t before rest : Text} :
    cut? [c] t = some (before, rest) ↔ t = before ++ c :: rest ∧ c ∉ before := by
  rw [cut?_eq_some_iff]
  refine and_congr_right ?_
  rintro rfl
  have hplace : ∀ i (hi : i < before.length),
      [c] <+: (before ++ c :: rest).drop i ↔ c = before[i] := by
    intro i hi
    rw [List.drop_append_of_le_length hi.le, List.drop_eq_getElem_cons hi, List.cons_append,
      List.cons_prefix_cons, and_iff_left List.nil_prefix]
  constructor
  · intro hfirst hmem
    obtain ⟨i, hi, hc⟩ := List.getElem_of_mem hmem
    exact hfirst i hi ((hplace i hi).2 hc.symm)
  · intro hmem i hi hc
    exact hmem ((hplace i hi).1 hc ▸ List.getElem_mem hi)

/-- A text is not cut if and only if the mark stands nowhere in it. -/
theorem cut?_eq_none_iff {mark t : Text} : cut? mark t = none ↔ ¬ mark <:+: t := by
  induction t with
  | nil =>
    rw [cut?, List.infix_nil]
    split <;> simp_all
  | cons c r ih =>
    rw [cut?, List.infix_cons_iff, ← List.isPrefixOf_iff_prefix, not_or, ← ih]
    split <;> simp_all

/-- The first place of a mark has no more in front of it than any other. -/
theorem length_le_of_cut? {mark t before rest x y : Text}
    (h : cut? mark t = some (before, rest)) (ht : x ++ (mark ++ y) = t) :
    before.length ≤ x.length := by
  by_contra hlt
  refine (cut?_eq_some_iff.1 h).2 x.length (Nat.lt_of_not_le hlt) ?_
  rw [← ht, List.drop_left]
  exact List.prefix_append mark y

/-! ## Positions -/

/-- The positions at which a mark stands in a text. -/
def places (mark t : Text) : List Nat :=
  (List.range (t.length + 1)).filter fun i => mark.isPrefixOf (t.drop i)

/-- The first position from `start` on at which a mark stands in a text. -/
def placeFrom? (mark t : Text) (start : Nat) : Option Nat :=
  (List.range (t.length + 1)).find? fun i => decide (start ≤ i) && mark.isPrefixOf (t.drop i)

variable {mark t : Text} {start i : Nat}

theorem mem_places_iff : i ∈ places mark t ↔ i ≤ t.length ∧ mark <+: t.drop i := by
  rw [places, List.mem_filter, List.mem_range, Nat.lt_succ_iff, List.isPrefixOf_iff_prefix]

/-- The places of a mark are listed from left to right. -/
theorem pairwise_places (mark t : Text) : (places mark t).Pairwise (· < ·) :=
  List.pairwise_lt_range.filter _

theorem placeFrom?_zero : placeFrom? mark t 0 = (places mark t).head? := by
  rw [placeFrom?, places, List.head?_filter]
  simp

theorem placeFrom?_eq_some_iff :
    placeFrom? mark t start = some i ↔
      (i ∈ places mark t ∧ start ≤ i) ∧ ∀ j, start ≤ j → j < i → ¬ mark <+: t.drop j := by
  rw [placeFrom?, List.find?_range_eq_some, mem_places_iff]
  simp only [Bool.and_eq_true, decide_eq_true_eq, List.isPrefixOf_iff_prefix, List.mem_range,
    Nat.lt_succ_iff, Bool.not_eq_true', Bool.and_eq_false_iff, decide_eq_false_iff_not]
  grind

theorem placeFrom?_eq_none_iff :
    placeFrom? mark t start = none ↔ ∀ i ∈ places mark t, i < start := by
  rw [placeFrom?, List.find?_eq_none]
  simp only [mem_places_iff, Bool.and_eq_true, decide_eq_true_eq, List.isPrefixOf_iff_prefix,
    List.mem_range, Nat.lt_succ_iff, not_and]
  grind

end Disassembly.Text
