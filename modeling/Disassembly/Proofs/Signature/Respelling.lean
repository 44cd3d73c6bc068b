import Disassembly.Proofs.Signature.Score
import Mathlib.Tactic

/-!
# Dots for dollar signs

A class that is nested in another one is joined to it by a dollar sign or by a dot, and a name can
be spelled again with dots for some of its dollar signs (`Respelled`). This changes neither the last
part of a name nor its dimensions, and not whether one name extends another. It can change whether a
name counts as one that says a package, since only a dot is looked for there. So the score of two
types is the same in every spelling, but for one case (`typeScore_respelled`): both names have a dot
in the new spelling and not both in the old one, and neither of them extends the other. Then they
agree in the old spelling and do not in the new one (`typeScore_dollarEntry`).
-/

set_option autoImplicit false

namespace Disassembly

open Text

/-- The second text is the first one with dots for some of its dollar signs. -/
def Respelled (t u : Text) : Prop :=
  List.Forall₂ (fun c d => d = c ∨ c = '$' ∧ d = '.') t u

namespace Respelled

variable {t u : Text}

theorem mem_of_mem_left (h : Respelled t u) {c : Char} (hc : c ∈ t) (hne : c ≠ '$') : c ∈ u := by
  induction h with
  | nil => exact hc
  | cons hfirst _ ih =>
    rcases List.mem_cons.1 hc with rfl | hc
    · obtain rfl | ⟨hdollar, -⟩ := hfirst
      · exact List.mem_cons_self
      · exact absurd hdollar hne
    · exact List.mem_cons_of_mem _ (ih hc)

theorem mem_of_mem_right (h : Respelled t u) {c : Char} (hc : c ∈ u) (hne : c ≠ '.') : c ∈ t := by
  induction h with
  | nil => exact hc
  | cons hfirst _ ih =>
    rcases List.mem_cons.1 hc with rfl | hc
    · obtain rfl | ⟨-, hdot⟩ := hfirst
      · exact List.mem_cons_self
      · exact absurd hdot hne
    · exact List.mem_cons_of_mem _ (ih hc)

/-- With dots everywhere, all spellings are the same. -/
theorem withDots_eq (h : Respelled t u) : TypeName.withDots t = TypeName.withDots u := by
  induction h with
  | nil => rfl
  | cons hfirst _ ih =>
    rw [TypeName.withDots, TypeName.withDots, List.map_cons, List.map_cons,
      ← TypeName.withDots, ← TypeName.withDots, ih]
    obtain rfl | ⟨rfl, rfl⟩ := hfirst
    · rfl
    · rfl

theorem simpleName_eq (h : Respelled t u) : TypeName.simpleName t = TypeName.simpleName u := by
  rw [← TypeName.simpleName_withDots, h.withDots_eq, TypeName.simpleName_withDots]

theorem extends_iff {v w : Text} (h : Respelled t u) (h' : Respelled v w) :
    TypeName.Extends t v ↔ TypeName.Extends u w := by
  rw [TypeName.Extends, TypeName.Extends, h.withDots_eq, h'.withDots_eq]

/-- The brackets at the end of a type are not touched. -/
theorem splitDimensions (h : Respelled t u) :
    Respelled (TypeName.splitDimensions t).base (TypeName.splitDimensions u).base ∧
      (TypeName.splitDimensions t).dimensions = (TypeName.splitDimensions u).dimensions := by
  induction t using TypeName.splitDimensions.induct generalizing u with
  | case1 r ih =>
    -- both brackets are still there in the new spelling
    obtain ⟨c, v, hc, hv, rfl⟩ := List.forall₂_cons_left_iff.1 h
    obtain ⟨d, w, hd, hw, rfl⟩ := List.forall₂_cons_left_iff.1 hv
    obtain rfl : c = ']' := hc.resolve_right fun hdollar => absurd hdollar.1 (by decide)
    obtain rfl : d = '[' := hd.resolve_right fun hdollar => absurd hdollar.1 (by decide)
    rw [TypeName.splitDimensions, TypeName.splitDimensions]
    exact ⟨(ih hw).1, congrArg (· + 1) (ih hw).2⟩
  | case2 t hnone =>
    have hplain : TypeName.splitDimensions u = ⟨u.reverse, 0⟩ := by
      rw [TypeName.splitDimensions.eq_def]
      split
      next r =>
        -- brackets in the new spelling were there before
        obtain ⟨c, v, hc, hv, rfl⟩ := List.forall₂_cons_right_iff.1 h
        obtain ⟨d, w, hd, -, rfl⟩ := List.forall₂_cons_right_iff.1 hv
        obtain rfl : ']' = c := hc.resolve_right fun hdot => absurd hdot.2 (by decide)
        obtain rfl : '[' = d := hd.resolve_right fun hdot => absurd hdot.2 (by decide)
        exact absurd rfl (hnone w)
      next => rfl
    rw [TypeName.splitDimensions.eq_2 t hnone, hplain]
    exact ⟨List.forall₂_reverse_iff.2 h, rfl⟩

end Respelled

namespace TypeName

/-- The brackets of a type hold no dot. -/
theorem dot_mem_base_iff (t : Text) : '.' ∈ (splitDimensions t.reverse).base ↔ '.' ∈ t := by
  conv_rhs => rw [← List.reverse_reverse t, ← text_splitDimensions, text]
  simp

/-- Brackets behind both names do not matter for whether one extends the other. -/
theorem extends_base_iff {a b : Text} (h : (splitDimensions a.reverse).dimensions =
    (splitDimensions b.reverse).dimensions) :
    Extends (splitDimensions a.reverse).base (splitDimensions b.reverse).base ↔ Extends a b := by
  have ha := text_splitDimensions a.reverse
  have hb := text_splitDimensions b.reverse
  rw [List.reverse_reverse, text] at ha hb
  conv_rhs => rw [Extends, ← ha, ← hb, h, withDots, withDots, List.map_append, List.map_append,
    ← List.cons_append, ← List.cons_append, List.suffix_append_self_iff]
  rfl

/-- When the names in two types with the same dimensions conflict. -/
theorem conflict_base_iff {a b : Text} (h : (splitDimensions a.reverse).dimensions =
    (splitDimensions b.reverse).dimensions) :
    conflict (splitDimensions a.reverse).base (splitDimensions b.reverse).base = true ↔
      ('.' ∈ a ∧ '.' ∈ b) ∧ ¬Extends a b ∧ ¬Extends b a := by
  rw [conflict_eq_true_iff, dot_mem_base_iff, dot_mem_base_iff, extends_base_iff h,
    extends_base_iff h.symm]

theorem of_score_pos {x y : TypeName} (h : 0 < x.score y) :
    x.dimensions = y.dimensions ∧ conflict x.base y.base = false := by
  rw [score] at h
  split at h
  next => exact absurd h (Nat.lt_irrefl 0)
  next hnone => simpa using hnone

section Score

variable {x x' y y' : TypeName} (hx : Respelled x.base x'.base) (hy : Respelled y.base y'.base)
include hx hy

theorem conflict_respelled (h : conflict x.base y.base = true) :
    conflict x'.base y'.base = true := by
  obtain ⟨⟨hdot, hdot'⟩, hextends, hextends'⟩ := conflict_eq_true_iff.1 h
  refine conflict_eq_true_iff.2 ⟨⟨?_, ?_⟩, ?_, ?_⟩
  · exact hx.mem_of_mem_left hdot (by decide)
  · exact hy.mem_of_mem_left hdot' (by decide)
  · rwa [← hx.extends_iff hy]
  · rwa [← hy.extends_iff hx]

/-- Nothing but a conflict of the names can make a difference. -/
theorem score_respelled (hdx : x.dimensions = x'.dimensions) (hdy : y.dimensions = y'.dimensions) :
    x'.score y' = if conflict x'.base y'.base then 0 else x.score y := by
  by_cases hconflict : conflict x'.base y'.base = true
  · rw [if_pos hconflict, score, hconflict, Bool.or_true, if_pos rfl]
  · have hold : conflict x.base y.base = false :=
      Bool.eq_false_iff.2 fun h => hconflict (conflict_respelled hx hy h)
    rw [if_neg hconflict, score, score, Bool.eq_false_iff.2 hconflict, hold, hdx, hdy,
      hx.simpleName_eq, hy.simpleName_eq]

theorem score_respelled_ne_iff (hdx : x.dimensions = x'.dimensions)
    (hdy : y.dimensions = y'.dimensions) :
    x'.score y' ≠ x.score y ↔ 0 < x.score y ∧ conflict x'.base y'.base = true := by
  rw [score_respelled hx hy hdx hdy]
  by_cases hconflict : conflict x'.base y'.base = true
  · rw [if_pos hconflict, Nat.pos_iff_ne_zero]
    exact ⟨fun hne => ⟨hne.symm, hconflict⟩, fun h => h.1.symm⟩
  · rw [if_neg hconflict]
    exact ⟨fun hne => absurd rfl hne, fun h => absurd h.2 hconflict⟩

end Score

end TypeName

/-- The score of two types is the same in every spelling, unless both names have a dot in the new
spelling and not both in the old one, and neither of them extends the other; then types that agree
in the old spelling have the score zero in the new one. -/
theorem typeScore_respelled {a a' b b' : Text} (ha : Respelled a a') (hb : Respelled b b')
    (hlineA : '\n' ∉ a) (hlineB : '\n' ∉ b) :
    ∃ n n', typeScore a b = .ok n ∧ typeScore a' b' = .ok n' ∧ (n' = n ∨ n' = 0) ∧
      (n' ≠ n ↔ 0 < n ∧ ('.' ∈ a' ∧ '.' ∈ b') ∧ ¬('.' ∈ a ∧ '.' ∈ b) ∧
        ¬TypeName.Extends a b ∧ ¬TypeName.Extends b a) := by
  have hlineA' : '\n' ∉ a' := fun hc => hlineA (ha.mem_of_mem_right hc (by decide))
  have hlineB' : '\n' ∉ b' := fun hc => hlineB (hb.mem_of_mem_right hc (by decide))
  obtain ⟨hx, hdx⟩ := Respelled.splitDimensions (List.forall₂_reverse_iff.2 ha)
  obtain ⟨hy, hdy⟩ := Respelled.splitDimensions (List.forall₂_reverse_iff.2 hb)
  refine ⟨_, _, typeScore_eq hlineA hlineB, typeScore_eq hlineA' hlineB', ?_, ?_⟩
  · rw [TypeName.score_respelled hx hy hdx hdy]
    split
    · exact .inr rfl
    · exact .inl rfl
  · rw [TypeName.score_respelled_ne_iff hx hy hdx hdy]
    refine and_congr_right fun hpos => ?_
    obtain ⟨hdimensions, hagree⟩ := TypeName.of_score_pos hpos
    rw [TypeName.conflict_base_iff (hdx.symm.trans (hdimensions.trans hdy)),
      ← ha.extends_iff hb, ← hb.extends_iff ha]
    constructor
    · rintro ⟨hdots, hextends⟩
      -- the types agree in the old spelling, so there is no conflict in it
      refine ⟨hdots, fun hold => ?_, hextends⟩
      have hconflict := (TypeName.conflict_base_iff hdimensions).2 ⟨hold, hextends⟩
      exact Bool.false_ne_true (hagree.symm.trans hconflict)
    · rintro ⟨hdots, -, hextends⟩
      exact ⟨hdots, hextends⟩

/-- A nested class with its package, spelled with a dollar sign and with a dot. -/
theorem typeScore_respelled_entry :
    Respelled "java.util.Map$Entry[]".toList "java.util.Map.Entry[]".toList ∧
      Respelled "Map$Entry[]".toList "Map$Entry[]".toList ∧
      typeScore "java.util.Map.Entry[]".toList "Map$Entry[]".toList =
        typeScore "java.util.Map$Entry[]".toList "Map$Entry[]".toList := by
  have ha : Respelled "java.util.Map$Entry[]".toList "java.util.Map.Entry[]".toList := by
    unfold Respelled
    decide
  have hb : Respelled "Map$Entry[]".toList "Map$Entry[]".toList :=
    List.forall₂_same.2 fun c _ => .inl rfl
  refine ⟨ha, hb, ?_⟩
  obtain ⟨n, n', hn, hn', -, hdiffer⟩ := typeScore_respelled ha hb (by decide) (by decide)
  have hsame : n' = n := by
    by_contra hne
    exact absurd (hdiffer.1 hne).2.1.2 (by decide)
  rw [hn, hn', hsame]

/-- Two classes that are called `Entry` agree or not, depending on how the first one is joined to
its outer class. -/
theorem typeScore_dollarEntry :
    Respelled "Map$Entry".toList "Map.Entry".toList ∧
      typeScore "Map$Entry".toList "java.awt.Entry".toList = .ok TypeName.exactScore ∧
      typeScore "Map.Entry".toList "java.awt.Entry".toList = .ok 0 := by
  refine ⟨?_, by decide, by decide⟩
  unfold Respelled
  decide

end Disassembly
