import Disassembly.Proofs.Signature.Choice
import Mathlib.Tactic

/-!
# Agreement is symmetric

Two declarations agree equally well whichever of them is looked for, and no declaration agrees
better with another one than with itself (`exists_score_symm`). Every part of a score has both
properties: the score of two types, the sum over the parameters, the score of the results, and the
number of shared modifiers, which is symmetric because no declaration has a modifier twice. Whether
there is a score is symmetric too, and with it whether one text is a match for the other.
-/

set_option autoImplicit false

namespace Disassembly

open Text

/-! ## Types -/

namespace TypeName

theorem conflict_comm (a b : Text) : conflict a b = conflict b a := by
  rw [conflict, conflict, Bool.and_comm (a.contains '.')]
  simp only [bne_comm (a := withDots a), Bool.and_right_comm]

theorem score_comm (a b : TypeName) : a.score b = b.score a := by
  simp only [score, conflict_comm a.base, ne_comm (a := a.dimensions),
    eq_comm (a := simpleName a.base), Bool.or_comm (covers (simpleName a.base) _)]

/-- No type agrees better with another one than with itself. -/
theorem score_le (a b : TypeName) : a.score b ≤ exactScore := by
  rw [score]
  split
  · exact Nat.zero_le _
  · dsimp only
    split
    · exact le_refl _
    · split
      · decide
      · exact Nat.zero_le _

end TypeName

theorem typeScore_comm {a b : Text} (ha : '\n' ∉ a) (hb : '\n' ∉ b) :
    typeScore a b = typeScore b a := by
  rw [typeScore_eq ha hb, typeScore_eq hb ha, TypeName.score_comm]

theorem typeScore_le {a b : Text} {n : Nat} (h : typeScore a b = .ok n) :
    n ≤ TypeName.exactScore := by
  obtain ⟨x, -, h⟩ := bind_eq_ok_iff.1 h
  obtain ⟨y, -, h⟩ := bind_eq_ok_iff.1 h
  obtain rfl := Except.ok.inj h
  exact TypeName.score_le x y

namespace Signature

/-! ## Parameters -/

theorem parameterScore_comm {as bs : List Text} (ha : ∀ a ∈ as, '\n' ∉ a)
    (hb : ∀ b ∈ bs, '\n' ∉ b) : parameterScore as bs = parameterScore bs as := by
  induction as generalizing bs with
  | nil => cases bs <;> rfl
  | cons a as ih =>
    cases bs with
    | nil => rfl
    | cons b bs =>
      rw [List.forall_mem_cons] at ha hb
      rw [parameterScore, parameterScore, typeScore_comm ha.1 hb.1, ih ha.2 hb.2]

theorem parameterScore_le {as bs : List Text} {n : Nat}
    (h : parameterScore as bs = .ok (some n)) : n ≤ TypeName.exactScore * as.length := by
  induction as generalizing bs n with
  | nil =>
    cases bs with
    | nil =>
      obtain rfl := Option.some.inj (Except.ok.inj h)
      exact Nat.zero_le _
    | cons b bs => cases h
  | cons a as ih =>
    cases bs with
    | nil => cases h
    | cons b bs =>
      obtain ⟨k, m, -, hk, hm, rfl⟩ := parameterScore_cons_eq_some_iff.1 h
      have hfirst := typeScore_le hk
      have hrest := ih hm
      rw [List.length_cons, Nat.mul_succ]
      omega

theorem parameterScore_self {as : List Text} (ha : ∀ a ∈ as, '\n' ∉ a) :
    parameterScore as as = .ok (some (TypeName.exactScore * as.length)) := by
  induction as with
  | nil => rfl
  | cons a as ih =>
    rw [List.forall_mem_cons] at ha
    refine parameterScore_cons_eq_some_iff.2
      ⟨TypeName.exactScore, _, by decide, typeScore_self ha.1, ih ha.2, ?_⟩
    rw [List.length_cons, Nat.mul_succ, Nat.add_comm]

/-! ## Results -/

theorem resultScore_comm {x y : Option Text} (hx : ∀ type ∈ x, '\n' ∉ type)
    (hy : ∀ type ∈ y, '\n' ∉ type) : resultScore x y = resultScore y x := by
  cases x with
  | none => cases y <;> rfl
  | some a =>
    cases y with
    | none => rfl
    | some b => exact typeScore_comm (hx a rfl) (hy b rfl)

/-- No result agrees better with another one than with itself. -/
theorem exists_resultScore_self_le {x y : Option Text} (hx : ∀ type ∈ x, '\n' ∉ type) {r : Nat}
    (h : resultScore x y = .ok r) : ∃ own, resultScore x x = .ok own ∧ r ≤ own := by
  cases x with
  | none =>
    obtain rfl := Except.ok.inj h
    exact ⟨0, rfl, le_refl 0⟩
  | some a =>
    refine ⟨TypeName.exactScore, typeScore_self (hx a rfl), ?_⟩
    cases y with
    | none =>
      obtain rfl := Except.ok.inj h
      exact Nat.zero_le _
    | some b => exact typeScore_le h

/-! ## Modifiers -/

theorem nodup_modifiers {s : Text} {a : Signature} (h : ofText? s = some a) :
    a.modifiers.Nodup := by
  rw [ofText?, ofCanonical?, Option.map_eq_some_iff] at h
  obtain ⟨shape, -, rfl⟩ := h
  exact List.Nodup.filter _ (by decide)

/-- Two lists have as many entries of the other one. -/
theorem length_filter_contains_comm {xs ys : List Text} (hx : xs.Nodup) (hy : ys.Nodup) :
    (xs.filter (ys.contains ·)).length = (ys.filter (xs.contains ·)).length := by
  have hperm : (xs.filter (ys.contains ·)).Perm (ys.filter (xs.contains ·)) := by
    rw [List.perm_ext_iff_of_nodup (hx.filter _) (hy.filter _)]
    intro w
    simp only [List.mem_filter, List.contains_iff_mem, and_comm]
  exact hperm.length_eq

/-! ## Declarations -/

/-- Which of two declarations is looked for does not matter for a score. -/
theorem score_eq_some_of_swap {s t : Text} {a b : Signature} (ha : ofText? s = some a)
    (hb : ofText? t = some b) {n : Nat} (h : a.score b = .ok (some n)) :
    b.score a = .ok (some n) := by
  obtain ⟨hname, p, r, hp, hr, rfl⟩ := score_eq_some_iff.1 h
  rw [parameterScore_comm (lineFeed_notMem ha).1 (lineFeed_notMem hb).1] at hp
  rw [resultScore_comm (lineFeed_notMem ha).2 (lineFeed_notMem hb).2] at hr
  rw [length_filter_contains_comm (nodup_modifiers ha) (nodup_modifiers hb)]
  exact score_eq_some_iff.2 ⟨hname.symm, p, r, hp, hr, rfl⟩

/-- No declaration agrees better with another one than with itself. -/
theorem exists_score_self_le {s : Text} {a b : Signature} (ha : ofText? s = some a) {n : Nat}
    (h : a.score b = .ok (some n)) : ∃ own, a.score a = .ok (some own) ∧ n ≤ own := by
  obtain ⟨-, p, r, hp, hr, rfl⟩ := score_eq_some_iff.1 h
  obtain ⟨own, hown, hle⟩ := exists_resultScore_self_le (lineFeed_notMem ha).2 hr
  have hself := parameterScore_self (lineFeed_notMem ha).1
  refine ⟨_, score_eq_some_iff.2 ⟨rfl, _, own, hself, hown, rfl⟩, ?_⟩
  have hparameters := parameterScore_le hp
  -- all modifiers of a declaration are shared with the declaration itself
  have hall : a.modifiers.filter (a.modifiers.contains ·) = a.modifiers :=
    List.filter_eq_self.2 fun w hw => List.contains_iff_mem.2 hw
  have hmodifiers := List.length_filter_le (b.modifiers.contains ·) a.modifiers
  rw [hall]
  omega

theorem score_comm {s t : Text} {a b : Signature} (ha : ofText? s = some a)
    (hb : ofText? t = some b) : a.score b = b.score a := by
  obtain ⟨first, hfirst⟩ := exists_score ha hb
  obtain ⟨second, hsecond⟩ := exists_score hb ha
  have hsame : first = second := by
    apply Option.ext
    intro n
    constructor
    · rintro rfl
      exact Except.ok.inj (hsecond.symm.trans (score_eq_some_of_swap ha hb hfirst))
    · rintro rfl
      exact Except.ok.inj (hfirst.symm.trans (score_eq_some_of_swap hb ha hsecond))
  rw [hfirst, hsecond, hsame]

theorem Plausible.symm {s t : Text} (h : Plausible s t) : Plausible t s := by
  cases h with
  | declared ha hb hscore => exact .declared hb ha (score_eq_some_of_swap ha hb hscore)
  | undeclared ha hb hsimple => exact .undeclared hb ha hsimple.symm

theorem bestMatch_single_eq_none_iff {s t : Text} :
    bestMatch s [t] = .ok none ↔ ¬Plausible s t := by
  rw [bestMatch_eq_choice, Except.ok.injEq, choice_eq_none_iff, List.forall_mem_singleton]

/-- Agreement is symmetric, every declaration agrees with itself, and none agrees better with
another one. So one text has no match in the other if and only if the other has none in the one. -/
theorem exists_score_symm :
    (∀ s t a b, ofText? s = some a → ofText? t = some b →
        ∃ common own, a.score b = .ok common ∧ b.score a = .ok common ∧
          a.score a = .ok (some own) ∧ ∀ n, common = some n → n ≤ own) ∧
      ∀ s t, bestMatch s [t] = .ok none ↔ bestMatch t [s] = .ok none := by
  refine ⟨fun s t a b ha hb => ?_, fun s t => ?_⟩
  · obtain ⟨common, hcommon⟩ := exists_score ha hb
    obtain ⟨own, hown⟩ := exists_score_self ha
    refine ⟨common, own, hcommon, score_comm ha hb ▸ hcommon, hown, ?_⟩
    rintro n rfl
    obtain ⟨own', hown', hle⟩ := exists_score_self_le ha hcommon
    have hsame := Option.some.inj (Except.ok.inj (hown.symm.trans hown'))
    rwa [hsame]
  · rw [bestMatch_single_eq_none_iff, bestMatch_single_eq_none_iff]
    exact not_congr ⟨Plausible.symm, Plausible.symm⟩

/-- The structure of a method with a type variable and a variable number of arguments. -/
def genericMax : Signature :=
  ⟨"max".toList, ["T[]".toList], some "T".toList, []⟩

/-- The structure of the same method without its type variable. -/
def erasedMax : Signature :=
  ⟨"max".toList, ["java.lang.Object[]".toList], some "java.lang.Object".toList,
    ["static".toList]⟩

theorem exists_score_symm_max :
    ofText? "<T> T max(T... values)".toList = some genericMax ∧
      ofText? "static java.lang.Object max(java.lang.Object[])".toList = some erasedMax ∧
      ∃ common own, genericMax.score erasedMax = .ok common ∧
        erasedMax.score genericMax = .ok common ∧ genericMax.score genericMax = .ok (some own) ∧
        ∀ n, common = some n → n ≤ own := by
  have hgeneric : ofText? "<T> T max(T... values)".toList = some genericMax := by decide +kernel
  have herased : ofText? "static java.lang.Object max(java.lang.Object[])".toList =
      some erasedMax := by
    decide +kernel
  exact ⟨hgeneric, herased, exists_score_symm.1 _ _ _ _ hgeneric herased⟩

end Signature

end Disassembly
