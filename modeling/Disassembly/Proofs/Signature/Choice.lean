import Disassembly.Proofs.Signature.Match
import Mathlib.Data.Char
import Mathlib.Data.List.Lex
import Mathlib.Data.Prod.Lex
import Mathlib.Tactic

/-!
# The best match is a choice from a set

The graded candidates are ordered by `Graded.rank`: by their grades first, and candidates with the
same grade by their texts, the other way round. This order is total, and the best of a list is its
greatest member (`best_eq_some_iff`). Every candidate has a grade, or none if it cannot be the same
method, so a search comes to its end for every target and all candidates (`search_total`). The grade
depends on the candidate and the target alone (`graded_eq`), so the order in which candidates are
given, and how often, has no influence on the match, and the best of two lists of candidates can be
found by matching each of them first (`bestMatch_pathIndependent`).
-/

set_option autoImplicit false

namespace Disassembly.Signature

open Text

/-! ## The order of graded candidates -/

/-- The rank of a graded candidate: a higher grade is better, and so is a smaller text. -/
def Graded.rank (g : Graded) : ℕ ×ₗ Textᵒᵈ :=
  toLex (g.grade, OrderDual.toDual g.candidate)

theorem Graded.rank_injective : Function.Injective Graded.rank := by
  rintro ⟨m, c⟩ ⟨n, d⟩ h
  simpa [rank] using h

theorem Graded.wins_iff {a b : Graded} : a.wins b = true ↔ b.rank < a.rank := by
  rw [rank, rank, Prod.Lex.toLex_lt_toLex, OrderDual.toDual_lt_toDual, wins, Bool.or_eq_true,
    decide_eq_true_iff, Bool.and_eq_true, beq_iff_eq, decide_eq_true_iff, eq_comm]

theorem rank_le_of_best {gs : List Graded} {winner : Graded} (h : best gs = some winner) :
    ∀ g ∈ gs, g.rank ≤ winner.rank := by
  induction gs generalizing winner with
  | nil => simp
  | cons first rest ih =>
    rw [best] at h
    rw [List.forall_mem_cons]
    cases hrest : best rest with
    | none =>
      rw [hrest] at h
      obtain rfl := Option.some.inj h
      rw [(best_eq_none_iff rest).1 hrest]
      exact ⟨le_refl _, by simp⟩
    | some b =>
      simp only [hrest] at h
      split at h
      next hwins =>
        obtain rfl := Option.some.inj h
        exact ⟨(Graded.wins_iff.1 hwins).le, ih hrest⟩
      next hwins =>
        -- the best of the rest does not win over the first, so neither does any of the rest
        obtain rfl := Option.some.inj h
        have hle : b.rank ≤ first.rank := not_lt.1 fun hlt => hwins (Graded.wins_iff.2 hlt)
        exact ⟨le_refl _, fun g hg => (ih hrest g hg).trans hle⟩

theorem exists_best_of_mem {gs : List Graded} {g : Graded} (h : g ∈ gs) :
    ∃ winner, best gs = some winner ∧ g.rank ≤ winner.rank := by
  cases hbest : best gs with
  | none =>
    rw [(best_eq_none_iff gs).1 hbest] at h
    exact absurd h List.not_mem_nil
  | some winner => exact ⟨winner, rfl, rank_le_of_best hbest g h⟩

/-- The best of a list is its greatest member. -/
theorem best_eq_some_iff {gs : List Graded} {winner : Graded} :
    best gs = some winner ↔ winner ∈ gs ∧ ∀ g ∈ gs, g.rank ≤ winner.rank := by
  constructor
  · intro h
    exact ⟨mem_of_best h, rank_le_of_best h⟩
  · rintro ⟨hmem, hmax⟩
    obtain ⟨other, hother, hle⟩ := exists_best_of_mem hmem
    have hsame : other.rank = winner.rank := le_antisymm (hmax other (mem_of_best hother)) hle
    rw [hother, Graded.rank_injective hsame]

theorem best_congr {gs hs : List Graded} (h : ∀ g, g ∈ gs ↔ g ∈ hs) : best gs = best hs := by
  apply Option.ext
  intro winner
  simp only [best_eq_some_iff, h]

/-- The best of two lists is the better one of the best of each. -/
theorem best_append (gs hs : List Graded) :
    best (gs ++ hs) = best ((best gs).toList ++ (best hs).toList) := by
  cases hwinner : best ((best gs).toList ++ (best hs).toList) with
  | none =>
    have hnone := List.append_eq_nil_iff.1 ((best_eq_none_iff _).1 hwinner)
    rw [Option.toList_eq_nil_iff, Option.toList_eq_nil_iff, best_eq_none_iff,
      best_eq_none_iff] at hnone
    rw [hnone.1, hnone.2]
    rfl
  | some winner =>
    obtain ⟨hmem, hmax⟩ := best_eq_some_iff.1 hwinner
    rw [List.mem_append, Option.mem_toList, Option.mem_toList] at hmem
    rw [best_eq_some_iff]
    refine ⟨List.mem_append.2 (hmem.imp mem_of_best mem_of_best), ?_⟩
    -- whatever is in one of the lists is at most its best, and that is at most the winner
    intro g hg
    rcases List.mem_append.1 hg with hg | hg
    · obtain ⟨b, hb, hle⟩ := exists_best_of_mem hg
      exact hle.trans (hmax b (List.mem_append_left _ (Option.mem_toList.2 hb)))
    · obtain ⟨b, hb, hle⟩ := exists_best_of_mem hg
      exact hle.trans (hmax b (List.mem_append_right _ (Option.mem_toList.2 hb)))

/-! ## The grade of a candidate -/

/-- A candidate with its grade, if it can be the same method as the target. -/
def standing? (target candidate : Text) : Option Graded :=
  match (Profile.ofText target).grade (.ofText candidate) with
  | .ok (some grade) => some ⟨grade, candidate⟩
  | _ => none

section Standing

variable {target candidate : Text}

theorem candidate_of_standing? {g : Graded} (h : standing? target candidate = some g) :
    g.candidate = candidate := by
  rw [standing?] at h
  split at h
  next => rw [← Option.some.inj h]
  next => cases h

theorem isSome_standing? : (standing? target candidate).isSome = true ↔
    Plausible target candidate := by
  obtain ⟨grade, hgrade, hplausible⟩ := exists_grade target candidate
  rw [← hplausible, standing?, hgrade]
  cases grade <;> rfl

end Standing

/-- Every candidate is graded for itself. -/
theorem graded_eq (target : Text) (candidates : List Text) :
    graded (.ofText target) candidates = .ok (candidates.filterMap (standing? target)) := by
  induction candidates with
  | nil => rfl
  | cons first rest ih =>
    obtain ⟨grade, hgrade, -⟩ := exists_grade target first
    rw [graded, hgrade, ih, List.filterMap_cons, standing?, hgrade]
    cases grade <;> rfl

/-- A search comes to an end. -/
theorem exists_search (target : Text) (candidates : List Text) :
    ∃ m, search target candidates = .ok m := by
  rw [search]
  split
  next => exact ⟨.verbatim, rfl⟩
  next =>
    rw [graded_eq]
    simp only [bind, Except.bind]
    split
    next winner _ => exact ⟨.graded winner, rfl⟩
    next => exact ⟨.unmatched, rfl⟩

/-- Whatever texts are compared, every type that is read off one of them is in one line and shows a
type name, which is read; so any two of these types can be compared, and the search for the best
match comes to its end. -/
theorem search_total :
    (∀ s a, ofText? s = some a → ∀ type ∈ a.types, '\n' ∉ type ∧
      ∃ name : TypeName, name.Fits type ∧ TypeName.ofText type = .ok name) ∧
    (∀ s a s' b, ofText? s = some a → ofText? s' = some b →
      ∀ x ∈ a.types, ∀ y ∈ b.types, ∃ n, typeScore x y = .ok n) ∧
    ∀ target candidates, ∃ m, search target candidates = .ok m ∧
      bestMatch target candidates = .ok (m.candidate? target) := by
  refine ⟨?_, ?_, ?_⟩
  · intro s a h type htype
    have hfeed := lineFeed_notMem_of_mem_types h htype
    have hname := TypeName.ofText_eq hfeed
    exact ⟨hfeed, _, (TypeName.ofText_eq_ok_iff.1 hname).1, hname⟩
  · intro s a s' b ha hb x hx y hy
    exact exists_typeScore (lineFeed_notMem_of_mem_types ha hx) (lineFeed_notMem_of_mem_types hb hy)
  · intro target candidates
    obtain ⟨m, hm⟩ := exists_search target candidates
    refine ⟨m, hm, ?_⟩
    rw [bestMatch, hm]
    rfl

/-! ## The choice -/

/-- The candidate that is chosen for a target: the target itself where it is a candidate, otherwise
the best of the candidates that have a grade. -/
def choice (target : Text) (candidates : List Text) : Option Text :=
  if candidates.contains target then some target
  else (best (candidates.filterMap (standing? target))).map Graded.candidate

section Choice

variable {target : Text} {candidates : List Text}

theorem choice_of_mem (h : target ∈ candidates) : choice target candidates = some target :=
  if_pos (List.contains_iff_mem.2 h)

theorem choice_of_notMem (h : target ∉ candidates) : choice target candidates =
    (best (candidates.filterMap (standing? target))).map Graded.candidate :=
  if_neg fun hmem => h (List.contains_iff_mem.1 hmem)

theorem bestMatch_eq_choice : bestMatch target candidates = .ok (choice target candidates) := by
  rw [bestMatch, search]
  by_cases hverbatim : target ∈ candidates
  · rw [if_pos hverbatim, choice_of_mem hverbatim]
    rfl
  · rw [if_neg hverbatim, choice_of_notMem hverbatim, graded_eq]
    simp only [bind, Except.bind]
    cases best (candidates.filterMap (standing? target)) <;> rfl

/-- What is best has its own grade. -/
theorem standing?_of_best {g : Graded}
    (h : best (candidates.filterMap (standing? target)) = some g) :
    g.candidate ∈ candidates ∧ standing? target g.candidate = some g := by
  obtain ⟨c, hc, hstanding⟩ := List.mem_filterMap.1 (mem_of_best h)
  rw [candidate_of_standing? hstanding]
  exact ⟨hc, hstanding⟩

theorem mem_of_choice {c : Text} (h : choice target candidates = some c) : c ∈ candidates := by
  by_cases hverbatim : target ∈ candidates
  · rw [choice_of_mem hverbatim] at h
    rwa [← Option.some.inj h]
  · rw [choice_of_notMem hverbatim] at h
    obtain ⟨g, hg, rfl⟩ := Option.map_eq_some_iff.1 h
    exact (standing?_of_best hg).1

theorem choice_eq_none_iff :
    choice target candidates = none ↔ ∀ c ∈ candidates, ¬Plausible target c := by
  by_cases hverbatim : target ∈ candidates
  · rw [choice_of_mem hverbatim]
    exact iff_of_false (Option.some_ne_none _) fun h => h target hverbatim (plausible_self target)
  · simp only [choice_of_notMem hverbatim, Option.map_eq_none_iff, best_eq_none_iff,
      List.filterMap_eq_nil_iff, ← isSome_standing?, Option.not_isSome_iff_eq_none]

/-- The choice depends on the set of the candidates only. -/
theorem choice_congr {others : List Text} (h : ∀ c, c ∈ candidates ↔ c ∈ others) :
    choice target candidates = choice target others := by
  have hgraded : ∀ g, g ∈ candidates.filterMap (standing? target) ↔
      g ∈ others.filterMap (standing? target) := by
    intro g
    simp only [List.mem_filterMap, h]
  by_cases hverbatim : target ∈ candidates
  · rw [choice_of_mem hverbatim, choice_of_mem ((h target).1 hverbatim)]
  · rw [choice_of_notMem hverbatim, choice_of_notMem fun hmem => hverbatim ((h target).2 hmem),
      best_congr hgraded]

/-- The grade of the candidate that is chosen is that of the best. -/
theorem filterMap_standing?_choice (h : target ∉ candidates) :
    (choice target candidates).toList.filterMap (standing? target) =
      (best (candidates.filterMap (standing? target))).toList := by
  rw [choice_of_notMem h]
  cases hbest : best (candidates.filterMap (standing? target)) with
  | none => rfl
  | some g => simp [(standing?_of_best hbest).2]

end Choice

/-- A choice from two lists is a choice between the choices from each of them. -/
theorem choice_append (target : Text) (xs ys : List Text) :
    choice target (xs ++ ys) =
      choice target ((choice target xs).toList ++ (choice target ys).toList) := by
  have hmem : ∀ cs, target ∈ (choice target cs).toList ↔ target ∈ cs := by
    intro cs
    rw [Option.mem_toList]
    exact ⟨mem_of_choice, choice_of_mem⟩
  by_cases hverbatim : target ∈ xs ++ ys
  · rw [choice_of_mem hverbatim, choice_of_mem]
    rwa [List.mem_append, hmem, hmem, ← List.mem_append]
  · have hparts : target ∉ (choice target xs).toList ++ (choice target ys).toList := by
      rwa [List.mem_append, hmem, hmem, ← List.mem_append]
    have hneither := hverbatim
    rw [List.mem_append, not_or] at hneither
    rw [choice_of_notMem hverbatim, choice_of_notMem hparts, List.filterMap_append,
      List.filterMap_append, filterMap_standing?_choice hneither.1,
      filterMap_standing?_choice hneither.2, best_append]

/-- The match depends on the set of the candidates only: neither their order nor repetitions count.
And it does not depend on the path by which it is found: the match among the candidates of two
lists is the match among those that are found in either list. -/
theorem bestMatch_pathIndependent (target : Text) (xs ys : List Text) :
    ((∀ c, c ∈ xs ↔ c ∈ ys) → bestMatch target xs = bestMatch target ys) ∧
      ∃ first second found, bestMatch target xs = .ok first ∧ bestMatch target ys = .ok second ∧
        bestMatch target (xs ++ ys) = .ok found ∧
        bestMatch target (first.toList ++ second.toList) = .ok found := by
  refine ⟨fun h => ?_, choice target xs, choice target ys, choice target (xs ++ ys),
    bestMatch_eq_choice, bestMatch_eq_choice, bestMatch_eq_choice, ?_⟩
  · rw [bestMatch_eq_choice, bestMatch_eq_choice, choice_congr h]
  · rw [bestMatch_eq_choice, ← choice_append]

/-- Two overloads, of which the first may have been erased to the one that is looked for. -/
def sumOverloads : List Text :=
  ["long sum(long, T)".toList, "int sum(long, int)".toList]

/-- The match among overloads that are given twice and in another order. -/
theorem bestMatch_pathIndependent_sum :
    (∀ c, c ∈ sumOverloads.reverse ++ sumOverloads ↔ c ∈ sumOverloads) ∧
      bestMatch "int sum(long, java.lang.String)".toList (sumOverloads.reverse ++ sumOverloads) =
        .ok sumOverloads.head? := by
  have hmem : ∀ c, c ∈ sumOverloads.reverse ++ sumOverloads ↔ c ∈ sumOverloads := by
    intro c
    rw [List.mem_append, List.mem_reverse, or_self]
  refine ⟨hmem, ?_⟩
  rw [(bestMatch_pathIndependent _ _ _).1 hmem]
  decide +kernel

end Disassembly.Signature
