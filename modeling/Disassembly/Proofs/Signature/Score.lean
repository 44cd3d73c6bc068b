import Disassembly.Proofs.Outcome
import Disassembly.Proofs.Signature.Spacing
import Disassembly.Proofs.Signature.TypeName
import Disassembly.Signature.Basic
import Mathlib.Tactic

/-!
# The score of two declarations

A type that is read off a declaration has no blank characters but spaces, whatever the declaration
was read from (`eq_space_of_mem_types`). So no line ends inside it, and two declarations can always
be compared (`exists_score`). A score is the sum of three parts (`score_eq_some_iff`). A
declaration agrees with itself (`exists_score_self`), and declarations that agree at all have the
same name and parameters that agree pair by pair (`forall₂_of_score`).
-/

set_option autoImplicit false

namespace Disassembly

open Text

namespace Signature

/-! ## The types of a declaration -/

theorem mem_of_ofText?_shape {t : Text} {s : Shape} (h : Shape.ofText? t = some s) {c : Char}
    (hc : c ∈ s.head ∨ c ∈ s.parameters) : c ∈ t := by
  rw [Shape.ofText?] at h
  split at h
  next body hbody =>
    split at h
    next front hfront =>
      simp only at h
      split at h
      next => cases h
      next =>
        obtain rfl := Option.some.inj h
        -- from its end, the text shows the parameters up to the opening parenthesis
        -- and the head behind it
        have hsub : c ∈ body := by
          rcases hc with hc | hc
          · have hfrontMem := (List.dropWhile_suffix _).subset (List.mem_reverse.1 hc)
            apply (List.dropWhile_suffix isOutsideParentheses).subset
            rw [hfront]
            exact List.mem_cons_of_mem _ hfrontMem
          · exact (List.takeWhile_prefix _).subset (List.mem_reverse.1 hc)
        rw [← List.mem_reverse, hbody]
        exact List.mem_cons_of_mem _ hsub
    next => cases h
  next => cases h

theorem mem_of_mem_parameterType {p : Text} {c : Char} (h : c ∈ parameterType p) : c ∈ p := by
  rw [parameterType] at h
  cases hwords : (words p).filter (!isModifier ·) with
  | nil =>
    rw [hwords] at h
    exact h
  | cons w rest =>
    rw [hwords] at h
    have hw : w ∈ (words p).filter (!isModifier ·) := hwords ▸ List.mem_cons_self
    exact ((mem_words (List.mem_of_mem_filter hw)).2 c h).1

theorem mem_of_mem_parameterTypes {parameters type : Text} {c : Char}
    (htype : type ∈ parameterTypes parameters) (hc : c ∈ type) : c ∈ parameters := by
  obtain ⟨p, hp, rfl⟩ := List.mem_map.1 htype
  obtain ⟨piece, hpiece, rfl⟩ := List.mem_map.1 (List.mem_of_mem_filter hp)
  exact (mem_of_mem_splitOn hpiece (mem_of_mem_trim (mem_of_mem_parameterType hc))).1

/-- The types of a declaration: those of its parameters, and that of its result. -/
def types (a : Signature) : List Text :=
  a.parameters ++ a.result.toList

section Types

variable {s : Text} {a : Signature} (h : ofText? s = some a)
include h

/-- All characters of a type stand in the canonical text. -/
theorem mem_canonical_of_mem_types {type : Text} (htype : type ∈ a.types) {c : Char}
    (hc : c ∈ type) : c ∈ canonical .qualified s := by
  rw [ofText?, ofCanonical?, Option.map_eq_some_iff] at h
  obtain ⟨shape, hshape, rfl⟩ := h
  apply mem_of_ofText?_shape hshape
  rw [types, List.mem_append, Option.mem_toList] at htype
  rcases htype with htype | htype
  · exact Or.inr (mem_of_mem_parameterTypes htype hc)
  · have hw := List.mem_of_mem_filter (List.mem_of_getLast? htype)
    exact Or.inl ((mem_words hw).2 c hc).1

/-- The only blank character in a type is the space. -/
theorem eq_space_of_mem_types {type : Text} (htype : type ∈ a.types) {c : Char} (hc : c ∈ type)
    (hblank : isBlank c = true) : c = ' ' := by
  have hmem : c ∈ respace (erase s) := mem_canonical_of_mem_types h htype hc
  exact isBlank_of_mem_respace hmem hblank

theorem lineFeed_notMem_of_mem_types {type : Text} (htype : type ∈ a.types) : '\n' ∉ type := by
  intro hc
  exact absurd (eq_space_of_mem_types h htype hc (by decide)) (by decide)

/-- No line ends inside the type of a parameter or of the result. -/
theorem lineFeed_notMem :
    (∀ type ∈ a.parameters, '\n' ∉ type) ∧ ∀ type ∈ a.result, '\n' ∉ type := by
  refine ⟨fun type htype => ?_, fun type htype => ?_⟩
  · exact lineFeed_notMem_of_mem_types h (List.mem_append_left _ htype)
  · exact lineFeed_notMem_of_mem_types h (List.mem_append_right _ (Option.mem_toList.2 htype))

end Types

/-! ## The score of the parameters -/

theorem exists_parameterScore {as bs : List Text} (ha : ∀ a ∈ as, '\n' ∉ a)
    (hb : ∀ b ∈ bs, '\n' ∉ b) : ∃ n, parameterScore as bs = .ok n := by
  induction as generalizing bs with
  | nil => cases bs <;> exact ⟨_, rfl⟩
  | cons a as ih =>
    cases bs with
    | nil => exact ⟨_, rfl⟩
    | cons b bs =>
      obtain ⟨n, hn⟩ := exists_typeScore (ha a List.mem_cons_self) (hb b List.mem_cons_self)
      obtain ⟨rest, hrest⟩ := ih (fun x hx => ha x (List.mem_cons_of_mem a hx))
        fun y hy => hb y (List.mem_cons_of_mem b hy)
      simp only [parameterScore, hn, hrest, bind, Except.bind]
      split <;> exact ⟨_, rfl⟩

/-- Parameters with a score: the first types agree, and so do the other ones. -/
theorem parameterScore_cons_eq_some_iff {a b : Text} {as bs : List Text} {n : Nat} :
    parameterScore (a :: as) (b :: bs) = .ok (some n) ↔
      ∃ k m, 0 < k ∧ typeScore a b = .ok k ∧ parameterScore as bs = .ok (some m) ∧ k + m = n := by
  constructor
  · intro h
    obtain ⟨k, hk, h⟩ := bind_eq_ok_iff.1 h
    split at h
    next => cases h
    next hne =>
      obtain ⟨rest, hrest, h⟩ := bind_eq_ok_iff.1 h
      obtain ⟨m, rfl, hm⟩ := Option.map_eq_some_iff.1 (Except.ok.inj h)
      exact ⟨k, m, Nat.pos_of_ne_zero hne, hk, hrest, hm⟩
  · rintro ⟨k, m, hpos, hk, hm, rfl⟩
    simp only [parameterScore, hk, hm, bind, Except.bind, if_neg (Nat.ne_of_gt hpos)]
    rfl

/-- If the types agree pair by pair, there is a score. -/
theorem exists_parameterScore_of_forall₂ {as bs : List Text}
    (h : List.Forall₂ (fun a b => ∃ k, 0 < k ∧ typeScore a b = .ok k) as bs) :
    ∃ n, parameterScore as bs = .ok (some n) := by
  induction h with
  | nil => exact ⟨0, rfl⟩
  | cons hfirst _ ih =>
    obtain ⟨k, hpos, hk⟩ := hfirst
    obtain ⟨n, hn⟩ := ih
    exact ⟨k + n, parameterScore_cons_eq_some_iff.2 ⟨k, n, hpos, hk, hn, rfl⟩⟩

/-- The types agree pair by pair. -/
theorem forall₂_of_parameterScore {as bs : List Text} {n : Nat}
    (h : parameterScore as bs = .ok (some n)) :
    List.Forall₂ (fun a b => ∃ k, 0 < k ∧ typeScore a b = .ok k) as bs := by
  induction as generalizing bs n with
  | nil =>
    cases bs with
    | nil => exact .nil
    | cons b bs => cases h
  | cons a as ih =>
    cases bs with
    | nil => cases h
    | cons b bs =>
      obtain ⟨k, m, hpos, hk, hm, -⟩ := parameterScore_cons_eq_some_iff.1 h
      exact .cons ⟨k, hpos, hk⟩ (ih hm)

/-! ## The score of two declarations -/

/-- Declarations with a score: the names are the same, the parameters agree, and the results and
the shared modifiers count. -/
theorem score_eq_some_iff {a b : Signature} {n : Nat} :
    a.score b = .ok (some n) ↔ a.name = b.name ∧ ∃ p r,
      parameterScore a.parameters b.parameters = .ok (some p) ∧
        resultScore a.result b.result = .ok r ∧
        p + r + (a.modifiers.filter (b.modifiers.contains ·)).length = n := by
  rw [score]
  constructor
  · intro h
    split at h
    next => cases h
    next hsame =>
      rw [not_or, not_not] at hsame
      refine ⟨hsame.1, ?_⟩
      obtain ⟨parameters, hp, h⟩ := bind_eq_ok_iff.1 h
      cases parameters with
      | none => cases h
      | some p =>
        obtain ⟨r, hr, h⟩ := bind_eq_ok_iff.1 h
        exact ⟨p, r, hp, hr, Option.some.inj (Except.ok.inj h)⟩
  · rintro ⟨hname, p, r, hp, hr, rfl⟩
    have hsame : ¬(a.name ≠ b.name ∨ a.parameters.length ≠ b.parameters.length) := by
      simp [hname, (forall₂_of_parameterScore hp).length_eq]
    rw [if_neg hsame, hp]
    simp only [hr, bind, Except.bind]
    rfl

section Score

variable {s t : Text} {a b : Signature} (ha : ofText? s = some a)
include ha

theorem exists_resultScore (hb : ofText? t = some b) :
    ∃ n, resultScore a.result b.result = .ok n := by
  cases hresult : a.result with
  | none => exact ⟨0, rfl⟩
  | some x =>
    cases hresult' : b.result with
    | none => exact ⟨0, rfl⟩
    | some y =>
      rw [resultScore]
      exact exists_typeScore ((lineFeed_notMem ha).2 x hresult)
        ((lineFeed_notMem hb).2 y hresult')

/-- Two declarations can always be compared. -/
theorem exists_score (hb : ofText? t = some b) : ∃ n, a.score b = .ok n := by
  rw [score]
  split
  next => exact ⟨_, rfl⟩
  next =>
    obtain ⟨n, hn⟩ := exists_parameterScore (lineFeed_notMem ha).1 (lineFeed_notMem hb).1
    obtain ⟨r, hr⟩ := exists_resultScore ha hb
    simp only [hn, hr, bind, Except.bind]
    cases n <;> exact ⟨_, rfl⟩

/-- Declarations of the same name with parameters that agree pair by pair agree. -/
theorem exists_score_of_forall₂ (hb : ofText? t = some b) (hname : a.name = b.name)
    (h : List.Forall₂ (fun x y => ∃ k, 0 < k ∧ typeScore x y = .ok k) a.parameters b.parameters) :
    ∃ n, a.score b = .ok (some n) := by
  obtain ⟨n, hn⟩ := exists_parameterScore_of_forall₂ h
  obtain ⟨r, hr⟩ := exists_resultScore ha hb
  exact ⟨_, score_eq_some_iff.2 ⟨hname, n, r, hn, hr, rfl⟩⟩

/-- A declaration agrees with itself. -/
theorem exists_score_self : ∃ n, a.score a = .ok (some n) := by
  refine exists_score_of_forall₂ ha ha rfl (List.forall₂_same.2 fun x hx => ?_)
  exact ⟨TypeName.exactScore, by decide, typeScore_self ((lineFeed_notMem ha).1 x hx)⟩

end Score

/-- Declarations that agree have the same name and parameters that agree. -/
theorem forall₂_of_score {a b : Signature} {n : Nat} (h : a.score b = .ok (some n)) :
    a.name = b.name ∧ List.Forall₂ (fun x y => ∃ k, 0 < k ∧ typeScore x y = .ok k)
      a.parameters b.parameters := by
  obtain ⟨hname, p, r, hp, -, -⟩ := score_eq_some_iff.1 h
  exact ⟨hname, forall₂_of_parameterScore hp⟩

end Signature

end Disassembly
