import Disassembly.Proofs.Signature.Qualifiers
import Disassembly.Proofs.Signature.Score
import Disassembly.Signature.Match
import Mathlib.Tactic

/-!
# The best match is plausible

A candidate is plausible for a target if both show declarations that agree, or neither shows a
declaration and both have the same canonical text without package names. The search takes shorter
ways than this to a grade: equal canonical texts are never compared as declarations, and those that
are equal without package names count although one of them may not show a declaration. Still exactly
the plausible candidates get a grade (`exists_grade`), because a canonical text determines what is
read off it and a text that shows a declaration also shows one without its package names.
-/

set_option autoImplicit false

namespace Disassembly.Signature

open Text

/-- The candidate may declare the same method as the target. -/
inductive Plausible (target candidate : Text) : Prop where
  /-- Both show a declaration, and these agree. -/
  | declared {a b : Signature} {n : Nat} (ha : ofText? target = some a)
      (hb : ofText? candidate = some b) (hscore : a.score b = .ok (some n))
  /-- Neither shows a declaration, and they are the same text without package names. -/
  | undeclared (ha : ofText? target = none) (hb : ofText? candidate = none)
      (hsimple : canonical .simple target = canonical .simple candidate)

/-! ## The grade of one candidate -/

theorem plausible_iff_of_declared {target candidate : Text} {a b : Signature}
    (ha : ofText? target = some a) (hb : ofText? candidate = some b) :
    Plausible target candidate ↔ ∃ n, a.score b = .ok (some n) := by
  constructor
  · intro h
    cases h with
    | declared ha' hb' hscore =>
      obtain rfl := Option.some.inj (ha.symm.trans ha')
      obtain rfl := Option.some.inj (hb.symm.trans hb')
      exact ⟨_, hscore⟩
    | undeclared ha' _ _ => exact absurd (ha.symm.trans ha') (Option.some_ne_none a)
  · rintro ⟨n, hscore⟩
    exact .declared ha hb hscore

theorem plausible_iff_of_undeclared {target candidate : Text}
    (h : ofText? target = none ∨ ofText? candidate = none) :
    Plausible target candidate ↔ canonical .simple target = canonical .simple candidate := by
  constructor
  · intro hplausible
    cases hplausible with
    | declared ha hb _ =>
      rw [ha, hb] at h
      rcases h with h | h <;> cases h
    | undeclared _ _ hsimple => exact hsimple
  · intro hsimple
    -- equal texts without package names show a declaration on both sides or on neither
    have hboth : (ofText? target).isSome = (ofText? candidate).isSome := by
      rw [isSome_ofText?, isSome_ofText?, hsimple]
    rcases h with h | h
    · have hcandidate : ¬(ofText? candidate).isSome = true := by
        rw [← hboth, h]
        exact Bool.false_ne_true
      exact .undeclared h (Option.not_isSome_iff_eq_none.1 hcandidate) hsimple
    · have htarget : ¬(ofText? target).isSome = true := by
        rw [hboth, h]
        exact Bool.false_ne_true
      exact .undeclared (Option.not_isSome_iff_eq_none.1 htarget) h hsimple

/-- A text with the same canonical text is plausible, whatever it shows. -/
theorem plausible_of_canonical_eq {target candidate : Text}
    (h : canonical .qualified candidate = canonical .qualified target) :
    Plausible target candidate := by
  -- what is read off a text depends on its canonical text only
  have hsame : ofText? candidate = ofText? target := by
    rw [ofText?, ofText?, h]
  cases ha : ofText? target with
  | some a =>
    obtain ⟨n, hn⟩ := exists_score_self ha
    exact .declared ha (hsame.trans ha) hn
  | none =>
    refine .undeclared ha (hsame.trans ha) ?_
    rw [canonical_simple, canonical_simple, h]

theorem plausible_self (target : Text) : Plausible target target :=
  plausible_of_canonical_eq rfl

theorem Profile.qualified_ofText (s : Text) :
    (Profile.ofText s).qualified = canonical .qualified s := by
  rw [Profile.ofText]

theorem Profile.simple_ofText (s : Text) : (Profile.ofText s).simple = canonical .simple s := by
  rw [Profile.ofText]

theorem Profile.structured_ofText (s : Text) : (Profile.ofText s).structured = ofText? s := by
  rw [Profile.ofText, ofText?]

section Grade

variable {target candidate : Text}

theorem Profile.score_of_undeclared (h : ofText? target = none ∨ ofText? candidate = none) :
    (Profile.ofText target).score (Profile.ofText candidate) = .ok none := by
  rw [Profile.score, Profile.structured_ofText, Profile.structured_ofText]
  rcases h with h | h
  · rw [h]
  · rw [h]
    cases ofText? target <;> rfl

theorem Profile.score_of_declared {a b : Signature} (ha : ofText? target = some a)
    (hb : ofText? candidate = some b) :
    (Profile.ofText target).score (Profile.ofText candidate) = a.score b := by
  rw [Profile.score, Profile.structured_ofText, Profile.structured_ofText, ha, hb]

/-- If one of the two shows no declaration, only their texts count. -/
theorem exists_grade_of_undeclared
    (hqualified : canonical .qualified candidate ≠ canonical .qualified target)
    (h : ofText? target = none ∨ ofText? candidate = none) :
    ∃ grade, (Profile.ofText target).grade (Profile.ofText candidate) = .ok grade ∧
      (grade.isSome = true ↔ Plausible target candidate) := by
  -- the equality without package names counts, as not both show a declaration
  have hdiffer : ((ofText? target).isSome && (ofText? candidate).isSome) = false := by
    rcases h with h | h <;> simp [h]
  rw [plausible_iff_of_undeclared h, Profile.grade, Profile.score_of_undeclared h,
    Profile.qualified_ofText, Profile.qualified_ofText, Profile.simple_ofText,
    Profile.simple_ofText, Profile.structured_ofText, Profile.structured_ofText,
    if_neg hqualified]
  simp only [bind, Except.bind, pure, Except.pure, hdiffer, Bool.false_and,
    Bool.false_eq_true, if_false]
  by_cases hsimple : canonical .simple candidate = canonical .simple target
  · rw [if_pos hsimple]
    exact ⟨_, rfl, iff_of_true rfl hsimple.symm⟩
  · rw [if_neg hsimple]
    exact ⟨_, rfl, iff_of_false Bool.false_ne_true fun hc => hsimple hc.symm⟩

/-- If both show a declaration, what counts is whether these agree. -/
theorem exists_grade_of_declared {a b : Signature}
    (hqualified : canonical .qualified candidate ≠ canonical .qualified target)
    (ha : ofText? target = some a) (hb : ofText? candidate = some b) :
    ∃ grade, (Profile.ofText target).grade (Profile.ofText candidate) = .ok grade ∧
      (grade.isSome = true ↔ Plausible target candidate) := by
  obtain ⟨n, hn⟩ := exists_score ha hb
  rw [plausible_iff_of_declared ha hb, Profile.grade, Profile.score_of_declared ha hb, hn,
    Profile.qualified_ofText, Profile.qualified_ofText, Profile.simple_ofText,
    Profile.simple_ofText, Profile.structured_ofText, Profile.structured_ofText,
    if_neg hqualified]
  simp only [bind, Except.bind, pure, Except.pure, ha, hb, Option.isSome_some, Bool.true_and]
  cases n with
  | none => split <;> exact ⟨_, rfl, by simp⟩
  | some n => split <;> exact ⟨_, rfl, by simp⟩

end Grade

/-- Exactly the plausible candidates get a grade. -/
theorem exists_grade (target candidate : Text) :
    ∃ grade, (Profile.ofText target).grade (Profile.ofText candidate) = .ok grade ∧
      (grade.isSome = true ↔ Plausible target candidate) := by
  by_cases hqualified : canonical .qualified candidate = canonical .qualified target
  · rw [Profile.grade, Profile.qualified_ofText, Profile.qualified_ofText, if_pos hqualified]
    exact ⟨_, rfl, iff_of_true rfl (plausible_of_canonical_eq hqualified)⟩
  · by_cases hdeclared : ofText? target = none ∨ ofText? candidate = none
    · exact exists_grade_of_undeclared hqualified hdeclared
    · rw [not_or, ← Ne, ← Ne, Option.ne_none_iff_exists', Option.ne_none_iff_exists'] at hdeclared
      obtain ⟨⟨a, ha⟩, b, hb⟩ := hdeclared
      exact exists_grade_of_declared hqualified ha hb

/-! ## The best of all candidates -/

theorem best_eq_none_iff (gs : List Graded) : best gs = none ↔ gs = [] := by
  cases gs with
  | nil => exact iff_of_true rfl rfl
  | cons g rest =>
    refine iff_of_false ?_ (List.cons_ne_nil g rest)
    rw [best]
    split
    next => exact Option.some_ne_none _
    next => split <;> exact Option.some_ne_none _

theorem mem_of_best {gs : List Graded} {winner : Graded} (h : best gs = some winner) :
    winner ∈ gs := by
  induction gs with
  | nil => cases h
  | cons g rest ih =>
    rw [best] at h
    split at h
    next =>
      obtain rfl := Option.some.inj h
      exact List.mem_cons_self
    next b hb =>
      split at h
      next =>
        obtain rfl := Option.some.inj h
        exact List.mem_cons_of_mem g (ih hb)
      next =>
        obtain rfl := Option.some.inj h
        exact List.mem_cons_self

/-- The graded candidates are the plausible ones. -/
theorem exists_graded (target : Text) (candidates : List Text) :
    ∃ gs, graded (.ofText target) candidates = .ok gs ∧
      ∀ c, (∃ g ∈ gs, g.candidate = c) ↔ c ∈ candidates ∧ Plausible target c := by
  induction candidates with
  | nil => exact ⟨[], rfl, by simp⟩
  | cons first rest ih =>
    obtain ⟨others, hothers, hmem⟩ := ih
    obtain ⟨grade, hgrade, hplausible⟩ := exists_grade target first
    refine ⟨(grade.map (⟨·, first⟩)).toList ++ others, ?_, fun c => ?_⟩
    · rw [graded, hgrade, hothers]
      rfl
    · have hfirst : (∃ g ∈ (grade.map (⟨·, first⟩ : Nat → Graded)).toList, g.candidate = c) ↔
          c = first ∧ Plausible target first := by
        rw [← hplausible]
        cases grade with
        | none => simp
        | some n => simp [Eq.comm]
      have hstep : (c = first ∧ Plausible target first) ∨ (c ∈ rest ∧ Plausible target c) ↔
          c ∈ first :: rest ∧ Plausible target c := by
        rw [List.mem_cons, or_and_right]
        refine or_congr_left (and_congr_right ?_)
        rintro rfl
        exact Iff.rfl
      rw [← hstep, ← hfirst, ← hmem c]
      simp only [List.mem_append, or_and_right, exists_or]

/-- A plausible candidate is found if it is the only one. -/
theorem bestMatch_single {target candidate : Text} (h : Plausible target candidate) :
    bestMatch target [candidate] = .ok (some candidate) := by
  rw [bestMatch, search]
  -- unless the candidate is the target itself, the only grade is its own
  by_cases hverbatim : target ∈ [candidate]
  · rw [if_pos hverbatim, List.mem_singleton.1 hverbatim]
    rfl
  · obtain ⟨gs, hgs, hmem⟩ := exists_graded target [candidate]
    obtain ⟨g, hg, -⟩ := (hmem candidate).2 ⟨List.mem_singleton.2 rfl, h⟩
    rw [if_neg hverbatim, hgs]
    simp only [bind, Except.bind]
    cases hbest : best gs with
    | none =>
      rw [(best_eq_none_iff gs).1 hbest] at hg
      exact absurd hg List.not_mem_nil
    | some winner =>
      have hwinner := ((hmem winner.candidate).1 ⟨winner, mem_of_best hbest, rfl⟩).1
      rw [← List.mem_singleton.1 hwinner]
      rfl

/-- The search always comes to an end without a fault. It finds nothing if and only if no candidate
is plausible; what it finds is a plausible candidate, so that two declarations that are matched have
the same name and parameters that agree pair by pair. -/
theorem exists_bestMatch (target : Text) (candidates : List Text) :
    ∃ found, bestMatch target candidates = .ok found ∧
      (found = none ↔ ∀ c ∈ candidates, ¬Plausible target c) ∧
      ∀ c, found = some c → c ∈ candidates ∧ Plausible target c ∧
        ∀ a b, ofText? target = some a → ofText? c = some b → a.name = b.name ∧
          List.Forall₂ (fun x y => ∃ n, 0 < n ∧ typeScore x y = .ok n)
            a.parameters b.parameters := by
  have hagree : ∀ c, Plausible target c → ∀ a b, ofText? target = some a → ofText? c = some b →
      a.name = b.name ∧ List.Forall₂ (fun x y => ∃ n, 0 < n ∧ typeScore x y = .ok n)
        a.parameters b.parameters := by
    intro c hc a b ha hb
    obtain ⟨n, hn⟩ := (plausible_iff_of_declared ha hb).1 hc
    exact forall₂_of_score hn
  rw [bestMatch, search]
  -- a candidate that is the target itself is taken without any grade
  by_cases hverbatim : target ∈ candidates
  · rw [if_pos hverbatim]
    refine ⟨some target, rfl, ?_, ?_⟩
    · exact iff_of_false (Option.some_ne_none _) fun h => h target hverbatim (plausible_self target)
    · rintro c ⟨⟩
      exact ⟨hverbatim, plausible_self target, hagree target (plausible_self target)⟩
  · obtain ⟨gs, hgs, hmem⟩ := exists_graded target candidates
    rw [if_neg hverbatim, hgs]
    simp only [bind, Except.bind]
    cases hbest : best gs with
    | none =>
      refine ⟨none, rfl, iff_of_true rfl fun c hc hplausible => ?_, fun c hc => by cases hc⟩
      obtain ⟨g, hg, -⟩ := (hmem c).2 ⟨hc, hplausible⟩
      rw [(best_eq_none_iff gs).1 hbest] at hg
      exact List.not_mem_nil hg
    | some winner =>
      obtain ⟨hcandidate, hplausible⟩ :=
        (hmem winner.candidate).1 ⟨winner, mem_of_best hbest, rfl⟩
      refine ⟨some winner.candidate, rfl, ?_, ?_⟩
      · exact iff_of_false (Option.some_ne_none _) fun h => h _ hcandidate hplausible
      · rintro c ⟨⟩
        exact ⟨hcandidate, hplausible, hagree _ hplausible⟩

end Disassembly.Signature
