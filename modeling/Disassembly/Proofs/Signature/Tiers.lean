import Disassembly.Proofs.Declaration.Tolerance
import Disassembly.Proofs.Signature.Choice
import Disassembly.Proofs.Signature.Symmetry
import Mathlib.Tactic

/-!
# The tiers of a match

A candidate gets its grade in one of three ways (`Earns`): for the same canonical text, for the same
canonical text without package names, or for a structure that agrees. The first two grades are fixed
numbers, while the third one grows with the declaration. So the ways come in this order only as long
as the highest score that the declaration allows, `fullScore`, is below the fixed grades
(`bestMatch_tiers`). From 500 parameters on it is not, and then a candidate with a further name for
a parameter wins over one that differs by a package name (`bestMatch_longDeclaration`).
-/

set_option autoImplicit false

namespace Disassembly.Signature

open Text

/-! ## The ways to a grade -/

/-- The ways in which a candidate gets a grade. -/
inductive Earns (target candidate : Text) : Nat → Prop where
  /-- The canonical texts are the same. -/
  | qualified (h : canonical .qualified candidate = canonical .qualified target) :
      Earns target candidate qualifiedGrade
  /-- The canonical texts are the same without package names only, and the candidate is plausible. -/
  | simple (hqualified : canonical .qualified candidate ≠ canonical .qualified target)
      (hsimple : canonical .simple candidate = canonical .simple target)
      (hagree : Plausible target candidate) : Earns target candidate simpleGrade
  /-- The canonical texts differ without package names too, but the structures agree. -/
  | structural {a b : Signature} {n : Nat}
      (hsimple : canonical .simple candidate ≠ canonical .simple target)
      (ha : ofText? target = some a) (hb : ofText? candidate = some b)
      (hscore : a.score b = .ok (some n)) : Earns target candidate n

section Grade

variable {target candidate : Text}

theorem canonical_qualified_ne (h : canonical .simple candidate ≠ canonical .simple target) :
    canonical .qualified candidate ≠ canonical .qualified target := by
  intro hqualified
  rw [canonical_simple, canonical_simple, hqualified] at h
  exact h rfl

/-- Candidates that differ by package names only have the same grade, if they have one. -/
theorem grade_of_simple (hqualified : canonical .qualified candidate ≠ canonical .qualified target)
    (hsimple : canonical .simple candidate = canonical .simple target) {n : Nat}
    (h : (Profile.ofText target).grade (.ofText candidate) = .ok (some n)) : n = simpleGrade := by
  rw [Profile.grade, Profile.qualified_ofText, Profile.qualified_ofText, if_neg hqualified] at h
  obtain ⟨score, -, h⟩ := bind_eq_ok_iff.1 h
  rw [Profile.simple_ofText, Profile.simple_ofText, if_pos hsimple] at h
  simp only [pure, Except.pure, Except.ok.injEq] at h
  split at h
  next => cases h
  next => exact (Option.some.inj h).symm

/-- Candidates that differ by more than package names have the score of the structures. -/
theorem grade_of_simple_ne (h : canonical .simple candidate ≠ canonical .simple target) :
    (Profile.ofText target).grade (.ofText candidate) =
      (Profile.ofText target).score (.ofText candidate) := by
  rw [Profile.grade, Profile.qualified_ofText, Profile.qualified_ofText,
    if_neg (canonical_qualified_ne h), Profile.simple_ofText, Profile.simple_ofText]
  simp only [if_neg h]
  exact bind_pure _

theorem exists_declared_of_score {n : Nat}
    (h : (Profile.ofText target).score (.ofText candidate) = .ok (some n)) :
    ∃ a b, ofText? target = some a ∧ ofText? candidate = some b ∧ a.score b = .ok (some n) := by
  by_cases hdeclared : ofText? target = none ∨ ofText? candidate = none
  · rw [Profile.score_of_undeclared hdeclared] at h
    cases h
  · rw [not_or, ← Ne, ← Ne, Option.ne_none_iff_exists', Option.ne_none_iff_exists'] at hdeclared
    obtain ⟨⟨a, ha⟩, b, hb⟩ := hdeclared
    rw [Profile.score_of_declared ha hb] at h
    exact ⟨a, b, ha, hb, h⟩

theorem standing?_eq_some_iff {n : Nat} : standing? target candidate = some ⟨n, candidate⟩ ↔
    (Profile.ofText target).grade (.ofText candidate) = .ok (some n) := by
  obtain ⟨grade, hgrade, -⟩ := exists_grade target candidate
  rw [standing?, hgrade]
  cases grade <;> simp

theorem earns_of_standing? {g : Graded} (h : standing? target candidate = some g) :
    Earns target candidate g.grade := by
  have hgrade : (Profile.ofText target).grade (.ofText candidate) = .ok (some g.grade) := by
    rw [← standing?_eq_some_iff, h, ← candidate_of_standing? h]
  by_cases hqualified : canonical .qualified candidate = canonical .qualified target
  · have hfixed : g.grade = qualifiedGrade := by
      rw [Profile.grade, Profile.qualified_ofText, Profile.qualified_ofText,
        if_pos hqualified] at hgrade
      exact (Option.some.inj (Except.ok.inj hgrade)).symm
    rw [hfixed]
    exact .qualified hqualified
  · by_cases hsimple : canonical .simple candidate = canonical .simple target
    · rw [grade_of_simple hqualified hsimple hgrade]
      exact .simple hqualified hsimple (isSome_standing?.1 (h ▸ rfl))
    · rw [grade_of_simple_ne hsimple] at hgrade
      obtain ⟨a, b, ha, hb, hscore⟩ := exists_declared_of_score hgrade
      exact .structural hsimple ha hb hscore

theorem standing?_of_earns {n : Nat} (h : Earns target candidate n) :
    standing? target candidate = some ⟨n, candidate⟩ := by
  cases h with
  | qualified h =>
    rw [standing?_eq_some_iff, Profile.grade, Profile.qualified_ofText, Profile.qualified_ofText,
      if_pos h]
  | simple hqualified hsimple hagree =>
    obtain ⟨g, hg⟩ := Option.isSome_iff_exists.1 (isSome_standing?.2 hagree)
    have hgrade : (Profile.ofText target).grade (.ofText candidate) = .ok (some g.grade) := by
      rw [← standing?_eq_some_iff, hg, ← candidate_of_standing? hg]
    rw [standing?_eq_some_iff, hgrade, grade_of_simple hqualified hsimple hgrade]
  | structural hsimple ha hb hscore =>
    rw [standing?_eq_some_iff, grade_of_simple_ne hsimple, Profile.score_of_declared ha hb, hscore]

end Grade

/-! ## The highest score -/

/-- The score of a declaration with itself, where all types agree exactly. -/
def fullScore (a : Signature) : Nat :=
  TypeName.exactScore * (a.parameters.length + a.result.toList.length) + a.modifiers.length

theorem score_self_eq {s : Text} {a : Signature} (ha : ofText? s = some a) :
    a.score a = .ok (some a.fullScore) := by
  have hparameters := parameterScore_self (lineFeed_notMem ha).1
  have hresult : resultScore a.result a.result =
      .ok (TypeName.exactScore * a.result.toList.length) := by
    cases hr : a.result with
    | none => rfl
    | some r => exact typeScore_self ((lineFeed_notMem ha).2 r hr)
  have hmodifiers : a.modifiers.filter (a.modifiers.contains ·) = a.modifiers :=
    List.filter_eq_self.2 fun w hw => List.contains_iff_mem.2 hw
  refine score_eq_some_iff.2 ⟨rfl, _, _, hparameters, hresult, ?_⟩
  rw [hmodifiers, fullScore, Nat.mul_add]

/-- No candidate has more than the full score. -/
theorem score_le_fullScore {s : Text} {a b : Signature} (ha : ofText? s = some a) {n : Nat}
    (h : a.score b = .ok (some n)) : n ≤ a.fullScore := by
  obtain ⟨own, hown, hle⟩ := exists_score_self_le ha h
  rw [score_self_eq ha] at hown
  rwa [Option.some.inj (Except.ok.inj hown)]

theorem length_modifiers_le {s : Text} {a : Signature} (ha : ofText? s = some a) :
    a.modifiers.length ≤ modifierWords.length := by
  rw [ofText?, ofCanonical?, Option.map_eq_some_iff] at ha
  obtain ⟨shape, -, rfl⟩ := ha
  exact List.length_filter_le _ _

/-- A declaration with fewer than 493 parameters has a full score below both fixed grades. -/
theorem fullScore_lt_simpleGrade {s : Text} {a : Signature} (ha : ofText? s = some a)
    (h : a.parameters.length < 493) : a.fullScore < simpleGrade := by
  have hmodifiers : a.modifiers.length ≤ 12 := length_modifiers_le ha
  have hresult : a.result.toList.length ≤ 1 := by cases a.result <;> simp
  rw [fullScore, TypeName.exactScore, simpleGrade]
  omega

/-! ## The order of the tiers -/

section Tiers

variable {target : Text} {candidates : List Text}

/-- The candidate that is chosen has the highest of all grades that candidates get. -/
theorem exists_choice_of_earns (hverbatim : target ∉ candidates) {c : Text} (hc : c ∈ candidates)
    {n : Nat} (h : Earns target c n) :
    ∃ m top, choice target candidates = some m ∧ Earns target m top ∧ n ≤ top := by
  have hmem : ⟨n, c⟩ ∈ candidates.filterMap (standing? target) :=
    List.mem_filterMap.2 ⟨c, hc, standing?_of_earns h⟩
  obtain ⟨winner, hwinner, hle⟩ := exists_best_of_mem hmem
  refine ⟨winner.candidate, winner.grade, ?_, ?_, ?_⟩
  · rw [choice_of_notMem hverbatim, hwinner]
    rfl
  · exact earns_of_standing? (standing?_of_best hwinner).2
  · exact Prod.Lex.monotone_fst _ _ hle

/-- A target whose declaration, if it shows one, has a full score below the given grade. -/
def FullScoreBelow (grade : Nat) (target : Text) : Prop :=
  ∀ a, ofText? target = some a → a.fullScore < grade

/-- A candidate with the same canonical text is preferred to all others, and one that differs by
package names only to those that differ by more, as long as no structure can score as much as the
grade that such a candidate has. -/
theorem bestMatch_tiers (hverbatim : target ∉ candidates) :
    ∃ found, bestMatch target candidates = .ok found ∧
      (FullScoreBelow qualifiedGrade target →
        (∃ c ∈ candidates, canonical .qualified c = canonical .qualified target) →
          ∃ m, found = some m ∧ canonical .qualified m = canonical .qualified target) ∧
      (FullScoreBelow simpleGrade target →
        (∀ c ∈ candidates, canonical .qualified c ≠ canonical .qualified target) →
        (∃ c ∈ candidates, canonical .simple c = canonical .simple target ∧ Plausible target c) →
          ∃ m, found = some m ∧ canonical .simple m = canonical .simple target) := by
  refine ⟨choice target candidates, bestMatch_eq_choice, ?_, ?_⟩
  · rintro hbelow ⟨c, hc, hqualified⟩
    obtain ⟨m, top, hm, htop, hle⟩ := exists_choice_of_earns hverbatim hc (.qualified hqualified)
    refine ⟨m, hm, ?_⟩
    cases htop with
    | qualified h => exact h
    | simple => exact absurd hle (by decide)
    | structural _ ha _ hscore =>
      exact absurd (hle.trans (score_le_fullScore ha hscore)) (not_le.2 (hbelow _ ha))
  · rintro hbelow hnone ⟨c, hc, hsimple, hagree⟩
    obtain ⟨m, top, hm, htop, hle⟩ :=
      exists_choice_of_earns hverbatim hc (.simple (hnone c hc) hsimple hagree)
    refine ⟨m, hm, ?_⟩
    cases htop with
    | qualified h => exact absurd h (hnone m (mem_of_choice hm))
    | simple _ h _ => exact h
    | structural _ ha _ hscore =>
      exact absurd (hle.trans (score_le_fullScore ha hscore)) (not_le.2 (hbelow _ ha))

end Tiers

/-- A method with a qualified type, and a modifier that only one of the candidates shares. -/
def printMethod : Text := "static void print(java.util.List)".toList

def printCandidates : List Text :=
  ["public static void print(java.util.List)".toList, "static void print(List)".toList]

theorem bestMatch_tiers_print :
    printMethod ∉ printCandidates ∧ FullScoreBelow simpleGrade printMethod ∧
      (∀ c ∈ printCandidates, canonical .qualified c ≠ canonical .qualified printMethod) ∧
      (∃ c ∈ printCandidates, canonical .simple c = canonical .simple printMethod ∧
        Plausible printMethod c) ∧
      ∃ m, bestMatch printMethod printCandidates = .ok (some m) ∧
        canonical .simple m = canonical .simple printMethod := by
  have hverbatim : printMethod ∉ printCandidates := by decide
  have hstructure : ofText? printMethod =
      some ⟨"print".toList, ["java.util.List".toList], some "void".toList, ["static".toList]⟩ := by
    decide +kernel
  have hstructure' : ofText? "static void print(List)".toList =
      some ⟨"print".toList, ["List".toList], some "void".toList, ["static".toList]⟩ := by
    decide +kernel
  have hbelow : FullScoreBelow simpleGrade printMethod := by
    intro a ha
    obtain rfl := Option.some.inj (hstructure.symm.trans ha)
    exact fullScore_lt_simpleGrade hstructure (by decide)
  have hnone : ∀ c ∈ printCandidates,
      canonical .qualified c ≠ canonical .qualified printMethod := by
    decide +kernel
  have hsome : ∃ c ∈ printCandidates, canonical .simple c = canonical .simple printMethod ∧
      Plausible printMethod c :=
    ⟨"static void print(List)".toList, by decide, by decide +kernel,
      .declared (n := 5) hstructure hstructure' (by decide +kernel)⟩
  obtain ⟨found, hfound, -, htier⟩ := bestMatch_tiers hverbatim
  obtain ⟨m, rfl, hm⟩ := htier hbelow hnone hsome
  exact ⟨hverbatim, hbelow, hnone, hsome, m, hfound, hm⟩

/-! ## Declarations with many parameters -/

section LongDeclaration

open Declaration Rendering

def variableName : Identifier := ⟨"T".toList, by decide, by decide, by decide⟩

def variablePackage : Identifier := ⟨"A".toList, by decide, by decide, by decide⟩

/-- The parameter `T`. -/
def plainParameter : Parameter where
  final? := none
  type := ⟨⟨variableName, none⟩, [], .brackets []⟩
  name? := none

/-- The parameter `A.T`. -/
def qualifiedParameter : Parameter where
  final? := none
  type := ⟨⟨variablePackage, none⟩, [⟨variableName, none⟩], .brackets []⟩
  name? := none

/-- The parameter `A.T x`. -/
def namedParameter : Parameter :=
  { qualifiedParameter with
    name? := some (oneSpace, ⟨"x".toList, by decide, by decide, by decide⟩) }

/-- The constructor `F(…, T, …, T)` with the given first parameter and `n` further ones. -/
def constructorWith (first : Parameter) (n : Nat) : Declaration where
  lead := noMargin
  modifiers := []
  typeParameters := none
  subject := .constructor
    ⟨[], [], "F".toList, ⟨"F".toList, by decide, by decide, by decide⟩, rfl, .inl rfl, by decide⟩
  beforeOpen := noMargin
  parameters := .some ⟨noMargin, first, noMargin⟩
    (List.replicate n ⟨noMargin, plainParameter, noMargin⟩)
  throws? := none
  semicolon? := none
  trail := noMargin

example : (constructorWith namedParameter 2).write = "F(A.T x,T,T)".toList := by decide

/-- The canonical text of the further parameters, with what follows them. -/
def furtherParameters (n : Nat) : Text :=
  (List.replicate n ", T".toList).flatten ++ [')']

theorem canonical_constructorWith (p : Parameter) (n : Nat) :
    canonical .qualified (constructorWith p n).write =
      'F' :: '(' :: (p.canonical ++ furtherParameters n) := by
  have hfurther : (List.replicate n (⟨noMargin, plainParameter, noMargin⟩ : Place)).flatMap
      (fun place => ',' :: ' ' :: place.parameter.canonical) =
        (List.replicate n ", T".toList).flatten := by
    rw [List.flatMap_replicate]
    rfl
  rw [canonical_write, furtherParameters, ← hfurther, ← List.append_assoc]
  rfl

/-- Only the package name of the first parameter is dropped. -/
theorem canonical_simple_constructorWith (p : Parameter) (n : Nat) :
    canonical .simple (constructorWith p (n + 1)).write = 'F' :: '(' ::
      (dropQualifiers p.canonical ++ ',' :: dropQualifiers (' ' :: 'T' :: furtherParameters n)) := by
  have hf := runMap_dropQualifiers
  have hname : dropQualifiers ['F'] = ['F'] := by decide
  have hsplit : 'F' :: '(' :: (p.canonical ++ furtherParameters (n + 1)) =
      ['F'] ++ '(' :: (p.canonical ++ ',' :: (' ' :: 'T' :: furtherParameters n)) := rfl
  rw [canonical_simple, canonical_constructorWith, hsplit, hf.append_cons _ _ _ (by decide),
    hf.append_cons _ _ _ (by decide), hname]
  rfl

theorem ofText?_constructorWith (p : Parameter) (n : Nat) :
    ofText? (constructorWith p n).write =
      some ⟨['F'], p.type.erased :: List.replicate n ['T'], none, []⟩ := by
  have h := (constructorWith p n).ofText?_of_canonical (constructorWith p n).canonical_write
  have hparameters : (constructorWith p n).parameters.types =
      p.type.erased :: List.replicate n ['T'] := by
    rw [constructorWith, Parameters.types, List.map_cons, List.map_replicate]
    rfl
  rw [h, signature, hparameters]
  rfl

section Candidates

variable {p q : Parameter} (n : Nat)

theorem canonical_qualified_constructorWith_ne (h : p.canonical ≠ q.canonical) :
    canonical .qualified (constructorWith p n).write ≠
      canonical .qualified (constructorWith q n).write := by
  rw [canonical_constructorWith, canonical_constructorWith]
  intro heq
  exact h (List.append_cancel_right (List.cons.inj (List.cons.inj heq).2).2)

theorem canonical_simple_constructorWith_eq_iff :
    canonical .simple (constructorWith p (n + 1)).write =
        canonical .simple (constructorWith q (n + 1)).write ↔
      dropQualifiers p.canonical = dropQualifiers q.canonical := by
  rw [canonical_simple_constructorWith, canonical_simple_constructorWith, List.cons_inj_right,
    List.cons_inj_right, List.append_cancel_right_eq]

/-- Without a package name the text is the same. -/
theorem earns_plainParameter :
    Earns (constructorWith qualifiedParameter (n + 1)).write
      (constructorWith plainParameter (n + 1)).write simpleGrade := by
  have ha := ofText?_constructorWith qualifiedParameter (n + 1)
  have hb := ofText?_constructorWith plainParameter (n + 1)
  -- the first types agree although only one of them is qualified, the other ones are the same
  have hfirst : typeScore qualifiedParameter.type.erased plainParameter.type.erased =
      .ok TypeName.exactScore := by
    decide
  have hothers : ∀ x ∈ List.replicate (n + 1) ['T'], ∃ k, 0 < k ∧ typeScore x x = .ok k := by
    intro x hx
    rw [List.eq_of_mem_replicate hx]
    exact ⟨TypeName.exactScore, by decide, typeScore_self (by decide)⟩
  obtain ⟨k, hk⟩ := exists_score_of_forall₂ ha hb rfl
    (.cons ⟨TypeName.exactScore, by decide, hfirst⟩ (List.forall₂_same.2 hothers))
  exact .simple (canonical_qualified_constructorWith_ne _ (by decide))
    ((canonical_simple_constructorWith_eq_iff n).2 (by decide)) (.declared ha hb hk)

/-- With a name of the first parameter the text differs, but the structure is the same. -/
theorem earns_namedParameter :
    Earns (constructorWith qualifiedParameter (n + 1)).write
      (constructorWith namedParameter (n + 1)).write (2 * (n + 2)) := by
  have ha := ofText?_constructorWith qualifiedParameter (n + 1)
  have hb := ofText?_constructorWith namedParameter (n + 1)
  have hfull : fullScore ⟨['F'], qualifiedParameter.type.erased :: List.replicate (n + 1) ['T'],
      none, []⟩ = 2 * (n + 2) := by
    simp [fullScore, TypeName.exactScore]
  refine .structural ?_ ha hb (hfull ▸ score_self_eq ha)
  rw [Ne, canonical_simple_constructorWith_eq_iff]
  decide

theorem write_notMem : (constructorWith qualifiedParameter n).write ∉
    [(constructorWith plainParameter n).write, (constructorWith namedParameter n).write] := by
  -- texts with different canonical texts are different
  intro hmem
  rcases List.mem_pair.1 hmem with h | h
  · exact canonical_qualified_constructorWith_ne n (by decide) (congrArg (canonical .qualified) h)
  · exact canonical_qualified_constructorWith_ne n (by decide) (congrArg (canonical .qualified) h)

/-- From 500 parameters on, a candidate that differs by the name of a parameter wins over one that
differs by a package name only. -/
theorem bestMatch_longDeclaration {n : Nat} (h : 499 ≤ n) :
    bestMatch (constructorWith qualifiedParameter n).write
        [(constructorWith plainParameter n).write, (constructorWith namedParameter n).write] =
      .ok (some (constructorWith namedParameter n).write) := by
  obtain ⟨k, rfl⟩ := Nat.exists_eq_add_of_le' (show 1 ≤ n by omega)
  have hwins : Graded.wins ⟨2 * (k + 2), (constructorWith namedParameter (k + 1)).write⟩
      ⟨simpleGrade, (constructorWith plainParameter (k + 1)).write⟩ = true := by
    -- with 500 parameters the grades are the same, and the order of the texts decides
    have hless : (constructorWith namedParameter (k + 1)).write <
        (constructorWith plainParameter (k + 1)).write := by
      have hchars : 'A' < 'T' := by decide
      refine List.cons_lt_cons_iff.2 (.inr ⟨rfl, List.cons_lt_cons_iff.2 (.inr ⟨rfl, ?_⟩)⟩)
      exact List.cons_lt_cons_iff.2 (.inl hchars)
    have hgrade : simpleGrade < 2 * (k + 2) ∨ 2 * (k + 2) = simpleGrade := by
      rw [simpleGrade]
      omega
    simpa [Graded.wins, hless] using hgrade
  rw [bestMatch_eq_choice, choice_of_notMem (write_notMem (k + 1)), List.filterMap_cons,
    standing?_of_earns (earns_plainParameter k), List.filterMap_cons,
    standing?_of_earns (earns_namedParameter k), List.filterMap_nil, best, best, best]
  simp only [hwins, if_true]
  rfl

/-- The tiers are turned round for a constructor with 500 parameters: a candidate that differs by a
package name only is there, and another one is chosen. -/
theorem exists_structural_preferred :
    let target := (constructorWith qualifiedParameter 499).write
    let near := (constructorWith plainParameter 499).write
    let far := (constructorWith namedParameter 499).write
    target ∉ [near, far] ∧
      (∀ c ∈ [near, far], canonical .qualified c ≠ canonical .qualified target) ∧
      canonical .simple near = canonical .simple target ∧ Plausible target near ∧
      bestMatch target [near, far] = .ok (some far) ∧
      canonical .simple far ≠ canonical .simple target := by
  have hnear := earns_plainParameter 498
  refine ⟨write_notMem 499, ?_, ?_, ?_, bestMatch_longDeclaration (le_refl 499), ?_⟩
  · intro c hc
    rcases List.mem_pair.1 hc with rfl | rfl
    · exact canonical_qualified_constructorWith_ne 499 (by decide)
    · exact canonical_qualified_constructorWith_ne 499 (by decide)
  · exact (canonical_simple_constructorWith_eq_iff 498).2 (by decide)
  · exact isSome_standing?.1 (Option.isSome_of_eq_some (standing?_of_earns hnear))
  · rw [Ne, canonical_simple_constructorWith_eq_iff 498]
    decide

end Candidates

end LongDeclaration

end Disassembly.Signature
