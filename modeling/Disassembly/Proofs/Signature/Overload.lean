import Disassembly.Proofs.Signature.Tiers
import Mathlib.Tactic

/-!
# The choice between overloads

A score is the points for the parameters and the points for the head of a declaration, that is for
its result type and its modifiers (`score_eq_some_iff_parts`). Of two candidates, one may have the
better parameters: its types agree with those of the target at least as well everywhere, and better
at `n` positions (`Outdoes`). It is then `n` points ahead (`Outdoes.parameterScore_eq`), and it has
the higher score exactly if the head of the other candidate does not make up for these points
(`score_lt_score_iff`). The head can do so: a method with the exact parameter type loses against one
with a type variable that has the right result type and a modifier more (`bestMatch_headPreferred`).
-/

set_option autoImplicit false

namespace Disassembly.Signature

open Text

/-- The points for what stands in front of the name: the result type, and one for each modifier that
both declarations have. -/
def headScore (target candidate : Signature) : Except MalformedType Nat :=
  (resultScore target.result candidate.result).map fun r =>
    r + (target.modifiers.filter (candidate.modifiers.contains ·)).length

/-- Types that agree with those that are looked for at least as well as some other types at every
position, and better at exactly `n` positions. -/
inductive Outdoes : (types better other : List Text) → (n : Nat) → Prop where
  | nil : Outdoes [] [] [] 0
  /-- Both types agree equally well with the one that is looked for. -/
  | level {type a b : Text} {types as bs : List Text} {n : Nat}
      (hsame : typeScore type a = typeScore type b) (hrest : Outdoes types as bs n) :
      Outdoes (type :: types) (a :: as) (b :: bs) n
  /-- The first type agrees better with the one that is looked for. -/
  | ahead {type a b : Text} {types as bs : List Text} {i j n : Nat}
      (ha : typeScore type a = .ok i) (hb : typeScore type b = .ok j) (hlt : j < i)
      (hrest : Outdoes types as bs n) : Outdoes (type :: types) (a :: as) (b :: bs) (n + 1)

/-! ## The parts of a score -/

theorem headScore_eq_ok_iff {t c : Signature} {n : Nat} : headScore t c = .ok n ↔
    ∃ r, resultScore t.result c.result = .ok r ∧
      r + (t.modifiers.filter (c.modifiers.contains ·)).length = n := by
  rw [headScore]
  cases resultScore t.result c.result <;> simp [Except.map]

/-- A score is the sum of the points for the parameters and of those for the head. -/
theorem score_eq_some_iff_parts {t c : Signature} {n : Nat} : t.score c = .ok (some n) ↔
    t.name = c.name ∧ ∃ p head, parameterScore t.parameters c.parameters = .ok (some p) ∧
      headScore t c = .ok head ∧ p + head = n := by
  rw [score_eq_some_iff]
  refine and_congr_right fun _ => ⟨?_, ?_⟩
  · rintro ⟨p, r, hp, hr, rfl⟩
    exact ⟨p, _, hp, headScore_eq_ok_iff.2 ⟨r, hr, rfl⟩, (Nat.add_assoc p r _).symm⟩
  · rintro ⟨p, head, hp, hhead, rfl⟩
    obtain ⟨r, hr, rfl⟩ := headScore_eq_ok_iff.1 hhead
    exact ⟨p, r, hp, hr, Nat.add_assoc p r _⟩

/-- Every position at which the types agree better counts one point. -/
theorem Outdoes.parameterScore_eq {types as bs : List Text} {n p q : Nat}
    (h : Outdoes types as bs n) (hp : parameterScore types as = .ok (some p))
    (hq : parameterScore types bs = .ok (some q)) : p = q + n := by
  induction h generalizing p q with
  | nil => exact Option.some.inj (Except.ok.inj (hp.symm.trans hq))
  | level hsame _ ih =>
    obtain ⟨i, p', -, hi, hp', rfl⟩ := parameterScore_cons_eq_some_iff.1 hp
    obtain ⟨j, q', -, hj, hq', rfl⟩ := parameterScore_cons_eq_some_iff.1 hq
    have hij : i = j := Except.ok.inj (hi.symm.trans (hsame.trans hj))
    have hrest : p' = q' + _ := ih hp' hq'
    omega
  | ahead ha hb hlt _ ih =>
    obtain ⟨i', p', -, hi, hp', rfl⟩ := parameterScore_cons_eq_some_iff.1 hp
    obtain ⟨j', q', hpos, hj, hq', rfl⟩ := parameterScore_cons_eq_some_iff.1 hq
    obtain rfl := Except.ok.inj (ha.symm.trans hi)
    obtain rfl := Except.ok.inj (hb.symm.trans hj)
    -- both types agree at all, so one of them scores two points and the other one scores one
    have hexact : _ ≤ 2 := typeScore_le hi
    have hrest : p' = q' + _ := ih hp' hq'
    omega

/-! ## The better parameters -/

/-- Of two candidates that are graded by their structure, the one with the lower score is not
chosen. -/
theorem bestMatch_ne_of_score_lt {target first second : Text} {candidates : List Text}
    {t a b : Signature} {m k : Nat} (ht : ofText? target = some t) (ha : ofText? first = some a)
    (hb : ofText? second = some b) (hm : t.score a = .ok (some m)) (hk : t.score b = .ok (some k))
    (hfirst : canonical .simple first ≠ canonical .simple target)
    (hsecond : canonical .simple second ≠ canonical .simple target) (hmem : first ∈ candidates)
    (hlt : k < m) : bestMatch target candidates ≠ .ok (some second) := by
  intro hchosen
  rw [bestMatch_eq_choice, Except.ok.injEq] at hchosen
  by_cases hverbatim : target ∈ candidates
  · -- the target itself has its own canonical text
    rw [choice_of_mem hverbatim] at hchosen
    exact hsecond (congrArg (canonical .simple) (Option.some.inj hchosen).symm)
  · obtain ⟨c, top, hc, htop, hle⟩ :=
      exists_choice_of_earns hverbatim hmem (.structural hfirst ht ha hm)
    obtain rfl := Option.some.inj (hc.symm.trans hchosen)
    have hown := standing?_of_earns (.structural hsecond ht hb hk)
    rw [standing?_of_earns htop] at hown
    have hgrade : top = k := congrArg Graded.grade (Option.some.inj hown)
    omega

/-- Of two candidates that can be meant, of which the first has the better parameters at `n`
positions, the first has the higher score if and only if the head of the second one is less than
`n` points ahead of its own; and then the second one is not chosen where the first one is a
candidate too and both are graded by their structure. -/
theorem score_lt_score_iff {t a b : Signature} {m k n : Nat} (ha : t.score a = .ok (some m))
    (hb : t.score b = .ok (some k)) (h : Outdoes t.parameters a.parameters b.parameters n) :
    ∃ x y, headScore t a = .ok x ∧ headScore t b = .ok y ∧ (k < m ↔ y < x + n) ∧
      ∀ (target first second : Text) (candidates : List Text), ofText? target = some t →
        ofText? first = some a → ofText? second = some b →
        canonical .simple first ≠ canonical .simple target →
        canonical .simple second ≠ canonical .simple target → first ∈ candidates → y < x + n →
          bestMatch target candidates ≠ .ok (some second) := by
  obtain ⟨-, p, x, hp, hx, hm⟩ := score_eq_some_iff_parts.1 ha
  obtain ⟨-, q, y, hq, hy, hk⟩ := score_eq_some_iff_parts.1 hb
  have hahead : p = q + n := h.parameterScore_eq hp hq
  have hscore : k < m ↔ y < x + n := by omega
  refine ⟨x, y, hx, hy, hscore, ?_⟩
  intro target first second candidates ht hfirst hsecond hne hne' hmem hlt
  exact bestMatch_ne_of_score_lt ht hfirst hsecond ha hb hne hne' hmem (hscore.2 hlt)

/-- A method whose overload takes any type. -/
def readMethod : Text := "public int read(String)".toList

/-- The structure of the method. -/
def readSignature : Signature :=
  ⟨"read".toList, ["String".toList], some "int".toList, ["public".toList]⟩

theorem ofText?_readMethod : ofText? readMethod = some readSignature := by
  decide +kernel

/-- A candidate with the parameter type and the result type, but without the modifier. -/
def exactRead : Text := "int read(String)".toList

/-- A candidate with a type variable and another result type. -/
def genericRead : Text := "public long read(T)".toList

theorem score_lt_score_iff_read :
    readSignature.score ⟨"read".toList, ["String".toList], some "int".toList, []⟩ =
        .ok (some 4) ∧
      readSignature.score
        ⟨"read".toList, ["T".toList], some "long".toList, ["public".toList]⟩ = .ok (some 2) ∧
      Outdoes ["String".toList] ["String".toList] ["T".toList] 1 ∧
      bestMatch readMethod [genericRead, exactRead] ≠ .ok (some genericRead) := by
  have hexact : readSignature.score ⟨"read".toList, ["String".toList], some "int".toList, []⟩ =
      .ok (some 4) := by
    decide
  have hgeneric : readSignature.score
      ⟨"read".toList, ["T".toList], some "long".toList, ["public".toList]⟩ = .ok (some 2) := by
    decide
  have houtdoes : Outdoes ["String".toList] ["String".toList] ["T".toList] 1 :=
    .ahead (i := 2) (j := 1) (by decide) (by decide) (by decide) .nil
  obtain ⟨x, y, -, -, hscore, hchoice⟩ := score_lt_score_iff hexact hgeneric houtdoes
  refine ⟨hexact, hgeneric, houtdoes, hchoice readMethod exactRead genericRead _
    ofText?_readMethod ?_ ?_ ?_ ?_ ?_ (hscore.1 (by decide))⟩
  · decide +kernel
  · decide +kernel
  · decide +kernel
  · decide +kernel
  · exact List.mem_cons_of_mem _ List.mem_cons_self

/-! ## The better head -/

/-- A candidate with the parameter type, but without the result type and the modifier. -/
def voidRead : Text := "void read(String)".toList

/-- A candidate with a type variable, the result type and the modifier. -/
def headRead : Text := "public int read(T)".toList

/-- Better parameters can be outweighed: a candidate with the very parameter type has the lower
score, and one with a type variable, the right result type and the right modifier is chosen. -/
theorem bestMatch_headPreferred :
    ∃ t a b : Signature, ofText? readMethod = some t ∧ ofText? voidRead = some a ∧
      ofText? headRead = some b ∧ Outdoes t.parameters a.parameters b.parameters 1 ∧
      t.score a = .ok (some 2) ∧ t.score b = .ok (some 4) ∧
      bestMatch readMethod [headRead, voidRead] = .ok (some headRead) := by
  refine ⟨readSignature, ⟨"read".toList, ["String".toList], some "void".toList, []⟩,
    ⟨"read".toList, ["T".toList], some "int".toList, ["public".toList]⟩, ofText?_readMethod, ?_, ?_,
    ?_, ?_, ?_, ?_⟩
  · decide +kernel
  · decide +kernel
  · exact .ahead (i := 2) (j := 1) (by decide) (by decide) (by decide) .nil
  · decide
  · decide
  · decide +kernel

end Disassembly.Signature
