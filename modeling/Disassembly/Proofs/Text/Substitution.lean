import Disassembly.Proofs.Text.Run
import Mathlib.Tactic

/-!
# Substitution run by run

Most patterns of this library match only inside runs of one class of characters: what they see of a
text beyond the run does not matter to them (`Pattern.Within`). Substitution of such a pattern goes
through a text run by run, so a character outside the class cuts it in two
(`substitute_append_cons`).
-/

set_option autoImplicit false

namespace Disassembly.Text

/-! ## Runs inside runs -/

section Classes

variable {p q : Char → Bool}

/-- A run of a class starts with the run of a smaller class. -/
theorem takeWhile_eq_append (h : ∀ c, p c = true → q c = true) (t : Text) :
    t.takeWhile q = t.takeWhile p ++ (t.dropWhile p).takeWhile q := by
  induction t with
  | nil => rfl
  | cons c r ih =>
    by_cases hp : p c = true
    · rw [List.takeWhile_cons_of_pos (h c hp), List.takeWhile_cons_of_pos hp,
        List.dropWhile_cons_of_pos hp, ih]
      rfl
    · rw [List.takeWhile_cons_of_neg hp, List.dropWhile_cons_of_neg hp, List.nil_append]

theorem takeWhile_takeWhile_of_imp (h : ∀ c, p c = true → q c = true) (t : Text) :
    (t.takeWhile q).takeWhile p = t.takeWhile p := by
  rw [List.takeWhile_takeWhile]
  congr 1
  funext c
  cases hp : p c with
  | false => simp
  | true => simp [h c hp]

theorem dropWhile_takeWhile_of_imp (h : ∀ c, p c = true → q c = true) (t : Text) :
    (t.takeWhile q).dropWhile p = (t.dropWhile p).takeWhile q := by
  -- both sides are left of the longer run when the shorter one is cut off
  have hsplit : (t.takeWhile q).takeWhile p ++ (t.takeWhile q).dropWhile p = t.takeWhile q :=
    List.takeWhile_append_dropWhile
  rw [takeWhile_takeWhile_of_imp h] at hsplit
  exact List.append_cancel_left (hsplit.trans (takeWhile_eq_append h t))

/-- A run starts with a character of its class if the text does. -/
theorem takeWhile_eq_cons_iff {c : Char} (hc : q c = true) {t r : Text} :
    t.takeWhile q = c :: r ↔ ∃ s, t = c :: s ∧ r = s.takeWhile q := by
  cases t with
  | nil => simp
  | cons d s =>
    by_cases hd : q d = true
    · rw [List.takeWhile_cons_of_pos hd]
      constructor
      · intro h
        obtain ⟨rfl, rfl⟩ := List.cons.inj h
        exact ⟨s, rfl, rfl⟩
      · rintro ⟨s', h, rfl⟩
        obtain ⟨rfl, rfl⟩ := List.cons.inj h
        rfl
    · rw [List.takeWhile_cons_of_neg hd]
      refine iff_of_false (List.cons_ne_nil c r).symm ?_
      rintro ⟨s', h, -⟩
      obtain ⟨rfl, -⟩ := List.cons.inj h
      exact hd hc

theorem takeWhile_append_cons {c : Char} (hc : q c = false) (x y : Text) :
    (x ++ c :: y).takeWhile q = x.takeWhile q := by
  induction x with
  | nil => simp [hc]
  | cons d x ih =>
    rw [List.cons_append, List.takeWhile_cons, List.takeWhile_cons, ih]

end Classes

/-! ## Substitution step by step -/

theorem substituteFrom_nil (p : Pattern) (before : Option Char) (k : Nat) :
    substituteFrom p before k [] = [] := by
  cases k <;> rfl

@[simp]
theorem substitute_nil (p : Pattern) : substitute p [] = [] := rfl

theorem substituteFrom_cons_none {p : Pattern} {before : Option Char} {c : Char} {r : Text}
    (h : p before (c :: r) = none) :
    substituteFrom p before 0 (c :: r) = c :: substituteFrom p (some c) 0 r := by
  rw [substituteFrom, h]

theorem substituteFrom_cons_some {p : Pattern} {before : Option Char} {c : Char} {r : Text}
    {m : Match} (h : p before (c :: r) = some m) :
    substituteFrom p before 0 (c :: r) = m.written ++ substituteFrom p (some c) m.more r := by
  rw [substituteFrom, h]

/-- What belongs to a match is skipped, and the search goes on behind it. -/
theorem substituteFrom_covered (p : Pattern) (c : Char) (x rest : Text) :
    substituteFrom p (some c) x.length (x ++ rest) =
      substituteFrom p (c :: x).getLast? 0 rest := by
  induction x generalizing c with
  | nil => rfl
  | cons d x ih =>
    rw [List.getLast?_cons_cons, ← ih d]
    rfl

/-- A match at the start of the text. -/
theorem substituteFrom_match {p : Pattern} {before : Option Char} {x rest written : Text}
    (hx : x ≠ []) (hm : p before (x ++ rest) = some ⟨x.length - 1, written⟩) :
    substituteFrom p before 0 (x ++ rest) = written ++ substituteFrom p x.getLast? 0 rest := by
  obtain ⟨c, r, rfl⟩ := List.exists_cons_of_ne_nil hx
  rw [List.cons_append] at hm ⊢
  rw [substituteFrom_cons_some hm, List.length_cons, Nat.add_sub_cancel, substituteFrom_covered]

/-- A character of the result stands in the text or is written for a match. -/
theorem mem_substituteFrom {p : Pattern} {c : Char} {t : Text} {before : Option Char} {k : Nat}
    (h : c ∈ substituteFrom p before k t) :
    c ∈ t ∨ ∃ last u m, u <:+ t ∧ p last u = some m ∧ c ∈ m.written := by
  induction t generalizing before k with
  | nil =>
    rw [substituteFrom_nil] at h
    exact absurd h List.not_mem_nil
  | cons d r ih =>
    -- whatever is skipped, what comes of the rest is told by the induction hypothesis
    have hrest : ∀ {last j}, c ∈ substituteFrom p last j r →
        c ∈ d :: r ∨ ∃ last u m, u <:+ d :: r ∧ p last u = some m ∧ c ∈ m.written := by
      intro last j hc
      rcases ih hc with hc | ⟨last, u, m, hu, hm, hc⟩
      · exact Or.inl (List.mem_cons_of_mem d hc)
      · exact Or.inr ⟨last, u, m, hu.trans (List.suffix_cons d r), hm, hc⟩
    cases k with
    | succ k => exact hrest h
    | zero =>
      cases hm : p before (d :: r) with
      | none =>
        rw [substituteFrom_cons_none hm] at h
        rcases List.mem_cons.1 h with rfl | h
        · exact Or.inl List.mem_cons_self
        · exact hrest h
      | some m =>
        rw [substituteFrom_cons_some hm] at h
        rcases List.mem_append.1 h with h | h
        · exact Or.inr ⟨before, d :: r, m, List.suffix_refl _, hm, h⟩
        · exact hrest h

theorem mem_substitute {p : Pattern} {c : Char} {t : Text} (h : c ∈ substitute p t) :
    c ∈ t ∨ ∃ last u m, u <:+ t ∧ p last u = some m ∧ c ∈ m.written :=
  mem_substituteFrom h

/-- If something is written for every match, something is left of every text. -/
theorem substitute_ne_nil {p : Pattern} {t : Text} (ht : t ≠ [])
    (h : ∀ last u m, p last u = some m → m.written ≠ []) : substitute p t ≠ [] := by
  cases t with
  | nil => exact absurd rfl ht
  | cons c r =>
    rw [substitute]
    cases hm : p none (c :: r) with
    | none =>
      rw [substituteFrom_cons_none hm]
      exact List.cons_ne_nil _ _
    | some m =>
      rw [substituteFrom_cons_some hm]
      exact fun hnil => h _ _ _ hm (List.append_eq_nil_iff.1 hnil).1

/-! ## Patterns that do not look back -/

/-- The pattern does not look at the character before a place. -/
def Pattern.Forward (p : Pattern) : Prop :=
  ∀ before t, p before t = p none t

theorem Pattern.Forward.substituteFrom_eq {p : Pattern} (h : p.Forward) (before : Option Char)
    (k : Nat) (t : Text) : substituteFrom p before k t = substitute p (t.drop k) := by
  induction t generalizing before k with
  | nil => rw [substituteFrom_nil, List.drop_nil, substitute_nil]
  | cons c r ih =>
    cases k with
    | succ k => exact ih _ k
    | zero => rw [substitute, List.drop_zero, substituteFrom, substituteFrom, h before]

theorem Pattern.Forward.substitute_cons_none {p : Pattern} (h : p.Forward) {c : Char} {r : Text}
    (hm : p none (c :: r) = none) : substitute p (c :: r) = c :: substitute p r := by
  rw [substitute, substituteFrom_cons_none hm, h.substituteFrom_eq, List.drop_zero]

theorem Pattern.Forward.substitute_cons_some {p : Pattern} (h : p.Forward) {c : Char} {r : Text}
    {m : Match} (hm : p none (c :: r) = some m) :
    substitute p (c :: r) = m.written ++ substitute p (r.drop m.more) := by
  rw [substitute, substituteFrom_cons_some hm, h.substituteFrom_eq]

/-- A text in which the pattern never matches is kept. -/
theorem Pattern.Forward.substitute_eq_self {p : Pattern} (h : p.Forward) {P : Char → Prop}
    (hnone : ∀ u, (∀ c ∈ u, P c) → p none u = none) {t : Text} (ht : ∀ c ∈ t, P c) :
    substitute p t = t := by
  induction t with
  | nil => rfl
  | cons c t ih =>
    rw [h.substitute_cons_none (hnone _ ht), ih fun d hd => ht d (List.mem_cons_of_mem c hd)]

/-- A match at the start of the text. -/
theorem Pattern.Forward.substitute_match {p : Pattern} (h : p.Forward) {x z written : Text}
    (hx : x ≠ []) (hm : p none (x ++ z) = some ⟨x.length - 1, written⟩) :
    substitute p (x ++ z) = written ++ substitute p z := by
  rw [substitute, substituteFrom_match hx hm, h.substituteFrom_eq, List.drop_zero]

/-! ## Patterns inside runs -/

/-- The pattern matches only inside a run of the class, and sees nothing beyond the run. -/
structure Pattern.Within (p : Pattern) (q : Char → Bool) : Prop where
  run : ∀ before t, p before t = p before (t.takeWhile q)
  covered : ∀ before t m, p before t = some m → m.more < (t.takeWhile q).length
  start : ∀ c t, q c = false → p (some c) t = p none t

namespace Pattern.Within

variable {p : Pattern} {q : Char → Bool}

/-- A run of a class is inside a run of a larger class. -/
theorem mono (h : p.Within q) {r : Char → Bool} (hqr : ∀ c, q c = true → r c = true) :
    p.Within r := by
  refine ⟨fun before t => ?_, fun before t m hm => ?_, fun c t hc => ?_⟩
  · rw [h.run before t, h.run before (t.takeWhile r), takeWhile_takeWhile_of_imp hqr]
  · have hlt := h.covered before t m hm
    rw [takeWhile_eq_append hqr, List.length_append]
    omega
  · refine h.start c t (Bool.eq_false_iff.2 fun hq => ?_)
    rw [hqr c hq] at hc
    exact Bool.false_ne_true hc.symm

theorem eq_none (h : p.Within q) {c : Char} (hc : q c = false) (before : Option Char) (y : Text) :
    p before (c :: y) = none := by
  cases hm : p before (c :: y) with
  | none => rfl
  | some m =>
    have hlt := h.covered before (c :: y) m hm
    rw [List.takeWhile_cons_of_neg (by simp [hc])] at hlt
    exact absurd hlt (Nat.not_lt_zero _)

theorem substituteFrom_start (h : p.Within q) {c : Char} (hc : q c = false) (y : Text) :
    substituteFrom p (some c) 0 y = substitute p y := by
  cases y with
  | nil => rfl
  | cons d z => rw [substitute, substituteFrom, substituteFrom, h.start c _ hc]

theorem substituteFrom_append_cons (h : p.Within q) {c : Char} (hc : q c = false) (y : Text)
    (x : Text) (before : Option Char) (k : Nat) (hk : k ≤ x.length) :
    substituteFrom p before k (x ++ c :: y) =
      substituteFrom p before k x ++ c :: substitute p y := by
  induction x generalizing before k with
  | nil =>
    obtain rfl : k = 0 := Nat.le_zero.1 hk
    rw [List.nil_append, substituteFrom_cons_none (h.eq_none hc before y),
      h.substituteFrom_start hc]
    rfl
  | cons d x ih =>
    cases k with
    | succ k => exact ih (some d) k (Nat.le_of_succ_le_succ hk)
    | zero =>
      -- the run at this place ends before the cut, so the pattern does not see what follows it
      have hsame : p before (d :: (x ++ c :: y)) = p before (d :: x) := by
        rw [h.run, ← List.cons_append, takeWhile_append_cons hc, ← h.run]
      cases hm : p before (d :: x) with
      | none =>
        rw [List.cons_append, substituteFrom_cons_none (hsame.trans hm),
          substituteFrom_cons_none hm, ih (some d) 0 (Nat.zero_le _)]
        rfl
      | some m =>
        have hlt := h.covered before (d :: x) m hm
        -- a match is covered by its run, so what is skipped does not reach beyond the cut
        have hle := (List.takeWhile_prefix q (l := d :: x)).length_le
        rw [List.length_cons] at hle
        rw [List.cons_append, substituteFrom_cons_some (hsame.trans hm),
          substituteFrom_cons_some hm, ih (some d) m.more (by omega), List.append_assoc]

/-- A character outside the class cuts the text in two. -/
theorem substitute_append_cons (h : p.Within q) {c : Char} (hc : q c = false) (x y : Text) :
    substitute p (x ++ c :: y) = substitute p x ++ c :: substitute p y :=
  h.substituteFrom_append_cons hc y x none 0 (Nat.zero_le _)

/-- Characters outside the class stay. -/
theorem substitute_append (h : p.Within q) {x : Text} (hx : ∀ c ∈ x, q c = false) (y : Text) :
    substitute p (x ++ y) = x ++ substitute p y := by
  induction x with
  | nil => rfl
  | cons c x ih =>
    have hcut := h.substitute_append_cons (hx c List.mem_cons_self) [] (x ++ y)
    rw [List.nil_append, ih fun d hd => hx d (List.mem_cons_of_mem c hd)] at hcut
    exact hcut

end Pattern.Within

/-! ## Fixed texts -/

theorem forward_fixed (old new : Text) : (Pattern.fixed old new).Forward :=
  fun _ _ => rfl

theorem within_fixed {old : Text} (new : Text) {q : Char → Bool} (hne : old ≠ [])
    (hq : ∀ c ∈ old, q c = true) : (Pattern.fixed old new).Within q := by
  -- a text of the class that stands at the start stands inside the first run
  have hstart : ∀ t, old <+: t ↔ old <+: t.takeWhile q := by
    intro t
    constructor
    · rintro ⟨rest, rfl⟩
      rw [List.takeWhile_append_of_pos hq]
      exact List.prefix_append _ _
    · exact fun h => h.trans (List.takeWhile_prefix q)
  refine ⟨fun before t => ?_, fun before t m hm => ?_, fun c t _ => rfl⟩
  · simp only [Pattern.fixed, List.isPrefixOf_iff_prefix, hstart t,
      hstart (t.takeWhile q), takeWhile_takeWhile_of_imp fun c hc => hc]
  · rw [Pattern.fixed] at hm
    split at hm
    next hold =>
      obtain rfl := Option.some.inj hm
      have hle := ((hstart t).1 (List.isPrefixOf_iff_prefix.1 hold)).length_le
      have hpos := List.length_pos_iff.2 hne
      simp only
      omega
    next => cases hm

/-- What is written for a fixed text. -/
theorem written_fixed {old new : Text} {before : Option Char} {t : Text} {m : Match}
    (h : Pattern.fixed old new before t = some m) : m.written = new := by
  rw [Pattern.fixed] at h
  split at h
  next =>
    obtain rfl := Option.some.inj h
    rfl
  next => cases h

end Disassembly.Text
