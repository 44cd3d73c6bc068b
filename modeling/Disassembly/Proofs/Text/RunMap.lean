import Disassembly.Proofs.Text.Split
import Disassembly.Proofs.Text.Substitution
import Mathlib.Tactic

/-!
# Rewriting run by run

A function that rewrites the runs of a class of characters, each on its own, and keeps all other
characters (`RunMap`) does not interfere with what happens to the other characters: it can be
exchanged with making single spaces of the blank ones (`RunMap.collapse_comm`) and with the
substitution of a pattern that matches only them (`RunMap.substitute_comm`). A text and its image
are alike: they differ only in what stands in their runs.
-/

set_option autoImplicit false

namespace Disassembly.Text

/-- A text that starts in a class starts with a run of the class that is not continued. -/
theorem exists_run {q : Char → Bool} {c : Char} (hc : q c = true) (r : Text) :
    ∃ x y, c :: r = x ++ y ∧ x ≠ [] ∧ (∀ d ∈ x, q d = true) ∧ (∀ d ∈ y.head?, q d = false) ∧
      y.length < (c :: r).length := by
  refine ⟨(c :: r).takeWhile q, (c :: r).dropWhile q, List.takeWhile_append_dropWhile.symm, ?_,
    fun d hd => List.mem_takeWhile_imp hd, head?_dropWhile _, ?_⟩
  · rw [List.takeWhile_cons_of_pos hc]
    exact List.cons_ne_nil _ _
  · rw [List.dropWhile_cons_of_pos hc]
    exact Nat.lt_succ_of_le (List.dropWhile_suffix q).length_le

/-- Induction on the runs of a text. -/
@[elab_as_elim]
theorem runInduction {motive : Text → Prop} (q : Char → Bool) (t : Text) (nil : motive [])
    (cons : ∀ c y, q c = false → motive y → motive (c :: y))
    (run : ∀ x y, x ≠ [] → (∀ c ∈ x, q c = true) → (∀ c ∈ y.head?, q c = false) → motive y →
      motive (x ++ y)) : motive t := by
  induction hn : t.length using Nat.strong_induction_on generalizing t with
  | h n ih =>
    cases t with
    | nil => exact nil
    | cons c r =>
      by_cases hc : q c = true
      · obtain ⟨x, y, hsplit, hne, hx, hy, hlt⟩ := exists_run hc r
        rw [hsplit]
        exact run x y hne hx hy (ih y.length (hn ▸ hlt) y rfl)
      · refine cons c r (Bool.eq_false_iff.2 hc) (ih r.length ?_ r rfl)
        rw [← hn, List.length_cons]
        exact Nat.lt_succ_self _

/-- The function rewrites each run of the class on its own, no run to nothing, and keeps the
characters outside the class. -/
structure RunMap (q : Char → Bool) (f : Text → Text) : Prop where
  nil : f [] = []
  append_cons : ∀ x c y, q c = false → f (x ++ c :: y) = f x ++ c :: f y
  run : ∀ x, x ≠ [] → (∀ c ∈ x, q c = true) → f x ≠ [] ∧ ∀ c ∈ f x, q c = true

namespace RunMap

variable {q : Char → Bool} {f : Text → Text}

theorem cons (hf : RunMap q f) {c : Char} (hc : q c = false) (y : Text) :
    f (c :: y) = c :: f y := by
  have h := hf.append_cons [] c y hc
  rwa [hf.nil] at h

/-- Characters outside the class stay. -/
theorem append (hf : RunMap q f) {u : Text} (hu : ∀ c ∈ u, q c = false) (y : Text) :
    f (u ++ y) = u ++ f y := by
  induction u with
  | nil => rfl
  | cons c u ih =>
    rw [List.cons_append, hf.cons (hu c List.mem_cons_self),
      ih fun d hd => hu d (List.mem_cons_of_mem c hd)]
    rfl

/-- A run that is not continued is rewritten on its own. -/
theorem run_append (hf : RunMap q f) (x : Text) {y : Text} (hy : ∀ c ∈ y.head?, q c = false) :
    f (x ++ y) = f x ++ f y := by
  cases y with
  | nil => rw [List.append_nil, hf.nil, List.append_nil]
  | cons c y => rw [hf.append_cons x c y (hy c rfl), hf.cons (hy c rfl)]

theorem eq_nil_iff (hf : RunMap q f) (t : Text) : f t = [] ↔ t = [] := by
  refine ⟨fun h => ?_, fun h => h ▸ hf.nil⟩
  induction t using runInduction q with
  | nil => rfl
  | cons c y hc _ =>
    rw [hf.cons hc] at h
    exact absurd h (List.cons_ne_nil _ _)
  | run x y hne hx hy _ =>
    rw [hf.run_append x hy] at h
    exact absurd (List.append_eq_nil_iff.1 h).1 (hf.run x hne hx).1

/-- The image has no new characters outside the class. -/
theorem mem (hf : RunMap q f) {t : Text} {c : Char} (h : c ∈ f t) : q c = true ∨ c ∈ t := by
  induction t using runInduction q with
  | nil =>
    rw [hf.nil] at h
    exact absurd h List.not_mem_nil
  | cons d y hd ih =>
    rw [hf.cons hd] at h
    rcases List.mem_cons.1 h with rfl | h
    · exact Or.inr List.mem_cons_self
    · exact (ih h).imp_right (List.mem_cons_of_mem d)
  | run x y hne hx hy ih =>
    rw [hf.run_append x hy] at h
    rcases List.mem_append.1 h with h | h
    · exact Or.inl ((hf.run x hne hx).2 c h)
    · exact (ih h).imp_right (List.mem_append_right x)

/-! ## Spaces -/

/-- The words of the image are the images of the words. -/
theorem words_map (hf : RunMap q f) (hblank : ∀ c, isBlank c = true → q c = false) (t : Text) :
    words (f t) = (words t).map f := by
  -- a blank character cuts the text in two; without any, the text is one word
  by_cases hall : ∀ c ∈ t, isBlank c = false
  · by_cases ht : t = []
    · rw [ht, hf.nil]
      rfl
    · have himage : ∀ c ∈ f t, isBlank c = false := by
        intro c hc
        rcases hf.mem hc with hq | hc
        · by_contra hb
          rw [hblank c (by simpa using hb)] at hq
          exact Bool.false_ne_true hq
        · exact hall c hc
      rw [words_eq_singleton ht hall,
        words_eq_singleton (fun h => ht ((hf.eq_nil_iff t).1 h)) himage]
      rfl
  · obtain ⟨c, hc, hb⟩ : ∃ c ∈ t, isBlank c = true := by simpa using hall
    obtain ⟨x, y, rfl⟩ := List.append_of_mem hc
    rw [hf.append_cons x c y (hblank c hb), words_append_cons hb, words_append_cons hb,
      words_map hf hblank x, words_map hf hblank y, List.map_append]
termination_by t.length
decreasing_by all_goals simp_all +arith

theorem intercalate_map (hf : RunMap q f) {c : Char} (hc : q c = false) (ws : List Text) :
    [c].intercalate (ws.map f) = f ([c].intercalate ws) := by
  induction ws with
  | nil => exact hf.nil.symm
  | cons w rest ih =>
    cases rest with
    | nil => simp
    | cons v rest =>
      rw [List.intercalate_cons_cons, List.append_assoc, List.singleton_append,
        hf.append_cons _ c _ hc, ← ih, List.map_cons, List.map_cons, List.intercalate_cons_cons,
        List.append_assoc, List.singleton_append]

theorem collapse_comm (hf : RunMap q f) (hblank : ∀ c, isBlank c = true → q c = false) (t : Text) :
    collapse (f t) = f (collapse t) := by
  rw [collapse, hf.words_map hblank, hf.intercalate_map (hblank ' ' (by decide)), ← collapse]

/-! ## Substitution -/

/-- The image goes on with the same characters outside the class. -/
theorem takeWhile_not (hf : RunMap q f) (t : Text) :
    (f t).takeWhile (!q ·) = t.takeWhile (!q ·) := by
  induction t using runInduction q with
  | nil => rw [hf.nil]
  | cons c y hc ih =>
    rw [hf.cons hc, List.takeWhile_cons_of_pos (by simp [hc]),
      List.takeWhile_cons_of_pos (by simp [hc]), ih]
  | run x y hne hx hy _ =>
    rw [hf.run_append x hy]
    -- a run starts with a character of the class, before and after it is rewritten
    have hnone : ∀ {u z : Text}, u ≠ [] → (∀ c ∈ u, q c = true) →
        (u ++ z).takeWhile (!q ·) = [] := by
      intro u z hu hall
      cases u with
      | nil => exact absurd rfl hu
      | cons c u => exact List.takeWhile_cons_of_neg (by simp [hall c List.mem_cons_self])
    rw [hnone hne hx, hnone (hf.run x hne hx).1 (hf.run x hne hx).2]

theorem drop_comm (hf : RunMap q f) {t : Text} {k : Nat} (hk : k ≤ (t.takeWhile (!q ·)).length) :
    (f t).drop k = f (t.drop k) := by
  induction t generalizing k with
  | nil => rw [List.drop_nil, hf.nil, List.drop_nil]
  | cons c y ih =>
    cases k with
    | zero => rfl
    | succ k =>
      by_cases hc : q c = true
      · rw [List.takeWhile_cons_of_neg (by simp [hc])] at hk
        exact absurd hk (Nat.not_succ_le_zero k)
      · rw [List.takeWhile_cons_of_pos (by simp [hc])] at hk
        rw [hf.cons (Bool.eq_false_iff.2 hc)]
        exact ih (Nat.le_of_succ_le_succ hk)

section Substitution

variable {p : Pattern} (hforward : p.Forward)
  (hwritten : ∀ before t m, p before t = some m → m.written ≠ [] ∧ ∀ c ∈ m.written, q c = false)
include hforward hwritten

theorem head?_substitute {y : Text} (hy : ∀ c ∈ y.head?, q c = false) :
    ∀ c ∈ (substitute p y).head?, q c = false := by
  intro c hc
  cases y with
  | nil =>
    rw [substitute_nil] at hc
    cases hc
  | cons d r =>
    cases hm : p none (d :: r) with
    | none =>
      rw [hforward.substitute_cons_none hm] at hc
      exact hy c hc
    | some m =>
      obtain ⟨hne, hq⟩ := hwritten none (d :: r) m hm
      rw [hforward.substitute_cons_some hm, List.head?_append_of_ne_nil _ hne] at hc
      exact hq c (List.mem_of_head? hc)

/-- Rewriting the runs of a class and substitution outside the class can be exchanged. -/
theorem substitute_comm (hf : RunMap q f) (hp : p.Within (!q ·)) (t : Text) :
    substitute p (f t) = f (substitute p t) := by
  induction hn : t.length using Nat.strong_induction_on generalizing t with
  | h n ih =>
    cases t with
    | nil => rw [hf.nil, substitute_nil, hf.nil]
    | cons c r =>
      by_cases hc : q c = true
      · -- the pattern passes over a run of the class, before and after it is rewritten
        obtain ⟨x, y, hsplit, hne, hx, hy, hlt⟩ := exists_run hc r
        have hhead := head?_substitute hforward hwritten hy
        rw [hsplit, hf.run_append x hy, hp.substitute_append (by simpa using (hf.run x hne hx).2),
          ih y.length (hn ▸ hlt) y rfl, hp.substitute_append (by simpa using hx),
          hf.run_append x hhead]
      · have hq := Bool.eq_false_iff.2 hc
        -- the pattern sees only characters outside the class, and these are the same in the image
        have hsame : p none (c :: f r) = p none (c :: r) := by
          rw [← hf.cons hq, hp.run, hf.takeWhile_not, ← hp.run]
        rw [hf.cons hq]
        rw [List.length_cons] at hn
        cases hm : p none (c :: r) with
        | none =>
          rw [hforward.substitute_cons_none (hsame.trans hm), hforward.substitute_cons_none hm,
            hf.cons hq, ih r.length (by omega) r rfl]
        | some m =>
          have hlt := hp.covered none (c :: r) m hm
          have hlength : (r.drop m.more).length < n := by
            rw [List.length_drop]
            omega
          rw [List.takeWhile_cons_of_pos (by simp [hq]), List.length_cons] at hlt
          rw [hforward.substitute_cons_some (hsame.trans hm), hforward.substitute_cons_some hm,
            hf.append (hwritten none (c :: r) m hm).2, hf.drop_comm (by omega),
            ih (r.drop m.more).length hlength (r.drop m.more) rfl]

end Substitution

end RunMap

/-! ## Texts that differ in their runs -/

/-- The texts are the same but for the characters in the runs of the class. -/
inductive Alike (q : Char → Bool) : Text → Text → Prop where
  | nil : Alike q [] []
  | cons {c : Char} {t u : Text} (hc : q c = false) (h : Alike q t u) : Alike q (c :: t) (c :: u)
  | run {x y t u : Text} (hx : x ≠ []) (hxq : ∀ c ∈ x, q c = true) (hy : y ≠ [])
      (hyq : ∀ c ∈ y, q c = true) (h : Alike q t u) : Alike q (x ++ t) (y ++ u)

theorem RunMap.alike {q : Char → Bool} {f : Text → Text} (hf : RunMap q f) (t : Text) :
    Alike q t (f t) := by
  induction t using runInduction q with
  | nil =>
    rw [hf.nil]
    exact .nil
  | cons c y hc ih =>
    rw [hf.cons hc]
    exact .cons hc ih
  | run x y hne hx hy ih =>
    rw [hf.run_append x hy]
    exact .run hne hx (hf.run x hne hx).1 (hf.run x hne hx).2 ih

namespace Alike

variable {q : Char → Bool} {t u : Text}

theorem symm (h : Alike q t u) : Alike q u t := by
  induction h with
  | nil => exact .nil
  | cons hc _ ih => exact .cons hc ih
  | run hx hxq hy hyq _ ih => exact .run hy hyq hx hxq ih

theorem append (h : Alike q t u) {t' u' : Text} (h' : Alike q t' u') :
    Alike q (t ++ t') (u ++ u') := by
  induction h with
  | nil => exact h'
  | cons hc _ ih => exact .cons hc ih
  | run hx hxq hy hyq _ ih =>
    rw [List.append_assoc, List.append_assoc]
    exact .run hx hxq hy hyq ih

theorem reverse (h : Alike q t u) : Alike q t.reverse u.reverse := by
  induction h with
  | nil => exact .nil
  | cons hc _ ih =>
    rw [List.reverse_cons, List.reverse_cons]
    exact ih.append (.cons hc .nil)
  | @run x y t u hx hxq hy hyq _ ih =>
    have hrun : Alike q (x.reverse ++ []) (y.reverse ++ []) :=
      .run (by simpa using hx) (by simpa using hxq) (by simpa using hy) (by simpa using hyq) .nil
    rw [List.append_nil, List.append_nil] at hrun
    rw [List.reverse_append, List.reverse_append]
    exact ih.append hrun

/-- A character outside the class stands at the start of both texts. -/
theorem exists_cons {c : Char} (hc : q c = false) (h : Alike q (c :: t) u) :
    ∃ u', u = c :: u' ∧ Alike q t u' := by
  -- the first text is no variable, so the cases are split over an equation
  generalize ht : c :: t = s at h
  cases h with
  | nil => cases ht
  | cons _ h =>
    obtain ⟨rfl, rfl⟩ := List.cons.inj ht
    exact ⟨_, rfl, h⟩
  | @run x y s u hx hxq _ _ _ =>
    cases x with
    | nil => exact absurd rfl hx
    | cons d x =>
      obtain ⟨rfl, -⟩ := List.cons.inj ht
      exact absurd (hxq c List.mem_cons_self) (by simp [hc])

theorem dropWhile {p : Char → Bool} (hp : ∀ c, q c = true → p c = true) (h : Alike q t u) :
    Alike q (t.dropWhile p) (u.dropWhile p) := by
  induction h with
  | nil => exact .nil
  | @cons c t u hc h ih =>
    by_cases hpc : p c = true
    · rw [List.dropWhile_cons_of_pos hpc, List.dropWhile_cons_of_pos hpc]
      exact ih
    · rw [List.dropWhile_cons_of_neg hpc, List.dropWhile_cons_of_neg hpc]
      exact .cons hc h
  | run _ hxq _ hyq _ ih =>
    rw [List.dropWhile_append_of_pos fun c hc => hp c (hxq c hc),
      List.dropWhile_append_of_pos fun c hc => hp c (hyq c hc)]
    exact ih

theorem takeWhile_ne_nil {p : Char → Bool} (hp : ∀ c, q c = true → p c = true) (h : Alike q t u)
    (ht : t.takeWhile p ≠ []) : u.takeWhile p ≠ [] := by
  cases h with
  | nil => exact ht
  | @cons c t u _ _ =>
    by_cases hpc : p c = true
    · rw [List.takeWhile_cons_of_pos hpc]
      exact List.cons_ne_nil _ _
    · rw [List.takeWhile_cons_of_neg hpc] at ht
      exact absurd rfl ht
  | @run x y t u _ _ hy hyq _ =>
    cases y with
    | nil => exact absurd rfl hy
    | cons d y =>
      rw [List.cons_append, List.takeWhile_cons_of_pos (hp d (hyq d List.mem_cons_self))]
      exact List.cons_ne_nil _ _

end Alike

end Disassembly.Text
