/-!
# Steps that may fail

A step that depends on another one yields a result if the other one yields a result on which it
does (`bind_eq_ok_iff`). With this, what is known of a result is known of all steps on the way.

Where the result itself does not matter, but only a property that it has, the steps are followed
from the first to the last: `Yields x P` says that the result of `x`, if there is one, has the
property `P`.
-/

set_option autoImplicit false

namespace Disassembly

theorem bind_eq_ok_iff {ε α β : Type} {x : Except ε α} {f : α → Except ε β} {b : β} :
    (x >>= f) = .ok b ↔ ∃ a, x = .ok a ∧ f a = .ok b := by
  constructor
  · intro h
    cases x with
    | error e => cases h
    | ok a => exact ⟨a, rfl, h⟩
  · rintro ⟨a, rfl, h⟩
    exact h

/-- A step has no result but one with the given property. -/
def Yields {ε α : Type} (x : Except ε α) (P : α → Prop) : Prop :=
  ∀ a, x = .ok a → P a

namespace Yields

variable {ε α β : Type} {x : Except ε α} {f : α → Except ε β} {P : α → Prop} {Q : β → Prop}

theorem trivial (x : Except ε α) : Yields x fun _ => True :=
  fun _ _ => .intro

theorem ok {a : α} (h : P a) : Yields (.ok a : Except ε α) P := by
  rintro _ ⟨⟩
  exact h

theorem error (e : ε) (P : α → Prop) : Yields (.error e) P :=
  nofun

theorem bind (hx : Yields x P) (hf : ∀ a, P a → Yields (f a) Q) : Yields (x >>= f) Q := by
  intro b h
  obtain ⟨a, ha, hb⟩ := bind_eq_ok_iff.1 h
  exact hf a (hx a ha) b hb

theorem mapError {ε' : Type} (h : Yields x P) (g : ε → ε') : Yields (x.mapError g) P := by
  cases x with
  | error e => exact .error (g e) P
  | ok a => exact .ok (h a rfl)

theorem ite {p : Prop} [Decidable p] {y : Except ε α} (hx : p → Yields x P)
    (hy : ¬p → Yields y P) : Yields (if p then x else y) P := by
  split
  next hp => exact hx hp
  next hp => exact hy hp

/-- A step behind a check that may fail. -/
theorem checked {p : Prop} [Decidable p] {e : ε} {f : β → Except ε α} (h : ¬p → Yields x P) :
    Yields (if p then (throw e : Except ε β) >>= f else x) P :=
  .ite (fun _ => .error e P) h

/-- A step for each element of a list yields as many results. -/
theorem length_mapM (g : α → Except ε β) (l : List α) :
    Yields (l.mapM g) fun results => results.length = l.length := by
  induction l with
  | nil => exact .ok rfl
  | cons a rest ih =>
    rw [List.mapM_cons]
    exact (trivial (g a)).bind fun b _ => ih.bind fun bs hbs => .ok (congrArg Nat.succ hbs)

end Yields

end Disassembly
