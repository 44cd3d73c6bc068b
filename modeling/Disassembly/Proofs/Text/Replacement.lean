import Disassembly.Proofs.Text.Substitution
import Mathlib.Tactic

/-!
# Replacing a fixed text piece by piece

A part of a text is rewritten on its own if no place of the replaced text reaches from it into what
follows (`Rewrites`). Parts that are rewritten on their own can be put together
(`Rewrites.append`), so replacing in a long text comes down to replacing in its parts.
-/

set_option autoImplicit false

namespace Disassembly.Text

/-- In front of any text, the replacement turns the one part into the other. -/
def Rewrites (old new part result : Text) : Prop :=
  ∀ rest, replace old new (part ++ rest) = result ++ replace old new rest

section Parts

variable {old new : Text}

theorem replace_nil : replace old new [] = [] := rfl

/-- A character with which no place of the replaced text starts is kept. -/
theorem replace_cons {c : Char} {r : Text} (h : ¬old <+: c :: r) :
    replace old new (c :: r) = c :: replace old new r := by
  have hnone : Pattern.fixed old new none (c :: r) = none :=
    if_neg fun hstart => h (List.isPrefixOf_iff_prefix.1 hstart)
  rw [replace, (forward_fixed old new).substitute_cons_none hnone, ← replace]

theorem Rewrites.replace_eq {part result : Text} (h : Rewrites old new part result) :
    replace old new part = result := by
  have hrest := h []
  rwa [List.append_nil, replace_nil, List.append_nil] at hrest

theorem Rewrites.nil : Rewrites old new [] [] :=
  fun _ => rfl

theorem Rewrites.append {a b c d : Text} (h : Rewrites old new a b) (h' : Rewrites old new c d) :
    Rewrites old new (a ++ c) (b ++ d) := by
  intro rest
  rw [List.append_assoc, h, h', List.append_assoc]

/-- A character where the replaced text does not stand is kept. -/
theorem Rewrites.cons {c : Char} {part result : Text} (hc : ∀ rest, ¬old <+: c :: part ++ rest)
    (h : Rewrites old new part result) : Rewrites old new (c :: part) (c :: result) := by
  intro rest
  have hkept : ¬old <+: c :: (part ++ rest) := hc rest
  rw [List.cons_append, replace_cons hkept, h rest]
  rfl

/-- A part where the replaced text does not stand is kept. -/
theorem rewrites_self {part : Text}
    (h : ∀ s, s <:+ part → s ≠ [] → ∀ rest, ¬old <+: s ++ rest) : Rewrites old new part part := by
  induction part with
  | nil => exact .nil
  | cons c part ih =>
    refine (ih fun s hs => h s (hs.trans (List.suffix_cons c part))).cons ?_
    exact h (c :: part) (List.suffix_refl _) (List.cons_ne_nil c part)

/-- A text where the replaced text does not stand is kept. -/
theorem replace_eq_self {t : Text} (h : ¬old <:+: t) : replace old new t = t := by
  induction t with
  | nil => rfl
  | cons c t ih =>
    rw [replace_cons fun hstart => h hstart.isInfix,
      ih fun hinside => h (hinside.trans (List.suffix_cons c t).isInfix)]

/-- A part that does not have the first character of the replaced text is kept. -/
theorem rewrites_self_of_head {c : Char} {part : Text} (hold : old.head? = some c)
    (hc : c ∉ part) : Rewrites old new part part := by
  apply rewrites_self
  intro s hs hne rest hstart
  apply hc
  obtain ⟨tail, htail⟩ := hstart
  have hhead : (s ++ rest).head? = some c := by
    rw [← htail, List.head?_append, hold]
    rfl
  rw [List.head?_append_of_ne_nil s hne] at hhead
  exact hs.subset (List.mem_of_head? hhead)

/-- A part that ends in the only place of a character in the replaced text is kept if the replaced
text does not stand in it: no place can reach beyond the part. -/
theorem rewrites_self_of_last {z : Char} (body : Text) {part : Text} (hold : old = body ++ [z])
    (hz : z ∉ body) (hpart : part.getLast? = some z) (hinside : ¬old <:+: part) :
    Rewrites old new part part := by
  apply rewrites_self
  intro s hs hne rest hstart
  -- a place that starts in the part either reaches beyond it or stands inside
  rcases Nat.lt_or_ge s.length old.length with hlt | hle
  · have hlength : s.length ≤ body.length := by
      rw [hold, List.length_append, List.length_singleton] at hlt
      omega
    have hfront : body <+: s ++ rest := (hold ▸ List.prefix_append body [z]).trans hstart
    have hbody : s <+: body :=
      List.prefix_of_prefix_length_le (List.prefix_append s rest) hfront hlength
    -- the end of the part would then stand in the replaced text before its last character
    have hlast : s.getLast? = some z := by
      obtain ⟨front, rfl⟩ := hs
      rwa [List.getLast?_append_of_ne_nil front hne] at hpart
    exact hz (hbody.subset (List.mem_of_getLast? hlast))
  · have hold' : old <+: s :=
      List.prefix_of_prefix_length_le hstart (List.prefix_append s rest) hle
    exact hinside (hold'.isInfix.trans hs.isInfix)

/-- The replaced text itself. -/
theorem rewrites_old (hne : old ≠ []) : Rewrites old new old new := by
  intro rest
  cases old with
  | nil => exact absurd rfl hne
  | cons c r =>
    have hsome : Pattern.fixed (c :: r) new none (c :: (r ++ rest)) = some ⟨r.length, new⟩ := by
      rw [Pattern.fixed, ← List.cons_append,
        if_pos (List.isPrefixOf_iff_prefix.2 (List.prefix_append _ _))]
      rfl
    rw [List.cons_append, replace, (forward_fixed _ _).substitute_cons_some hsome,
      List.drop_left, ← replace]

/-! ## Cuts inside a text -/

/-- A place of the replaced text does not reach into what follows, if that starts with a character
that does not end the replaced text, and goes on with one that stands in it at the start only. -/
theorem isPrefix_of_isPrefix_append_cons {c : Char} {x y : Text} (hlast : old.getLast? ≠ some c)
    (hy : ∀ d ∈ y.head?, d ∉ old.tail) (h : old <+: x ++ c :: y) : old <+: x := by
  rcases List.prefix_or_prefix_of_prefix h (List.prefix_append x (c :: y)) with h' | ⟨more, rfl⟩
  · exact h'
  · have hmore : more <+: c :: y := (List.prefix_append_right_inj x).1 h
    match more, hmore with
    | [], _ => rw [List.append_nil]
    | [d], hmore =>
      obtain ⟨rfl, -⟩ := List.cons_prefix_cons.1 hmore
      exact absurd List.getLast?_concat hlast
    | d :: e :: s, hmore =>
      obtain ⟨rfl, u, rfl⟩ := List.cons_prefix_cons.1 hmore
      refine absurd ?_ (hy e rfl)
      cases x <;> simp

/-- A text is cut at such a character, if that does not start the replaced text either. -/
theorem replace_append_cons (hne : old ≠ []) {c : Char} {y : Text} (hhead : old.head? ≠ some c)
    (hlast : old.getLast? ≠ some c) (hy : ∀ d ∈ y.head?, d ∉ old.tail) (x : Text) :
    replace old new (x ++ c :: y) = replace old new x ++ c :: replace old new y := by
  induction hlength : x.length using Nat.strong_induction_on generalizing x with
  | _ n ih =>
    cases x with
    | nil =>
      have hkept : Rewrites old new [c] [c] := by
        obtain ⟨b, m, rfl⟩ := List.exists_cons_of_ne_nil hne
        exact rewrites_self_of_head rfl fun h => hhead (congrArg some (List.mem_singleton.1 h))
      exact hkept y
    | cons b x =>
      by_cases hstart : old <+: b :: x
      · -- the place is part of the text in front of the cut
        obtain ⟨z, hz⟩ := hstart
        have hlt : z.length < n := by
          have hlen := congrArg List.length hz
          have hpos := List.length_pos_of_ne_nil hne
          rw [List.length_append] at hlen
          omega
        rw [← hz, List.append_assoc, rewrites_old hne, rewrites_old hne, ih _ hlt z rfl,
          List.append_assoc]
      · have hwhole : ¬old <+: b :: (x ++ c :: y) := fun h =>
          hstart (isPrefix_of_isPrefix_append_cons (x := b :: x) hlast hy h)
        have hrest := ih x.length (hlength ▸ Nat.lt_succ_self _) x rfl
        rw [List.cons_append, replace_cons hwhole, hrest, replace_cons hstart]
        rfl

end Parts

end Disassembly.Text
