import Disassembly.Proofs.Declaration.Syntax
import Mathlib.Logic.Function.Iterate
import Mathlib.Tactic

/-!
# Matching brackets with a stack

Brackets are matched in one pass over the pieces of a text (`Bracketing`): an opening bracket is put
on a stack with what stands in front of it, and a closing one takes the last one from the stack and
drops all that was read since. What is left are the pieces outside the matched brackets, unmatched
brackets among them (`unmatched`). The names of special methods are pieces of their own, so their
brackets take no part in this.

Erasing innermost pairs round by round comes to the same: a round changes nothing about the outcome
of the pass (`foldl_step_eraseInnermost`), and where a round finds nothing to erase, no opening
bracket stands in front of a closing one and the pass finds nothing either (`unmatched_eq_self`).
-/

set_option autoImplicit false

namespace Disassembly.Signature

open Text Declaration

/-! ## Tokens -/

/-- A piece of a text: the name of a special method, or a character outside such names. -/
inductive Token where
  | name (m : SpecialMethod)
  | character (c : Char)

/-- The text of a piece, where the names of special methods are written as told. -/
def Token.spell (names : SpecialMethod → Text) : Token → Text
  | name m => names m
  | character c => [c]

/-- The text of a list of pieces. -/
def spell (names : SpecialMethod → Text) (ts : List Token) : Text :=
  ts.flatMap (Token.spell names)

section Spell

variable (names : SpecialMethod → Text)

@[simp]
theorem spell_nil : spell names [] = [] := rfl

@[simp]
theorem spell_name (m : SpecialMethod) (ts : List Token) :
    spell names (.name m :: ts) = names m ++ spell names ts := rfl

@[simp]
theorem spell_character (c : Char) (ts : List Token) :
    spell names (.character c :: ts) = c :: spell names ts := rfl

@[simp]
theorem spell_append (ts us : List Token) : spell names (ts ++ us) = spell names ts ++ spell names us :=
  List.flatMap_append

@[simp]
theorem spell_map_character (t : Text) : spell names (t.map .character) = t := by
  induction t with
  | nil => rfl
  | cons c t ih => simp [ih]

theorem sublist_spell {ts us : List Token} (h : List.Sublist ts us) :
    List.Sublist (spell names ts) (spell names us) :=
  h.flatMap _

end Spell

/-! ## The pass -/

/-- A state of the pass: what stands in front of each bracket that is still open, the innermost
first, and what was read since. -/
structure Bracketing where
  pending : List (List Token)
  current : List Token

namespace Bracketing

/-- The pass reads a piece. -/
def step (b : Bracketing) : Token → Bracketing
  | .character '<' => ⟨b.current :: b.pending, []⟩
  | .character '>' =>
    match b.pending with
    | [] => ⟨[], b.current ++ [.character '>']⟩
    | before :: rest => ⟨rest, before⟩
  | t => ⟨b.pending, b.current ++ [t]⟩

/-- What is left when nothing follows: the brackets that are still open stay. -/
def result (b : Bracketing) : List Token :=
  b.pending.foldl (fun behind before => before ++ .character '<' :: behind) b.current

@[simp]
theorem step_open (b : Bracketing) : b.step (.character '<') = ⟨b.current :: b.pending, []⟩ := rfl

@[simp]
theorem step_close_nil (ts : List Token) :
    step ⟨[], ts⟩ (.character '>') = ⟨[], ts ++ [.character '>']⟩ := rfl

@[simp]
theorem step_close_cons (before : List Token) (rest : List (List Token)) (ts : List Token) :
    step ⟨before :: rest, ts⟩ (.character '>') = ⟨rest, before⟩ := rfl

@[simp]
theorem step_name (b : Bracketing) (m : SpecialMethod) :
    b.step (.name m) = ⟨b.pending, b.current ++ [.name m]⟩ := rfl

theorem step_plain (b : Bracketing) {c : Char} (hc : isPlain c = true) :
    b.step (.character c) = ⟨b.pending, b.current ++ [.character c]⟩ := by
  obtain ⟨hopen, hclose⟩ := isPlain_iff.1 hc
  rw [step]
  · exact fun h => hopen (Token.character.inj h)
  · exact fun h => hclose (Token.character.inj h)

theorem foldl_step_plain (b : Bracketing) {t : Text} (ht : ∀ c ∈ t, isPlain c = true) :
    (t.map .character).foldl step b = ⟨b.pending, b.current ++ t.map .character⟩ := by
  induction t generalizing b with
  | nil => simp
  | cons c t ih =>
    rw [List.forall_mem_cons] at ht
    rw [List.map_cons, List.foldl_cons, step_plain b ht.1, ih _ ht.2]
    simp

theorem result_append (pending : List (List Token)) (ts us : List Token) :
    result ⟨pending, ts ++ us⟩ = result ⟨pending, ts⟩ ++ us := by
  induction pending generalizing ts with
  | nil => rfl
  | cons before rest ih =>
    have h := ih (before ++ .character '<' :: ts)
    simpa [result] using h

/-- A piece is an opening bracket, a closing one, or one that is just read. -/
theorem step_cases (t : Token) : t = .character '<' ∨ t = .character '>' ∨
    ∀ b : Bracketing, b.step t = ⟨b.pending, b.current ++ [t]⟩ := by
  cases t with
  | name m => exact Or.inr (Or.inr fun b => rfl)
  | character c =>
    by_cases hc : isPlain c = true
    · exact Or.inr (Or.inr fun b => step_plain b hc)
    · rw [isPlain_iff, not_and_or, not_not, not_not] at hc
      rcases hc with rfl | rfl
      · exact Or.inl rfl
      · exact Or.inr (Or.inl rfl)

/-- A bracket that is still open stays between what stands in front of it and behind it. -/
theorem result_open (before : List Token) (rest : List (List Token)) (ts : List Token) :
    result ⟨before :: rest, ts⟩ = result ⟨rest, before⟩ ++ .character '<' :: ts :=
  result_append rest before (.character '<' :: ts)

/-- A piece that closes no bracket stays. -/
theorem result_step {b : Bracketing} {t : Token} (h : t = .character '>' → b.pending = []) :
    (b.step t).result = b.result ++ [t] := by
  obtain ⟨pending, current⟩ := b
  rcases step_cases t with rfl | rfl | hstep
  · rw [step_open, result_open]
  · obtain rfl : pending = [] := h rfl
    rfl
  · rw [hstep, result_append]

theorem result_step_sublist (b : Bracketing) (t : Token) :
    List.Sublist (b.step t).result (b.result ++ [t]) := by
  by_cases h : t = .character '>' → b.pending = []
  · rw [result_step h]
  · obtain ⟨rfl, hpending⟩ := Classical.not_imp.1 h
    obtain ⟨pending, current⟩ := b
    obtain ⟨before, rest, rfl⟩ := List.exists_cons_of_ne_nil hpending
    rw [step_close_cons, result_open, List.append_assoc]
    exact List.sublist_append_left _ _

theorem result_foldl_sublist (b : Bracketing) (ts : List Token) :
    List.Sublist (ts.foldl step b).result (b.result ++ ts) := by
  induction ts generalizing b with
  | nil => simp
  | cons t ts ih =>
    have hstep := (b.result_step_sublist t).append_right ts
    rw [List.append_assoc, List.singleton_append] at hstep
    exact (ih (b.step t)).trans hstep

/-- If no opening bracket stands in front of a closing one, all pieces stay. -/
theorem result_foldl {b : Bracketing} {ts : List Token}
    (hpair : ¬List.Sublist [.character '<', .character '>'] ts)
    (hclose : b.pending ≠ [] → Token.character '>' ∉ ts) :
    (ts.foldl step b).result = b.result ++ ts := by
  induction ts generalizing b with
  | nil => simp
  | cons t ts ih =>
    have hkept : t = .character '>' → b.pending = [] := by
      rintro rfl
      by_contra hpending
      exact hclose hpending List.mem_cons_self
    have hpair' : ¬List.Sublist [.character '<', .character '>'] ts :=
      fun h => hpair (h.trans (List.sublist_cons_self t ts))
    have hclose' : (b.step t).pending ≠ [] → Token.character '>' ∉ ts := by
      intro hpending hmem
      rcases step_cases t with rfl | rfl | hstep
      · exact hpair ((List.singleton_sublist.2 hmem).cons_cons _)
      · obtain ⟨pending, current⟩ := b
        obtain rfl : pending = [] := hkept rfl
        exact hpending rfl
      · rw [hstep] at hpending
        exact hclose hpending (List.mem_cons_of_mem t hmem)
    rw [List.foldl_cons, ih hpair' hclose', result_step hkept, List.append_assoc]
    rfl

end Bracketing

/-- The pieces outside the matched brackets. -/
def unmatched (ts : List Token) : List Token :=
  (ts.foldl Bracketing.step ⟨[], []⟩).result

/-- What is left stands in the text, in the same order. -/
theorem unmatched_sublist (ts : List Token) : List.Sublist (unmatched ts) ts :=
  Bracketing.result_foldl_sublist ⟨[], []⟩ ts

theorem unmatched_eq_self {ts : List Token}
    (h : ¬List.Sublist [.character '<', .character '>'] ts) : unmatched ts = ts :=
  Bracketing.result_foldl h fun hpending => absurd rfl hpending

/-! ## Rounds of erasure -/

/-- Induction on what one round of erasure does at the start of a text. -/
@[elab_as_elim]
theorem roundInduction {motive : Text → Prop} (t : Text) (nil : motive [])
    (kept : ∀ c r, eraseInnermost (c :: r) = c :: eraseInnermost r →
      (c = '<' → (r.dropWhile isPlain).head? ≠ some '>') → motive r → motive (c :: r))
    (pair : ∀ inner r, (∀ c ∈ inner, isPlain c = true) →
      eraseInnermost ('<' :: inner ++ '>' :: r) = eraseInnermost r → motive r →
        motive ('<' :: inner ++ '>' :: r)) : motive t := by
  induction t using bracketInduction with
  | nil => exact nil
  | other c r hc ih => exact kept c r (eraseInnermost_cons_of_ne hc r) (fun h => absurd h hc) ih
  | last r hplain ih =>
    have hnext : (r.dropWhile isPlain).head? ≠ some '>' := by
      rw [List.dropWhile_eq_nil_iff.2 hplain]
      exact nofun
    exact kept '<' r (eraseInnermost_open_of_head hnext) (fun _ => hnext) ih
  | nested inner s hplain ih =>
    have hnext : ((inner ++ '<' :: s).dropWhile isPlain).head? ≠ some '>' := by
      rw [dropWhile_isPlain_append hplain]
      exact nofun
    exact kept '<' _ (eraseInnermost_open_of_head hnext) (fun _ => hnext) ih
  | pair inner s hplain ih => exact pair inner s hplain (eraseInnermost_pair hplain s) ih

/-- A round does not change the outcome of the pass. -/
theorem foldl_step_eraseInnermost (b : Bracketing) (t : Text) :
    ((eraseInnermost t).map .character).foldl Bracketing.step b =
      (t.map .character).foldl Bracketing.step b := by
  induction t using roundInduction generalizing b with
  | nil => rfl
  | kept c r hround _ ih => rw [hround, List.map_cons, List.map_cons, List.foldl_cons,
      List.foldl_cons, ih]
  | pair inner r hinner hround ih =>
    -- the closing bracket takes the opening one from the stack, and what was read between is lost
    rw [hround, ih]
    simp [Bracketing.foldl_step_plain _ hinner]

/-- If the next bracket is no closing one, a closing bracket further on stands behind another opening
one. -/
theorem sublist_of_sublist_cons {c : Char} {r : Text}
    (hnext : c = '<' → (r.dropWhile isPlain).head? ≠ some '>')
    (h : List.Sublist ['<', '>'] (c :: r)) : List.Sublist ['<', '>'] r := by
  rcases List.sublist_cons_iff.1 h with h | ⟨rest, hrest, hclose⟩
  · exact h
  · obtain ⟨rfl, rfl⟩ := List.cons.inj hrest
    have hmem : '>' ∈ r := List.singleton_sublist.1 hclose
    rcases plain_or_bracket r with hplain | ⟨inner, d, s, rfl, hplain, rfl | rfl⟩
    · exact absurd (hplain '>' hmem) (by decide)
    · have hbehind : '>' ∈ s := by
        rcases List.mem_append.1 hmem with hmem | hmem
        · exact absurd (hplain '>' hmem) (by decide)
        · simpa using hmem
      apply List.Sublist.trans _ (List.sublist_append_right inner _)
      exact (List.singleton_sublist.2 hbehind).cons_cons '<'
    · apply absurd _ (hnext rfl)
      rw [dropWhile_isPlain_append hplain]
      rfl

/-- A round changes nothing where no opening bracket stands in front of a closing one; elsewhere it
takes an opening bracket away. -/
theorem eraseInnermost_eq_self_or_lt (t : Text) :
    (eraseInnermost t = t ∧ ¬List.Sublist ['<', '>'] t) ∨
      (eraseInnermost t).count '<' < t.count '<' := by
  induction t using roundInduction with
  | nil => exact Or.inl ⟨rfl, by simp⟩
  | kept c r hround hnext ih =>
    rw [hround]
    rcases ih with ⟨hsame, hpair⟩ | hlt
    · left
      rw [hsame]
      exact ⟨rfl, fun h => hpair (sublist_of_sublist_cons hnext h)⟩
    · right
      rw [List.count_cons, List.count_cons]
      omega
  | pair inner r hinner hround ih =>
    right
    have hle : (eraseInnermost r).count '<' ≤ r.count '<' := by
      rcases ih with ⟨hsame, -⟩ | hlt
      · rw [hsame]
      · exact Nat.le_of_lt hlt
    rw [hround, List.cons_append, List.count_cons_self, List.count_append, List.count_cons]
    omega

theorem eraseRounds_eq_iterate (n : Nat) (t : Text) : eraseRounds n t = eraseInnermost^[n] t := by
  induction n generalizing t with
  | zero => rfl
  | succ n ih => rw [eraseRounds_succ, ih, Function.iterate_succ_apply]

/-- After as many rounds as there are opening brackets, no opening bracket stands in front of a
closing one, and a further round changes nothing. -/
theorem iterate_eraseInnermost {n : Nat} {t : Text} (hn : t.count '<' ≤ n) :
    eraseInnermost^[n + 1] t = eraseInnermost^[n] t ∧
      ¬List.Sublist ['<', '>'] (eraseInnermost^[n] t) := by
  induction n generalizing t with
  | zero =>
    rcases eraseInnermost_eq_self_or_lt t with h | hlt
    · exact h
    · omega
  | succ n ih =>
    rw [Function.iterate_succ_apply, Function.iterate_succ_apply]
    rcases eraseInnermost_eq_self_or_lt t with ⟨hsame, hpair⟩ | hlt
    · -- nothing is erased in any round
      have hfixed : ∀ k, eraseInnermost^[k] t = t := Function.iterate_fixed hsame
      rw [hsame, Function.iterate_succ_apply, hsame, hfixed]
      exact ⟨rfl, hpair⟩
    · exact ih (by omega)

/-- The rounds come to the outcome of the pass. -/
theorem map_erasePairs (t : Text) :
    (erasePairs t).map Token.character = unmatched (t.map .character) := by
  obtain ⟨-, hpair⟩ := iterate_eraseInnermost (Nat.le_refl (t.count '<'))
  have hkept : ¬List.Sublist [Token.character '<', .character '>']
      ((eraseInnermost^[t.count '<'] t).map .character) := by
    intro h
    have hspelled := sublist_spell SpecialMethod.text h
    rw [spell_map_character] at hspelled
    exact hpair hspelled
  have hsame : ∀ n, ((eraseInnermost^[n] t).map .character).foldl Bracketing.step ⟨[], []⟩ =
      (t.map .character).foldl Bracketing.step ⟨[], []⟩ := by
    intro n
    induction n with
    | zero => rfl
    | succ n ih => rw [Function.iterate_succ_apply', foldl_step_eraseInnermost, ih]
  rw [erasePairs, eraseRounds_eq_iterate, ← unmatched_eq_self hkept, unmatched, unmatched, hsame]

/-! ## Names as single pieces -/

section Names

variable {names : SpecialMethod → Text} (hplain : ∀ m, ∀ c ∈ names m, isPlain c = true)

/-- The state of the pass if names are read letter by letter. -/
def Bracketing.spelled (names : SpecialMethod → Text) (b : Bracketing) : Bracketing :=
  ⟨b.pending.map fun ts => (spell names ts).map .character, (spell names b.current).map .character⟩

theorem Bracketing.result_spelled (b : Bracketing) :
    (b.spelled names).result = (spell names b.result).map .character := by
  obtain ⟨pending, current⟩ := b
  induction pending generalizing current with
  | nil => rfl
  | cons before rest ih =>
    have h := ih (before ++ .character '<' :: current)
    simpa [spelled, result] using h

include hplain

/-- Letters that are no brackets can be read one by one or together. -/
theorem Bracketing.foldl_step_spell (b : Bracketing) (ts : List Token) :
    ((spell names ts).map .character).foldl step (b.spelled names) =
      (ts.foldl step b).spelled names := by
  induction ts generalizing b with
  | nil => rfl
  | cons t ts ih =>
    rw [List.foldl_cons, ← ih]
    cases t with
    | name m =>
      rw [spell_name, List.map_append, List.foldl_append, foldl_step_plain _ (hplain m)]
      simp [spelled]
    | character c =>
      rw [spell_character, List.map_cons, List.foldl_cons]
      congr 1
      obtain ⟨pending, current⟩ := b
      rcases step_cases (.character c) with h | h | hstep
      · obtain rfl := Token.character.inj h
        rfl
      · obtain rfl := Token.character.inj h
        cases pending <;> simp [spelled]
      · rw [hstep, hstep]
        simp [spelled]

/-- Erasing bracket pairs from a text that names are written into leaves the pieces outside the
matched brackets. -/
theorem erasePairs_spell (ts : List Token) :
    erasePairs (spell names ts) = spell names (unmatched ts) := by
  have hletters : (erasePairs (spell names ts)).map Token.character =
      (spell names (unmatched ts)).map .character := by
    rw [map_erasePairs, unmatched, unmatched, ← Bracketing.result_spelled,
      ← Bracketing.foldl_step_spell hplain]
    rfl
  rw [← spell_map_character names (erasePairs (spell names ts)), hletters, spell_map_character]

/-- No opening bracket that is left stands in front of a closing one that is left. -/
theorem not_sublist_unmatched (ts : List Token) :
    ¬List.Sublist [.character '<', .character '>'] (unmatched ts) := by
  intro h
  obtain ⟨-, hpair⟩ := iterate_eraseInnermost (Nat.le_refl ((spell names ts).count '<'))
  rw [← eraseRounds_eq_iterate, ← erasePairs, erasePairs_spell hplain] at hpair
  exact hpair (sublist_spell names h)

end Names

end Disassembly.Signature
