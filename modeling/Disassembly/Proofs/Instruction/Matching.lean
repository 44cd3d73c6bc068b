import Disassembly.Proofs.Instruction.Line
import Mathlib.Tactic

/-!
# Matching a line with second choices

The shape of a line can also be read as a pattern whose parts are tried one after the other, where
each part has several ways to match: a run may be cut short, and an optional part may be left out
although it stands there. `LineParts.matchings` lists the matchings of the whole pattern in the
order in which they are tried, longer runs first and optional parts taken before they are left out.

The first matching takes the longest run everywhere (`head?_matchings`): a shorter offset has a
digit behind it where the colon must stand, and behind the mnemonic nothing can fail.
-/

set_option autoImplicit false

namespace Disassembly.LineParts

open Text

/-! ## The ways to match a part -/

/-- The ways to take one or more characters of a class from the start of a text, the longest run
first; each with what is left. -/
def runs (p : Char → Bool) : Text → List (Text × Text)
  | [] => []
  | c :: r => if p c then (runs p r).map (fun way => (c :: way.1, way.2)) ++ [([c], r)] else []

/-- The way to take one character of a class. -/
def single (p : Char → Bool) : Text → List (Text × Text)
  | [] => []
  | c :: r => if p c then [([c], r)] else []

/-- The ways to take a comment: the slashes, and behind them as much of the line as possible, or
less. -/
def commentRuns : Text → List (Text × Text)
  | '/' :: '/' :: r => runs (· != '\n') r ++ [([], r)]
  | _ => []

/-- The ways to match an optional part of a text: to take it, or else to leave it out. -/
def optional (part : Text → List (Text × Text)) (t : Text) : List (Option Text × Text) :=
  (part t).map (fun way => (some way.1, way.2)) ++ [(none, t)]

/-- The matchings of what stands behind the offset and the blank character, in the order in which
they are tried. -/
def matchingsAfterOffset (offset t : Text) : List LineParts :=
  (runs isMnemonicChar t).flatMap fun mnemonic =>
    (optional (single isBlank) mnemonic.2).flatMap fun before =>
      (optional (runs isOperandChar) before.2).flatMap fun operands =>
        (optional (single isBlank) operands.2).flatMap fun after =>
          (optional commentRuns after.2).map fun comment =>
            ⟨offset, mnemonic.1, operands.1.getD [], comment.1⟩

/-- The matchings of a line that starts with its offset, in the order in which they are tried. -/
def matchings (t : Text) : List LineParts :=
  (runs Char.isDigit t).flatMap fun offset =>
    (single (· == ':') offset.2).flatMap fun colon =>
      (single isBlank colon.2).flatMap fun gap => matchingsAfterOffset offset.1 gap.2

/-! ## First choices -/

theorem head?_flatMap_of_head? {α β : Type} {l : List α} {f : α → List β} {a : α} {b : β}
    (h : l.head? = some a) (hf : (f a).head? = some b) : (l.flatMap f).head? = some b := by
  cases l with
  | nil => cases h
  | cons x l =>
    obtain rfl := Option.some.inj h
    rw [List.flatMap_cons, List.head?_append, hf]
    rfl

theorem exists_cons_of_not_stop {p : Char → Bool} {t : Text} (h : ¬∀ c ∈ t.head?, p c = false) :
    ∃ c r, t = c :: r ∧ p c = true := by
  cases t with
  | nil => exact absurd (by simp) h
  | cons c r => exact ⟨c, r, rfl, by simpa using h⟩

section Runs

variable {p : Char → Bool}

theorem runs_of_stop {t : Text} (h : ∀ c ∈ t.head?, p c = false) : runs p t = [] := by
  cases t with
  | nil => rfl
  | cons c r => rw [runs, if_neg (by simp [h c rfl])]

/-- The first way takes the longest run. In every other way a character of the class is left. -/
theorem exists_runs_cons {c : Char} (hc : p c = true) (r : Text) : ∃ others,
    runs p (c :: r) = ((c :: r).takeWhile p, (c :: r).dropWhile p) :: others ∧
      ∀ way ∈ others, ∃ d s, way.2 = d :: s ∧ p d = true := by
  induction r generalizing c with
  | nil => exact ⟨[], by simp [runs, hc], by simp⟩
  | cons d s ih =>
    rw [runs, if_pos hc, List.takeWhile_cons_of_pos hc, List.dropWhile_cons_of_pos hc]
    by_cases hd : p d = true
    · obtain ⟨others, hruns, hothers⟩ := ih hd
      refine ⟨others.map (fun way => (c :: way.1, way.2)) ++ [([c], d :: s)], ?_, ?_⟩
      · rw [hruns]
        rfl
      · intro way hway
        rcases List.mem_append.1 hway with hway | hway
        · obtain ⟨w, hw, rfl⟩ := List.mem_map.1 hway
          exact hothers w hw
        · obtain rfl := List.mem_singleton.1 hway
          exact ⟨d, s, rfl, hd⟩
    · have hstop : ∀ e ∈ (d :: s).head?, p e = false := by
        rintro e ⟨⟩
        simpa using hd
      rw [runs_of_stop hstop, takeWhile_eq_nil hstop, dropWhile_eq_self hstop]
      exact ⟨[], rfl, by simp⟩

theorem head?_optional_runs (t : Text) : ∃ taken,
    (optional (runs p) t).head? = some (taken, t.dropWhile p) ∧ taken.getD [] = t.takeWhile p := by
  by_cases hstop : ∀ c ∈ t.head?, p c = false
  · rw [optional, runs_of_stop hstop, takeWhile_eq_nil hstop, dropWhile_eq_self hstop]
    exact ⟨none, rfl, rfl⟩
  · obtain ⟨c, r, rfl, hc⟩ := exists_cons_of_not_stop hstop
    obtain ⟨others, hruns, -⟩ := exists_runs_cons hc r
    rw [optional, hruns]
    exact ⟨some _, rfl, rfl⟩

end Runs

theorem head?_optional_single (t : Text) : ∃ taken,
    (optional (single isBlank) t).head? = some (taken, skipBlank t) := by
  cases t with
  | nil => exact ⟨none, rfl⟩
  | cons c r =>
    by_cases hc : isBlank c = true
    · refine ⟨some [c], ?_⟩
      rw [optional, single, if_pos hc, skipBlank, if_pos hc]
      rfl
    · refine ⟨none, ?_⟩
      rw [optional, single, if_neg hc, skipBlank, if_neg hc]
      rfl

/-- Behind the slashes a comment goes on to the end of the line, even if there is nothing more. -/
theorem head?_commentRuns (r : Text) : (commentRuns ('/' :: '/' :: r)).head? =
    some (r.takeWhile (· != '\n'), r.dropWhile (· != '\n')) := by
  rw [commentRuns]
  by_cases hstop : ∀ c ∈ r.head?, (c != '\n') = false
  · rw [runs_of_stop hstop, takeWhile_eq_nil hstop, dropWhile_eq_self hstop]
    rfl
  · obtain ⟨c, s, rfl, hc⟩ := exists_cons_of_not_stop hstop
    obtain ⟨others, hruns, -⟩ := exists_runs_cons (p := (· != '\n')) hc s
    rw [hruns]
    rfl

theorem head?_optional_commentRuns (t : Text) : ∃ rest,
    (optional commentRuns t).head? = some (commentAt? t, rest) := by
  rw [commentAt?.eq_def]
  split
  next r =>
    refine ⟨r.dropWhile (· != '\n'), ?_⟩
    rw [optional, List.head?_append, List.head?_map, head?_commentRuns]
    rfl
  next hnone =>
    have hways : commentRuns t = [] := by
      rw [commentRuns.eq_def]
      split
      next r => exact absurd rfl (hnone r)
      next => rfl
    exact ⟨t, by rw [optional, hways]; rfl⟩

/-! ## The first matching -/

/-- Behind the offset the first choices never fail. -/
theorem head?_matchingsAfterOffset (offset t : Text) :
    (matchingsAfterOffset offset t).head? = afterOffset? offset t := by
  rw [afterOffset?]
  by_cases hstop : ∀ c ∈ t.head?, isMnemonicChar c = false
  · rw [matchingsAfterOffset, runs_of_stop hstop, takeWhile_eq_nil hstop]
    rfl
  · obtain ⟨c, r, rfl, hc⟩ := exists_cons_of_not_stop hstop
    obtain ⟨others, hruns, -⟩ := exists_runs_cons hc r
    have hmnemonic := congrArg List.head? hruns
    rw [List.head?_cons] at hmnemonic
    have hne : ((c :: r).takeWhile isMnemonicChar).isEmpty = false := by
      rw [List.takeWhile_cons_of_pos hc]
      rfl
    obtain ⟨before, hbefore⟩ := head?_optional_single ((c :: r).dropWhile isMnemonicChar)
    obtain ⟨operands, hoperands, htaken⟩ := head?_optional_runs (p := isOperandChar)
      (skipBlank ((c :: r).dropWhile isMnemonicChar))
    obtain ⟨after, hafter⟩ := head?_optional_single
      ((skipBlank ((c :: r).dropWhile isMnemonicChar)).dropWhile isOperandChar)
    obtain ⟨rest, hcomment⟩ := head?_optional_commentRuns
      (skipBlank ((skipBlank ((c :: r).dropWhile isMnemonicChar)).dropWhile isOperandChar))
    simp only [hne, Bool.false_eq_true, if_false]
    refine head?_flatMap_of_head? hmnemonic (head?_flatMap_of_head? hbefore
      (head?_flatMap_of_head? hoperands (head?_flatMap_of_head? hafter ?_)))
    rw [List.head?_map, hcomment, Option.map_some, htaken]

/-- Behind a shorter offset no colon can be found. -/
theorem matchings_eq (t : Text) : matchings t =
    if (t.takeWhile Char.isDigit).isEmpty then []
    else (single (· == ':') (t.dropWhile Char.isDigit)).flatMap fun colon =>
      (single isBlank colon.2).flatMap fun gap =>
        matchingsAfterOffset (t.takeWhile Char.isDigit) gap.2 := by
  by_cases hstop : ∀ c ∈ t.head?, c.isDigit = false
  · rw [matchings, runs_of_stop hstop, takeWhile_eq_nil hstop]
    rfl
  · obtain ⟨c, r, rfl, hc⟩ := exists_cons_of_not_stop hstop
    obtain ⟨others, hruns, hothers⟩ := exists_runs_cons hc r
    have hne : ((c :: r).takeWhile Char.isDigit).isEmpty = false := by
      rw [List.takeWhile_cons_of_pos hc]
      rfl
    have hnone : (others.flatMap fun offset =>
        (single (· == ':') offset.2).flatMap fun colon =>
          (single isBlank colon.2).flatMap fun gap => matchingsAfterOffset offset.1 gap.2) = [] := by
      rw [List.flatMap_eq_nil_iff]
      intro way hway
      obtain ⟨d, s, hleft, hd⟩ := hothers way hway
      have hcolon : d ≠ ':' := ne_of_class hd (by decide)
      rw [hleft, single, if_neg (by simpa using hcolon)]
      rfl
    rw [matchings, hruns, List.flatMap_cons, hnone, List.append_nil, hne]
    rfl

/-- The first matching of a line takes the longest runs. -/
theorem head?_matchings (line : Text) : (matchings (trimLeft line)).head? = ofLine? line := by
  rw [matchings_eq, ofLine?]
  generalize trimLeft line = t
  by_cases hne : (t.takeWhile Char.isDigit).isEmpty = true
  · simp only [hne, if_true, Bool.true_or]
    split <;> rfl
  · rw [if_neg hne]
    simp only [Bool.eq_false_iff.2 hne, Bool.false_or]
    split
    next c r hrest =>
      rw [hrest]
      by_cases hc : isBlank c = true
      · simp only [single, hc, beq_self_eq_true, if_true, List.flatMap_cons, List.flatMap_nil,
          List.append_nil, Bool.not_true, Bool.false_eq_true, if_false, head?_matchingsAfterOffset]
      · simp [single, hc]
    next hother =>
      cases hrest : t.dropWhile Char.isDigit with
      | nil => rfl
      | cons d s =>
        by_cases hd : d = ':'
        · subst hd
          cases s with
          | nil => rfl
          | cons c r => exact absurd hrest (hother c r)
        · simp [single, hd]

end Disassembly.LineParts
