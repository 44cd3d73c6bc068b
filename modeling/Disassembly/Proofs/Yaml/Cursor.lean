import Disassembly.Yaml.Cursor
import Disassembly.Proofs.Outcome
import Mathlib.Tactic

/-!
# Reading forward

Whatever is read from a place in a text, the place behind it comes no earlier in the text
(`Cursor.Precedes`). All loops of the reading of scalars are followed here, with the number of
rounds that they are given.
-/

set_option autoImplicit false

namespace Disassembly.Yaml.Cursor

variable {c d e : Cursor} {n : Nat}

/-- The second place is no earlier in the text than the first one. -/
def Precedes (c d : Cursor) : Prop :=
  d.rest <:+ c.rest

namespace Precedes

theorem refl (c : Cursor) : c.Precedes c :=
  List.suffix_refl c.rest

theorem trans (h : c.Precedes d) (h' : d.Precedes e) : c.Precedes e :=
  List.IsSuffix.trans h' h

theorem length_le (h : c.Precedes d) : d.rest.length ≤ c.rest.length :=
  List.IsSuffix.length_le h

end Precedes

theorem rest_next (c : Cursor) : c.next.rest = c.rest.tail := by
  rw [next]
  split
  next h => rw [h, List.tail_nil]
  next h =>
    rw [h, List.tail_cons]
    split <;> rfl

theorem precedes_next (c : Cursor) : c.Precedes c.next := by
  rw [Precedes, rest_next]
  exact List.tail_suffix c.rest

/-- Behind the next character less is left. -/
theorem length_next_lt {ch : Char} (h : c.peek = some ch) : c.next.rest.length < c.rest.length := by
  obtain ⟨r, hr⟩ := List.head?_eq_some_iff.1 h
  rw [rest_next, hr, List.tail_cons]
  exact Nat.lt_succ_self r.length

theorem precedes_advance (c : Cursor) (n : Nat) : c.Precedes (c.advance n) := by
  induction n generalizing c with
  | zero => exact .refl c
  | succ n ih => exact (precedes_next c).trans (ih c.next)

theorem next_precedes_advance (c : Cursor) (hn : n ≠ 0) : c.next.Precedes (c.advance n) := by
  cases n with
  | zero => exact absurd rfl hn
  | succ n => exact precedes_advance c.next n

theorem precedes_take (c : Cursor) (p : Char → Bool) : c.Precedes (c.take p).2 :=
  precedes_advance c _

theorem precedes_skip (c : Cursor) (p : Char → Bool) : c.Precedes (c.skip p) :=
  precedes_take c p

/-! ## Quoted scalars -/

theorem precedes_quotedBreaks (n : Nat) (c : Cursor) :
    Yields (quotedBreaks n c) fun r => c.Precedes r.2 := by
  induction n generalizing c with
  | zero => exact .ok (.refl c)
  | succ n ih =>
    rw [quotedBreaks]
    refine .checked fun _ => ?_
    have hskip := precedes_skip c isSpaceOrTab
    simp only
    split
    next =>
      refine (ih _).bind fun r hr => .ok ?_
      exact hskip.trans ((precedes_next _).trans hr)
    next => exact .ok hskip

theorem precedes_takeEscape (n : Nat) (c : Cursor) :
    Yields (takeEscape n c) fun r => c.Precedes r.2 := by
  have hnext := precedes_next c
  have hbehind := hnext.trans (precedes_next c.next)
  rw [takeEscape]
  split
  next => exact .error _ _
  next =>
    split
    next => exact .ok hbehind
    next =>
      intro r h
      obtain ⟨code, -, h⟩ := bind_eq_ok_iff.1 h
      obtain ⟨ch, -, h⟩ := bind_eq_ok_iff.1 h
      cases h
      exact hbehind.trans (precedes_advance _ _)
    next =>
      split
      next =>
        exact (precedes_quotedBreaks n _).bind fun r hr => .ok (hbehind.trans hr)
      next => exact .error _ _

theorem precedes_takeQuoted (double : Bool) (n : Nat) (c : Cursor) :
    Yields (takeQuoted double n c) fun r => c.Precedes r.2 := by
  induction n generalizing c with
  | zero => exact .error _ _
  | succ n ih =>
    rw [takeQuoted]
    split
    next => exact .error _ _
    next ch _ =>
      by_cases hmark : ch = if double then '"' else '\''
      · rw [if_pos hmark]
        split
        next => exact (ih _).bind fun r hr => .ok ((precedes_advance c 2).trans hr)
        next => exact .ok (precedes_next c)
      · rw [if_neg hmark]
        split
        next =>
          have htake := precedes_take c isSpaceOrTab
          refine .checked fun _ => ?_
          simp only
          split
          next =>
            refine (precedes_quotedBreaks (n + 1) _).bind fun r hr => ?_
            refine (ih _).bind fun s hs => .ok ?_
            exact htake.trans ((precedes_next _).trans (hr.trans hs))
          next => exact (ih _).bind fun r hr => .ok (htake.trans hr)
        next =>
          split
          next =>
            refine (precedes_takeEscape (n + 1) c).bind fun r hr => ?_
            exact (ih _).bind fun s hs => .ok (hr.trans hs)
          next => exact (ih _).bind fun r hr => .ok ((precedes_next c).trans hr)

/-- A quoted scalar takes at least its mark. -/
theorem precedes_quoted (double : Bool) (c : Cursor) :
    Yields (c.quoted double) fun r => c.next.Precedes r.2 :=
  precedes_takeQuoted double _ c.next

/-! ## Plain scalars -/

theorem precedes_plainBreaks (n : Nat) (c : Cursor) : c.Precedes (plainBreaks n c).2 := by
  induction n generalizing c with
  | zero => exact .refl c
  | succ n ih =>
    have hskip := precedes_skip c (· == ' ')
    have hbreak := hskip.trans (precedes_next _)
    rw [plainBreaks]
    simp only
    split
    next =>
      split
      next => exact hbreak
      next => exact hbreak.trans (ih _)
    next => exact hskip

theorem precedes_plainGap (c : Cursor) : c.Precedes c.plainGap.2.1 := by
  have htake := precedes_take c (· == ' ')
  have hbreak := htake.trans (precedes_next _)
  rw [plainGap]
  simp only
  split
  next =>
    split
    next => exact hbreak
    next => exact hbreak.trans (precedes_plainBreaks _ _)
  next => exact htake

theorem precedes_takePlain (inFlow : Bool) (indent : Int) (n : Nat) (c : Cursor) :
    c.Precedes (takePlain inFlow indent n c).cursor := by
  induction n generalizing c with
  | zero => exact .refl c
  | succ n ih =>
    have hgap := (precedes_advance c (plainPiece inFlow c.rest).length).trans (precedes_plainGap _)
    rw [takePlain]
    simp only
    split
    next => exact hgap
    next => exact hgap.trans (ih _)

/-- A plain scalar takes at least one character if its first piece does. -/
theorem precedes_plain {inFlow : Bool} (indent : Int) (h : plainPiece inFlow c.rest ≠ []) :
    c.next.Precedes (c.plain inFlow indent).cursor := by
  have hgap := (next_precedes_advance c (fun hc => h (List.length_eq_zero_iff.1 hc))).trans
    (precedes_plainGap (c.advance (plainPiece inFlow c.rest).length))
  rw [plain, takePlain]
  simp only
  split
  next => exact hgap
  next => exact hgap.trans (precedes_takePlain inFlow indent _ _)

/-! ## Block scalars -/

theorem precedes_takeChomping (c : Cursor) : c.Precedes c.takeChomping.2 := by
  rw [takeChomping]
  split
  next => exact precedes_next c
  next => exact precedes_next c
  next => exact .refl c

theorem precedes_takeIncrement (c : Cursor) : Yields c.takeIncrement fun r => c.Precedes r.2 := by
  rw [takeIncrement]
  split
  next =>
    split
    next => exact .error _ _
    next =>
      split
      next => exact .ok (precedes_next c)
      next => exact .ok (.refl c)
  next => exact .ok (.refl c)

theorem precedes_takeHeader (c : Cursor) : Yields c.takeHeader fun r => c.Precedes r.2 := by
  rw [takeHeader]
  have hchomping := precedes_takeChomping c
  refine (precedes_takeIncrement _).bind fun r hr => ?_
  have hbehind : ∀ p : Prop, [Decidable p] →
      r.2.Precedes (if p then r.2.takeChomping else (none, r.2)).2 := by
    intro p _
    split
    next => exact precedes_takeChomping r.2
    next => exact .refl r.2
  have hcomment : ∀ f : Cursor, f.Precedes
      (if (f.skip (· == ' ')).peek = some '#' then (f.skip (· == ' ')).skip (!isBreak ·)
        else f.skip (· == ' ')) := by
    intro f
    split
    next => exact (precedes_skip f _).trans (precedes_skip _ _)
    next => exact precedes_skip f _
  refine .checked fun _ => .checked fun _ => .ok ?_
  exact hchomping.trans (hr.trans ((hbehind _).trans ((hcomment _).trans (precedes_next _))))

theorem precedes_blockIndentation (n greatest : Nat) (c : Cursor) :
    c.Precedes (blockIndentation n greatest c).2.2 := by
  induction n generalizing greatest c with
  | zero => exact .refl c
  | succ n ih =>
    rw [blockIndentation]
    split
    next => exact (precedes_next c).trans (ih _ _)
    next =>
      split
      next => exact (precedes_next c).trans (ih _ _)
      next => exact .refl c

theorem precedes_skipIndent (indent : Nat) (c : Cursor) : c.Precedes (c.skipIndent indent) :=
  precedes_advance c _

theorem precedes_blockBreaks (indent n : Nat) (c : Cursor) :
    c.Precedes (blockBreaks indent n c).2 := by
  induction n generalizing c with
  | zero => exact precedes_skipIndent indent c
  | succ n ih =>
    have hskip := precedes_skipIndent indent c
    rw [blockBreaks]
    simp only
    split
    next => exact hskip.trans ((precedes_next _).trans (ih _))
    next => exact hskip

theorem precedes_takeBlockLines (folded : Bool) (chomping : Chomping) (indent n : Nat)
    (breaks : Text) (c : Cursor) :
    c.Precedes (takeBlockLines folded chomping indent n breaks c).2 := by
  induction n generalizing breaks c with
  | zero => exact .refl c
  | succ n ih =>
    rw [takeBlockLines]
    have hline := precedes_take c (!isBreak ·)
    generalize c.take (!isBreak ·) = line at hline ⊢
    have hbreak : line.2.Precedes (if line.2.atBreak then line.2.next else line.2) := by
      split
      next => exact precedes_next line.2
      next => exact .refl line.2
    have hothers := hline.trans (hbreak.trans (precedes_blockBreaks indent line.2.rest.length _))
    simp only
    generalize blockBreaks indent line.2.rest.length _ = others at hothers ⊢
    by_cases hcontinues : atBlockLine indent others.2 = true
    · simp only [hcontinues, if_true]
      exact hothers.trans (ih _ _)
    · simp only [hcontinues, Bool.false_eq_true, if_false]
      exact hothers

/-- A block scalar takes at least its mark. -/
theorem precedes_block (folded : Bool) (indent : Int) (c : Cursor) :
    Yields (c.block folded indent) fun r => c.next.Precedes r.2 := by
  rw [block]
  refine (precedes_takeHeader c.next).bind fun r hr => ?_
  have hlines : ∀ (breaks : Text) (column : Nat) (e : Cursor), r.2.Precedes e →
      Yields (if atBlockLine column e then
          pure (takeBlockLines folded r.1.chomping column (r.2.rest.length + 1) breaks e)
        else pure (if r.1.chomping = .keep then breaks else [], e) : Except ReadError _)
        fun s => c.next.Precedes s.2 := by
    intro breaks column e he
    split
    next => exact .ok (hr.trans (he.trans (precedes_takeBlockLines _ _ _ _ _ _)))
    next => exact .ok (hr.trans he)
  simp only
  split
  next => exact hlines _ _ _ (precedes_blockIndentation _ _ _)
  next => exact hlines _ _ _ (precedes_blockBreaks _ _ _)

end Disassembly.Yaml.Cursor
