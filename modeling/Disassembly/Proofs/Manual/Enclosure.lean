import Disassembly.Manual.Section
import Disassembly.Proofs.Text.Place
import Mathlib.Tactic

/-!
# What stands between two marks

An enclosure of a text is a way to write the text around an opening and a closing mark
(`Enclosure`). The search for what stands between the two marks fails if and only if there is no
enclosure, and otherwise it finds the inner part of the first one: of all enclosures the one with
the least in front of its opening mark, and of those with the same front the one with the shortest
inner part (`between?_spec`).

The search looks at the first place of the opening mark only. That is enough because what a closing
mark behind a later place closes, it closes for the first place as well
(`Enclosure.isSuffix_of_cut?`); the marks may overlap, and either of them may be empty.
-/

set_option autoImplicit false

namespace Disassembly.Manual

open Text

/-! ## Enclosures -/

/-- A way to write a text around an opening and a closing mark. -/
structure Enclosure (opening closing t : Text) where
  before : Text
  inner : Text
  behind : Text
  text_eq : before ++ (opening ++ (inner ++ (closing ++ behind))) = t

namespace Enclosure

variable {opening closing t : Text}

/-- No other enclosure has less in front of its opening mark, and none with the same in front of it
has a shorter inner part. -/
structure IsFirst (e : Enclosure opening closing t) : Prop where
  before_le : ∀ other : Enclosure opening closing t, e.before.length ≤ other.before.length
  inner_le : ∀ other : Enclosure opening closing t, other.before = e.before →
    e.inner.length ≤ other.inner.length

/-- First enclosures have the same inner part. -/
theorem IsFirst.inner_eq {e e' : Enclosure opening closing t} (h : e.IsFirst) (h' : e'.IsFirst) :
    e.inner = e'.inner := by
  have hlength := Nat.le_antisymm (h.before_le e') (h'.before_le e)
  have htext := e.text_eq.trans e'.text_eq.symm
  obtain ⟨hbefore, hrest⟩ := List.append_inj htext hlength
  have hinner := Nat.le_antisymm (h.inner_le e' hbefore.symm) (h'.inner_le e hbefore)
  exact (List.append_inj (List.append_cancel_left hrest) hinner).1

/-- What stands behind the opening mark of an enclosure. -/
theorem drop_eq (e : Enclosure opening closing t) :
    t.drop (e.before ++ opening).length = e.inner ++ (closing ++ e.behind) := by
  have htext := e.text_eq.symm
  rw [← List.append_assoc] at htext
  exact (congrArg (List.drop _) htext).trans List.drop_left

variable {before rest : Text} (hcut : cut? opening t = some (before, rest))
include hcut

/-- What stands behind the opening mark of an enclosure ends what stands behind the first opening
mark. -/
theorem isSuffix_of_cut? (e : Enclosure opening closing t) :
    e.inner ++ (closing ++ e.behind) <:+ rest := by
  have hrest : t.drop (before ++ opening).length = rest := by
    rw [(cut?_eq_some_iff.1 hcut).1, ← List.append_assoc, List.drop_left]
  have hle : (before ++ opening).length ≤ (e.before ++ opening).length := by
    have hbefore := length_le_of_cut? hcut e.text_eq
    simp only [List.length_append]
    omega
  rw [← hrest, ← e.drop_eq]
  exact List.drop_suffix_drop_left t hle

/-- If the text is cut at the opening mark, and what follows at the closing mark, then the inner
part of the first enclosure stands between the two cuts. -/
theorem exists_isFirst {inner behind : Text} (hrest : cut? closing rest = some (inner, behind)) :
    ∃ e : Enclosure opening closing t, e.IsFirst ∧ e.inner = inner := by
  obtain ⟨htext, -⟩ := cut?_eq_some_iff.1 hcut
  obtain ⟨hclosed, -⟩ := cut?_eq_some_iff.1 hrest
  refine ⟨⟨before, inner, behind, by rw [htext, hclosed]⟩, ⟨fun e => ?_, fun e he => ?_⟩, rfl⟩
  · exact length_le_of_cut? hcut e.text_eq
  · -- with the same front, the other enclosure has the same rest, in which the cut is the first
    have hwhole := e.text_eq.trans htext
    rw [show e.before = before from he] at hwhole
    exact length_le_of_cut? hrest (List.append_cancel_left (List.append_cancel_left hwhole))

end Enclosure

/-- Either there is no enclosure and nothing is found, or the inner part of the first enclosure is
found. -/
theorem between?_cases (opening closing t : Text) :
    (between? opening closing t = none ∧ IsEmpty (Enclosure opening closing t)) ∨
      ∃ e : Enclosure opening closing t, e.IsFirst ∧ between? opening closing t = some e.inner := by
  rw [between?]
  cases hcut : cut? opening t with
  | none =>
    refine Or.inl ⟨rfl, ⟨fun e => cut?_eq_none_iff.1 hcut ?_⟩⟩
    exact ⟨e.before, e.inner ++ (closing ++ e.behind), by rw [List.append_assoc, e.text_eq]⟩
  | some outer =>
    obtain ⟨before, rest⟩ := outer
    rw [Option.bind_some]
    cases hrest : cut? closing rest with
    | none =>
      -- a closing mark behind any place of the opening mark stands behind the first one too
      refine Or.inl ⟨rfl, ⟨fun e => cut?_eq_none_iff.1 hrest ?_⟩⟩
      have hinfix : closing <:+: e.inner ++ (closing ++ e.behind) :=
        ⟨e.inner, e.behind, List.append_assoc ..⟩
      exact hinfix.trans (e.isSuffix_of_cut? hcut).isInfix
    | some pair =>
      obtain ⟨e, hfirst, hinner⟩ := Enclosure.exists_isFirst hcut hrest
      exact Or.inr ⟨e, hfirst, by rw [Option.map_some, hinner]⟩

section Search

variable {opening closing t : Text}

theorem nonempty_enclosure_iff :
    Nonempty (Enclosure opening closing t) ↔
      ∃ before inner behind, t = before ++ opening ++ inner ++ closing ++ behind := by
  constructor
  · rintro ⟨e⟩
    exact ⟨e.before, e.inner, e.behind, by simp only [List.append_assoc, e.text_eq]⟩
  · rintro ⟨before, inner, behind, rfl⟩
    exact ⟨before, inner, behind, by simp only [List.append_assoc]⟩

theorem between?_eq_none_iff :
    between? opening closing t = none ↔ ¬ Nonempty (Enclosure opening closing t) := by
  rw [not_nonempty_iff]
  rcases between?_cases opening closing t with ⟨hnone, hempty⟩ | ⟨e, -, hsome⟩
  · exact iff_of_true hnone hempty
  · refine iff_of_false ?_ fun hempty => hempty.false e
    rw [hsome]
    exact Option.some_ne_none e.inner

theorem between?_eq_some_iff {r : Text} :
    between? opening closing t = some r ↔
      ∃ e : Enclosure opening closing t, e.IsFirst ∧ e.inner = r := by
  constructor
  · intro h
    rcases between?_cases opening closing t with ⟨hnone, -⟩ | ⟨e, hfirst, hsome⟩
    · cases hnone.symm.trans h
    · exact ⟨e, hfirst, Option.some.inj (hsome.symm.trans h)⟩
  · rintro ⟨e, hfirst, rfl⟩
    rcases between?_cases opening closing t with ⟨-, hempty⟩ | ⟨found, hfound, hsome⟩
    · exact (hempty.false e).elim
    · rw [hsome, hfound.inner_eq hfirst]

end Search

/-- Nothing is found between two marks if and only if the text cannot be written around them, and
what is found is the inner part of the first way to write it so. -/
theorem between?_spec (opening closing t : Text) :
    (between? opening closing t = none ↔
        ¬ ∃ before inner behind, t = before ++ opening ++ inner ++ closing ++ behind) ∧
      ∀ r, between? opening closing t = some r ↔
        ∃ e : Enclosure opening closing t, e.IsFirst ∧ e.inner = r :=
  ⟨between?_eq_none_iff.trans (not_congr nonempty_enclosure_iff), fun _ => between?_eq_some_iff⟩

/-- An opening mark that begins inside another one does not count, and empty marks are found at
once. -/
example : between? "aa".toList "b".toList "caaabab".toList = some ['a'] ∧
    between? [] [] "ab".toList = some [] := by
  decide +kernel

end Disassembly.Manual
