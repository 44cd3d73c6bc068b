import Disassembly.Proofs.Text.Run
import Disassembly.Signature.TypeName
import Mathlib.Tactic

/-!
# Type names

A text shows a type name (`TypeName.Fits`) if it is a base name in one line with pairs of square
brackets behind it, up to a line feed at its very end. Reading a type finds the name with the
shortest base, so that all pairs of brackets count as dimensions (`TypeName.ofText_eq_ok_iff`).

Two names of which one extends the other, with more packages or outer classes in front, mean the
same type (`TypeName.score_of_extends`).
-/

set_option autoImplicit false

namespace Disassembly

open Text

namespace TypeName

/-! ## Reading a type -/

/-- The text of a type: its base name and a pair of square brackets for each dimension. -/
def text (name : TypeName) : Text :=
  name.base ++ (List.replicate name.dimensions ['[', ']']).flatten

/-- The text shows the type name: the base name is in one line, and behind the dimensions stands at
most a line feed. -/
structure Fits (name : TypeName) (t : Text) : Prop where
  oneLine : '\n' ∉ name.base
  text : t = name.text ∨ t = name.text ++ ['\n']

variable {name : TypeName} {t : Text}

theorem lineFeed_mem_text_iff : '\n' ∈ name.text ↔ '\n' ∈ name.base := by
  simp [text]

theorem text_splitDimensions (t : Text) : (splitDimensions t).text = t.reverse := by
  fun_induction splitDimensions t with
  | case1 r name ih => simp [text, List.replicate_succ', ← ih, name]
  | case2 t h => simp [text]

/-- Pairs of brackets behind a text are further dimensions. -/
theorem splitDimensions_brackets (t : Text) (n : Nat) :
    splitDimensions (t ++ (List.replicate n ['[', ']']).flatten).reverse =
      ⟨(splitDimensions t.reverse).base, (splitDimensions t.reverse).dimensions + n⟩ := by
  induction n with
  | zero => simp
  | succ n ih =>
    have hreverse : (t ++ (List.replicate (n + 1) ['[', ']']).flatten).reverse =
        ']' :: '[' :: (t ++ (List.replicate n ['[', ']']).flatten).reverse := by
      simp [List.replicate_succ']
    rw [hreverse, splitDimensions, ih]
    rfl

theorem dropFinalBreak_of_notMem (h : '\n' ∉ t) : dropFinalBreak t = t := by
  rw [dropFinalBreak, if_neg]
  intro hlast
  exact h (List.mem_of_getLast? hlast)

theorem dropFinalBreak_append (t : Text) : dropFinalBreak (t ++ ['\n']) = t := by
  simp [dropFinalBreak]

theorem eq_dropFinalBreak (t : Text) : t = dropFinalBreak t ∨ t = dropFinalBreak t ++ ['\n'] := by
  rw [dropFinalBreak]
  split
  next h => exact Or.inr (List.dropLast_append_getLast? '\n' h).symm
  next => exact Or.inl rfl

/-- A name fits a text of one line, the line feed at its end left out, if it is written so. -/
theorem fits_iff : name.Fits t ↔ '\n' ∉ dropFinalBreak t ∧ name.text = dropFinalBreak t := by
  constructor
  · rintro ⟨hline, rfl | rfl⟩
    · have hfeed : '\n' ∉ name.text := fun h => hline (lineFeed_mem_text_iff.1 h)
      rw [dropFinalBreak_of_notMem hfeed]
      exact ⟨hfeed, rfl⟩
    · rw [dropFinalBreak_append]
      exact ⟨fun h => hline (lineFeed_mem_text_iff.1 h), rfl⟩
  · rintro ⟨hfeed, htext⟩
    rw [← htext] at hfeed
    refine ⟨fun h => hfeed (lineFeed_mem_text_iff.2 h), ?_⟩
    rw [htext]
    exact eq_dropFinalBreak t

/-- Names that are written alike and have base names of the same length are the same. -/
theorem eq_of_text_eq {a b : TypeName} (htext : a.text = b.text)
    (hlength : a.base.length = b.base.length) : a = b := by
  obtain ⟨hbase, hpairs⟩ := List.append_inj htext hlength
  have hdimensions := congrArg List.length hpairs
  simp only [List.length_flatten, List.map_replicate, List.sum_replicate] at hdimensions
  cases a
  cases b
  simp_all

/-- A type is read as the fitting name with the shortest base. -/
theorem ofText_eq_ok_iff : ofText t = .ok name ↔
    name.Fits t ∧ ∀ other : TypeName, other.Fits t → name.base.length ≤ other.base.length := by
  have htext : (splitDimensions (dropFinalBreak t).reverse).text = dropFinalBreak t := by
    rw [text_splitDimensions, List.reverse_reverse]
  -- brackets that another name leaves in its base count as dimensions here
  have hshortest : ∀ other : TypeName, other.Fits t →
      (splitDimensions (dropFinalBreak t).reverse).base.length ≤ other.base.length := by
    intro other hother
    have hbase := congrArg List.length (text_splitDimensions other.base.reverse)
    rw [List.reverse_reverse, text, List.length_append] at hbase
    rw [← (fits_iff.1 hother).2, text, splitDimensions_brackets]
    simp only
    omega
  constructor
  · intro h
    rw [ofText] at h
    split at h
    next => cases h
    next hline =>
      obtain rfl := Except.ok.inj h
      exact ⟨fits_iff.2 ⟨hline, htext⟩, hshortest⟩
  · rintro ⟨hfits, hleast⟩
    obtain ⟨hline, hname⟩ := fits_iff.1 hfits
    have hlength := Nat.le_antisymm (hleast _ (fits_iff.2 ⟨hline, htext⟩)) (hshortest name hfits)
    rw [ofText, if_neg hline, eq_of_text_eq (hname.trans htext.symm) hlength]

example : ofText "int\n[]".toList = .error ⟨"int\n[]".toList⟩ := rfl

theorem ofText_eq {t : Text} (h : '\n' ∉ t) : ofText t = .ok (splitDimensions t.reverse) := by
  have hlast : t.getLast? ≠ some '\n' := fun hl => h (List.mem_of_getLast? hl)
  rw [ofText, dropFinalBreak, if_neg hlast, if_neg h]

/-! ## Comparing type names -/

theorem conflict_self (base : Text) : conflict base base = false := by
  simp [conflict]

theorem score_self (a : TypeName) : a.score a = exactScore := by
  simp [score, conflict_self]

/-- The first name is the second one with more packages or outer classes in front, however their
parts are joined. -/
def Extends (longer shorter : Text) : Prop :=
  '.' :: withDots shorter <:+ '.' :: withDots longer

/-- Two names conflict if both have a dot and neither extends the other. -/
theorem conflict_eq_true_iff {a b : Text} :
    conflict a b = true ↔ ('.' ∈ a ∧ '.' ∈ b) ∧ ¬Extends a b ∧ ¬Extends b a := by
  have hextends : ∀ x y : Text, Extends x y ↔
      withDots x = withDots y ∨ continues (withDots x) (withDots y) = true := by
    intro x y
    rw [Extends, List.suffix_cons_iff, List.cons_inj_right, continues,
      List.isSuffixOf_iff_suffix, eq_comm]
  rw [hextends, hextends, conflict]
  simp only [Bool.and_eq_true, List.contains_iff_mem, bne_iff_ne, Bool.not_eq_true']
  grind

theorem simpleName_withDots (base : Text) : simpleName (withDots base) = simpleName base := by
  -- a joint is still a joint, and there is none in the last part
  have hjoint : ((fun c => !isJoint c) ∘ fun c => if c = '$' then '.' else c) =
      fun c => !isJoint c := by
    funext c
    by_cases hc : c = '$' <;> simp [isJoint, hc]
  have hsame : ∀ c ∈ base.reverse.takeWhile (fun c => !isJoint c),
      (if c = '$' then '.' else c) = c := by
    intro c hc
    rw [if_neg]
    rintro rfl
    exact absurd (List.mem_takeWhile_imp hc) (by decide)
  rw [simpleName, simpleName, takeWhileEnd, takeWhileEnd, withDots, ← List.map_reverse,
    List.takeWhile_map, hjoint, List.map_congr_left hsame, List.map_id']

namespace Extends

variable {longer shorter : Text} (h : Extends longer shorter)
include h

/-- What is in front of a name does not matter for its last part. -/
theorem simpleName_eq : simpleName longer = simpleName shorter := by
  obtain ⟨front, hfront⟩ := h
  have hdot : ∀ x : Text, simpleName ('.' :: x) = simpleName x :=
    takeWhileEnd_append_cons (by decide) []
  calc simpleName longer
      _ = simpleName ('.' :: withDots longer) := by rw [hdot, simpleName_withDots]
      _ = simpleName (front ++ '.' :: withDots shorter) := by rw [hfront]
      _ = simpleName (withDots shorter) := takeWhileEnd_append_cons (by decide) front _
      _ = simpleName shorter := simpleName_withDots shorter

theorem conflict_eq_false : conflict longer shorter = false ∧ conflict shorter longer = false := by
  constructor
  · exact Bool.eq_false_iff.2 fun hconflict => (conflict_eq_true_iff.1 hconflict).2.1 h
  · exact Bool.eq_false_iff.2 fun hconflict => (conflict_eq_true_iff.1 hconflict).2.2 h

end Extends

/-- Two names of which one extends the other mean the same type. -/
theorem score_of_extends {a b : TypeName} (hdimensions : a.dimensions = b.dimensions)
    (h : Extends a.base b.base ∨ Extends b.base a.base) : a.score b = exactScore := by
  have hagree : conflict a.base b.base = false ∧ simpleName a.base = simpleName b.base := by
    rcases h with h | h
    · exact ⟨h.conflict_eq_false.1, h.simpleName_eq⟩
    · exact ⟨h.conflict_eq_false.2, h.simpleName_eq.symm⟩
  simp [score, hdimensions, hagree]

end TypeName

/-- The score of two texts that no line ends in is that of their type names. -/
theorem typeScore_eq {a b : Text} (ha : '\n' ∉ a) (hb : '\n' ∉ b) : typeScore a b =
    .ok ((TypeName.splitDimensions a.reverse).score (TypeName.splitDimensions b.reverse)) := by
  rw [typeScore, TypeName.ofText_eq ha, TypeName.ofText_eq hb]
  rfl

theorem exists_typeScore {a b : Text} (ha : '\n' ∉ a) (hb : '\n' ∉ b) :
    ∃ n, typeScore a b = .ok n :=
  ⟨_, typeScore_eq ha hb⟩

theorem typeScore_self {a : Text} (ha : '\n' ∉ a) : typeScore a a = .ok TypeName.exactScore := by
  rw [typeScore_eq ha ha, TypeName.score_self]

end Disassembly
