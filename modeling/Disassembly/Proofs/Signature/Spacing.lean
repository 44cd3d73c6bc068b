import Disassembly.Proofs.Text.Character
import Disassembly.Proofs.Text.RunMap
import Disassembly.Signature.Canonical
import Mathlib.Tactic

/-!
# The spacing of canonical texts

The three patterns that settle the spacing of a signature see only blank characters, parentheses,
commas and square brackets (`within_spacedPunctuation`, `within_spacedBrackets`). A canonical text
has no blank characters but spaces (`mem_respace`).
-/

set_option autoImplicit false

namespace Disassembly.Signature

open Text

/-! ## Parentheses and commas -/

/-- A parenthesis or comma. -/
def isPunctuation (c : Char) : Bool :=
  c == '(' || c == ')' || c == ','

/-- A character that the spacing around parentheses and commas is about. -/
def isPunctuationOrBlank (c : Char) : Bool :=
  isBlank c || isPunctuation c

theorem isPunctuation_iff {c : Char} : isPunctuation c = true ↔ c = '(' ∨ c = ')' ∨ c = ',' := by
  simp [isPunctuation, or_assoc]

theorem not_isBlank_of_isPunctuation {c : Char} (h : isPunctuation c = true) :
    isBlank c = false := by
  rcases isPunctuation_iff.1 h with rfl | rfl | rfl <;> decide

theorem forward_spacedPunctuation : spacedPunctuation.Forward :=
  fun _ _ => rfl

theorem spacedPunctuation_eq (before : Option Char) (t : Text) :
    spacedPunctuation before t =
      match t.dropWhile isBlank with
      | c :: r =>
        if isPunctuation c then
          some ⟨(t.takeWhile isBlank).length + (r.takeWhile isBlank).length, [c]⟩
        else none
      | [] => none := by
  simp only [spacedPunctuation]
  cases t.dropWhile isBlank with
  | nil => rfl
  | cons c r =>
    by_cases h : isPunctuation c = true
    · exact (if_pos (isPunctuation_iff.1 h)).trans (if_pos h).symm
    · exact (if_neg fun hc => h (isPunctuation_iff.2 hc)).trans (if_neg h).symm

/-- What the spacing around a parenthesis or comma comes to. -/
theorem spacedPunctuation_eq_some {before : Option Char} {t : Text} {m : Match}
    (h : spacedPunctuation before t = some m) :
    ∃ c r, t.dropWhile isBlank = c :: r ∧ isPunctuation c = true ∧
      m = ⟨(t.takeWhile isBlank).length + (r.takeWhile isBlank).length, [c]⟩ := by
  rw [spacedPunctuation_eq] at h
  split at h
  next c r hdrop =>
    split at h
    next hc => exact ⟨c, r, hdrop, hc, (Option.some.inj h).symm⟩
    next => cases h
  next => cases h

theorem within_spacedPunctuation : spacedPunctuation.Within isPunctuationOrBlank := by
  have hblank : ∀ c, isBlank c = true → isPunctuationOrBlank c = true := by
    intro c hc
    rw [isPunctuationOrBlank, hc, Bool.true_or]
  refine ⟨fun before t => ?_, fun before t m hm => ?_, fun c t _ => rfl⟩
  · rw [spacedPunctuation_eq, spacedPunctuation_eq, takeWhile_takeWhile_of_imp hblank,
      dropWhile_takeWhile_of_imp hblank]
    cases t.dropWhile isBlank with
    | nil => rfl
    | cons c r =>
      by_cases hc : isPunctuation c = true
      · rw [List.takeWhile_cons_of_pos (by simp [isPunctuationOrBlank, hc])]
        simp only [takeWhile_takeWhile_of_imp hblank]
      · simp only [hc, Bool.false_eq_true, if_false]
        by_cases hb : isPunctuationOrBlank c = true
        · rw [List.takeWhile_cons_of_pos hb]
          simp only [hc, Bool.false_eq_true, if_false]
        · rw [List.takeWhile_cons_of_neg hb]
  · obtain ⟨c, r, hdrop, hc, rfl⟩ := spacedPunctuation_eq_some hm
    rw [takeWhile_eq_append hblank, hdrop,
      List.takeWhile_cons_of_pos (by simp [isPunctuationOrBlank, hc]), takeWhile_eq_append hblank r]
    simp only [List.length_append, List.length_cons]
    omega

/-! ## Square brackets -/

/-- A square bracket. -/
def isBracket (c : Char) : Bool :=
  c == '[' || c == ']'

/-- A character that the spacing of square brackets is about. -/
def isBracketOrBlank (c : Char) : Bool :=
  isBlank c || isBracket c

theorem forward_spacedBrackets : spacedBrackets.Forward :=
  fun _ _ => rfl

/-- Where a pair of square brackets stands. -/
theorem spacedBrackets_eq_some_iff {before : Option Char} {t : Text} {m : Match} :
    spacedBrackets before t = some m ↔ ∃ r s, t.dropWhile isBlank = '[' :: r ∧
      r.dropWhile isBlank = ']' :: s ∧
      m = ⟨(t.takeWhile isBlank).length + (r.takeWhile isBlank).length + 1, ['[', ']']⟩ := by
  constructor
  · intro h
    rw [spacedBrackets] at h
    split at h
    next r hdrop =>
      split at h
      next s hdrop' => exact ⟨r, s, hdrop, hdrop', (Option.some.inj h).symm⟩
      next => cases h
    next => cases h
  · rintro ⟨r, s, hdrop, hdrop', rfl⟩
    simp only [spacedBrackets, hdrop, hdrop']

theorem within_spacedBrackets : spacedBrackets.Within isBracketOrBlank := by
  have hblank : ∀ c, isBlank c = true → isBracketOrBlank c = true := by
    intro c hc
    rw [isBracketOrBlank, hc, Bool.true_or]
  have hopen : isBracketOrBlank '[' = true := by decide
  have hclose : isBracketOrBlank ']' = true := by decide
  refine ⟨fun before t => Option.ext fun m => ?_, fun before t m hm => ?_, fun c t _ => rfl⟩
  · rw [spacedBrackets_eq_some_iff, spacedBrackets_eq_some_iff,
      takeWhile_takeWhile_of_imp hblank, dropWhile_takeWhile_of_imp hblank]
    constructor
    · rintro ⟨r, s, hr, hs, rfl⟩
      refine ⟨r.takeWhile isBracketOrBlank, s.takeWhile isBracketOrBlank,
        (takeWhile_eq_cons_iff hopen).2 ⟨r, hr, rfl⟩, ?_, ?_⟩
      · rw [dropWhile_takeWhile_of_imp hblank]
        exact (takeWhile_eq_cons_iff hclose).2 ⟨s, hs, rfl⟩
      · rw [takeWhile_takeWhile_of_imp hblank]
    · rintro ⟨r, s, hr, hs, rfl⟩
      obtain ⟨inner, hinner, rfl⟩ := (takeWhile_eq_cons_iff hopen).1 hr
      rw [dropWhile_takeWhile_of_imp hblank] at hs
      obtain ⟨behind, hbehind, rfl⟩ := (takeWhile_eq_cons_iff hclose).1 hs
      exact ⟨inner, behind, hinner, hbehind, by rw [takeWhile_takeWhile_of_imp hblank]⟩
  · obtain ⟨r, s, hr, hs, rfl⟩ := spacedBrackets_eq_some_iff.1 hm
    rw [takeWhile_eq_append hblank, hr, List.takeWhile_cons_of_pos hopen,
      takeWhile_eq_append hblank r, hs, List.takeWhile_cons_of_pos hclose]
    simp only [List.length_append, List.length_cons]
    omega

/-! ## The characters of a canonical text -/

theorem mem_collapse {c : Char} {t : Text} (h : c ∈ collapse t) :
    c = ' ' ∨ (c ∈ t ∧ isBlank c = false) := by
  rcases mem_intercalate h with h | ⟨w, hw, hc⟩
  · exact Or.inl (List.mem_singleton.1 h)
  · exact Or.inr ((mem_words hw).2 c hc)

/-- A canonical text has no blank characters but spaces. -/
theorem isBlank_of_mem_respace {c : Char} {t : Text} (h : c ∈ respace t) (hc : isBlank c = true) :
    c = ' ' := by
  have hprinted : ∀ {p : Pattern} {u : Text}, (∀ last v m, p last v = some m →
      ∀ d ∈ m.written, isBlank d = true → d = ' ') → c ∈ substitute p u → c ≠ ' ' → c ∈ u := by
    intro p u hp hmem hne
    rcases mem_substitute hmem with hmem | ⟨last, v, m, -, hm, hmem⟩
    · exact hmem
    · exact absurd (hp last v m hm c hmem hc) hne
  by_contra hne
  -- each of the three passes writes no blank characters but spaces
  have htight := hprinted (fun last v m hm d hd hb => ?_) h hne
  have hpunct := hprinted (fun last v m hm d hd hb => ?_) htight hne
  have hcollapse := hprinted (fun last v m hm d hd hb => ?_) hpunct hne
  · rcases mem_collapse hcollapse with hspace | ⟨-, hblank⟩
    · exact hne hspace
    · rw [hc] at hblank
      cases hblank
  · obtain ⟨e, r, -, he, rfl⟩ := spacedPunctuation_eq_some hm
    obtain rfl := List.mem_singleton.1 hd
    rw [not_isBlank_of_isPunctuation he] at hb
    cases hb
  · obtain ⟨r, s, -, -, rfl⟩ := spacedBrackets_eq_some_iff.1 hm
    simp only [List.mem_cons, List.not_mem_nil, or_false] at hd
    rcases hd with rfl | rfl <;> revert hb <;> decide
  · rw [written_fixed hm] at hd
    simp only [List.mem_cons, List.not_mem_nil, or_false] at hd
    rcases hd with rfl | rfl <;> revert hb <;> decide

end Disassembly.Signature
