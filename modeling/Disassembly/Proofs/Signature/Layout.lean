import Disassembly.Proofs.Signature.Spacing
import Disassembly.Proofs.Text.Replacement
import Mathlib.Tactic

/-!
# Canonical spacing from left to right

`respace` is made of several passes over a text. Here it is described as one pass from left to
right: `respace` itself is the spacing of a text at the start or behind a parenthesis or comma, and
`respaceAfter` that of a text behind a word. The rules of this module say how each of them starts,
by what the text starts with: a solid character, a gap and a solid character, a parenthesis or
comma, a pair of square brackets.
-/

set_option autoImplicit false

namespace Disassembly.Signature

open Text

/-! ## Single spaces from left to right -/

/-- The space that is left between a word and what follows it. -/
def gapBefore (t : Text) : Text :=
  if t.head?.any isBlank && !(words t).isEmpty then [' '] else []

theorem isBlank_of_mem_gapBefore {t : Text} {c : Char} (h : c ∈ gapBefore t) :
    isBlank c = true := by
  rw [gapBefore] at h
  split at h
  next =>
    rw [List.mem_singleton.1 h]
    decide
  next => exact absurd h List.not_mem_nil

theorem words_cons_cons {c d : Char} (hc : isBlank c = false) (hd : isBlank d = false) (r : Text) :
    ∃ w ws, words (d :: r) = w :: ws ∧ words (c :: d :: r) = (c :: w) :: ws := by
  obtain ⟨first, others, hsplit⟩ := List.exists_cons_of_ne_nil (List.splitOnP_ne_nil isBlank r)
  have hone : (d :: r).splitOnP isBlank = (d :: first) :: others := by
    rw [List.splitOnP_cons_eq_if_modifyHead, if_neg (by simp [hd]), hsplit]
    rfl
  have htwo : (c :: d :: r).splitOnP isBlank = (c :: d :: first) :: others := by
    rw [List.splitOnP_cons_eq_if_modifyHead, if_neg (by simp [hc]), hone]
    rfl
  refine ⟨d :: first, others.filter (!·.isEmpty), ?_, ?_⟩
  · rw [words, hone]
    rfl
  · rw [words, htwo]
    rfl

theorem collapse_cons_blank {c : Char} (hc : isBlank c = true) (t : Text) :
    collapse (c :: t) = collapse t := by
  rw [collapse, words_cons_blank hc, ← collapse]

theorem collapse_blank_append {m : Text} (hm : ∀ c ∈ m, isBlank c = true) (t : Text) :
    collapse (m ++ t) = collapse t := by
  rw [collapse, words_blank_append hm, ← collapse]

/-- A character of a word is followed by the space behind it, if there is one, and the rest. -/
theorem collapse_cons {c : Char} (hc : isBlank c = false) (t : Text) :
    collapse (c :: t) = c :: (gapBefore t ++ collapse t) := by
  cases t with
  | nil =>
    rw [collapse, words_eq_singleton (List.cons_ne_nil c []) (by simpa using hc)]
    rfl
  | cons d r =>
    -- the character ends its word, or the next one belongs to the same word
    by_cases hd : isBlank d = true
    · have hsplit : words (c :: d :: r) = [c] :: words r := by
        have hsingle := words_eq_singleton (List.cons_ne_nil c []) (by simpa using hc)
        rw [show c :: d :: r = [c] ++ d :: r from rfl, words_append_cons hd, hsingle]
        rfl
      rw [collapse_cons_blank hd, collapse, collapse, hsplit, gapBefore, words_cons_blank hd]
      cases words r with
      | nil => simp
      | cons w ws => simp [hd, List.intercalate_cons_cons]
    · obtain ⟨w, ws, hone, htwo⟩ := words_cons_cons hc (Bool.eq_false_iff.2 hd) r
      have hgap : gapBefore (d :: r) = [] := by simp [gapBefore, hd]
      rw [hgap, collapse, collapse, hone, htwo]
      cases ws with
      | nil => simp
      | cons v vs => simp [List.intercalate_cons_cons]

theorem head?_collapse (t : Text) : ∀ c ∈ (collapse t).head?, isBlank c = false := by
  induction t with
  | nil =>
    intro c hc
    cases hc
  | cons d t ih =>
    by_cases hd : isBlank d = true
    · rw [collapse_cons_blank hd]
      exact ih
    · rw [collapse_cons (Bool.eq_false_iff.2 hd)]
      rintro c ⟨⟩
      exact Bool.eq_false_iff.2 hd

theorem collapse_ne_nil {c : Char} (hc : isBlank c = false) (t : Text) :
    collapse (c :: t) ≠ [] := by
  rw [collapse_cons hc]
  exact List.cons_ne_nil _ _

/-- In front of a word, a gap is one space. -/
theorem gapBefore_gap {m : Text} (hne : m ≠ []) (hm : ∀ c ∈ m, isBlank c = true) {c : Char}
    (hc : isBlank c = false) (t : Text) : gapBefore (m ++ c :: t) = [' '] := by
  have hwords : words (m ++ c :: t) ≠ [] := by
    intro hnil
    apply collapse_ne_nil hc t
    rw [← collapse_blank_append hm, collapse, hnil]
    rfl
  cases m with
  | nil => exact absurd rfl hne
  | cons d m =>
    have hd := hm d List.mem_cons_self
    rw [List.cons_append] at hwords ⊢
    simp [gapBefore, hd, hwords]

theorem gapBefore_cons {c : Char} (hc : isBlank c = false) (t : Text) :
    gapBefore (c :: t) = [] := by
  simp [gapBefore, hc]

/-! ## Parentheses, commas and brackets -/

/-- A character that no rule of spacing is about. -/
def isSolid (c : Char) : Bool :=
  !isBlank c && !isPunctuation c && !isBracket c

theorem isSolid_iff {c : Char} :
    isSolid c = true ↔ isBlank c = false ∧ isPunctuation c = false ∧ isBracket c = false := by
  simp [isSolid, and_assoc]

/-- The spacing around parentheses, commas and square brackets, where there are no other blank
characters than single spaces. -/
def settle (t : Text) : Text :=
  replace [','] [',', ' '] (substitute spacedBrackets (substitute spacedPunctuation t))

theorem respace_eq (t : Text) : respace t = settle (collapse t) := rfl

/-- How a parenthesis or comma is written in a canonical text. -/
def punctuation (c : Char) : Text :=
  if c = ',' then [',', ' '] else [c]

section Settle

variable {s s' : Text} (hs : ∀ c ∈ s, isBlank c = true) (hs' : ∀ c ∈ s', isBlank c = true)

include hs

theorem spacedPunctuation_append {c : Char} (hc : isBlank c = false) (hp : isPunctuation c = false)
    (t : Text) :
    substitute spacedPunctuation (s ++ c :: t) = s ++ c :: substitute spacedPunctuation t := by
  rw [within_spacedPunctuation.substitute_append_cons (by simp [isPunctuationOrBlank, hc, hp]),
    forward_spacedPunctuation.substitute_eq_self (fun u hu => ?_) hs]
  rw [spacedPunctuation_eq, List.dropWhile_eq_nil_iff.2 hu]

theorem spacedBrackets_append {c : Char} (hc : isBlank c = false) (hb : isBracket c = false)
    (t : Text) :
    substitute spacedBrackets (s ++ c :: t) = s ++ c :: substitute spacedBrackets t := by
  rw [within_spacedBrackets.substitute_append_cons (by simp [isBracketOrBlank, hc, hb]),
    forward_spacedBrackets.substitute_eq_self (fun u hu => ?_) hs]
  rw [spacedBrackets, List.dropWhile_eq_nil_iff.2 hu]

theorem settle_solid {c : Char} (hc : isSolid c = true) (t : Text) :
    settle (s ++ c :: t) = s ++ c :: settle t := by
  obtain ⟨hblank, hpunctuation, hbracket⟩ := isSolid_iff.1 hc
  have hcomma : ',' ∉ s ++ [c] := by
    intro hmem
    rcases List.mem_append.1 hmem with hmem | hmem
    · exact absurd (hs ',' hmem) (by decide)
    · rw [← List.mem_singleton.1 hmem] at hpunctuation
      exact absurd hpunctuation (by decide)
  have hkept : Rewrites [','] [',', ' '] (s ++ [c]) (s ++ [c]) := rewrites_self_of_head rfl hcomma
  have hassoc : ∀ u : Text, s ++ c :: u = s ++ [c] ++ u := fun u => by simp
  rw [settle, spacedPunctuation_append hs hblank hpunctuation,
    spacedBrackets_append hs hblank hbracket, hassoc, hkept, ← hassoc, ← settle]

include hs'

theorem settle_punctuation {c : Char} (hc : isPunctuation c = true) {t : Text}
    (ht : ∀ d ∈ t.head?, isBlank d = false) :
    settle (s ++ c :: (s' ++ t)) = punctuation c ++ settle t := by
  have hblank := not_isBlank_of_isPunctuation hc
  have hbracket : isBracket c = false := by
    rcases isPunctuation_iff.1 hc with rfl | rfl | rfl <;> decide
  -- the first pass takes the blank characters on both sides
  have hmatch : substitute spacedPunctuation (s ++ c :: s' ++ t) =
      [c] ++ substitute spacedPunctuation t := by
    apply forward_spacedPunctuation.substitute_match (by simp)
    have hhead : ∀ d ∈ (c :: (s' ++ t)).head?, isBlank d = false := by
      rintro d ⟨⟩
      exact hblank
    rw [spacedPunctuation_eq, List.append_assoc, List.cons_append, dropWhile_run hs hhead,
      takeWhile_run hs hhead]
    simp [hc, takeWhile_run hs' ht]
  have happend : s ++ c :: (s' ++ t) = s ++ c :: s' ++ t := by simp
  rw [settle, happend, hmatch, List.singleton_append,
    show c :: substitute spacedPunctuation t = [] ++ c :: substitute spacedPunctuation t from rfl,
    spacedBrackets_append (by simp) hblank hbracket, List.nil_append, punctuation]
  -- the last pass writes a space behind a comma
  by_cases hcomma : c = ','
  · have hwritten : Rewrites [','] [',', ' '] [','] [',', ' '] := rewrites_old (by decide)
    rw [hcomma, if_pos rfl]
    exact hwritten _
  · have hkept : Rewrites [','] [',', ' '] [c] [c] :=
      rewrites_self_of_head rfl (by simpa using Ne.symm hcomma)
    rw [if_neg hcomma]
    exact hkept _

theorem settle_brackets (t : Text) :
    settle (s ++ '[' :: (s' ++ ']' :: t)) = '[' :: ']' :: settle t := by
  -- the first pass keeps the blank characters, and the second one takes them
  have hmatch : ∀ u, substitute spacedBrackets (s ++ '[' :: (s' ++ [']']) ++ u) =
      ['[', ']'] ++ substitute spacedBrackets u := by
    intro u
    apply forward_spacedBrackets.substitute_match (by simp)
    have hopen : ∀ d ∈ ('[' :: (s' ++ ']' :: u)).head?, isBlank d = false := by
      rintro d ⟨⟩
      decide
    have hclose : ∀ d ∈ (']' :: u).head?, isBlank d = false := by
      rintro d ⟨⟩
      decide
    have happend : s ++ '[' :: (s' ++ [']']) ++ u = s ++ '[' :: (s' ++ ']' :: u) := by simp
    rw [happend, spacedBrackets_eq_some_iff]
    refine ⟨s' ++ ']' :: u, u, dropWhile_run hs hopen, dropWhile_run hs' hclose, ?_⟩
    rw [takeWhile_run hs hopen, takeWhile_run hs' hclose]
    simp
    omega
  have hkept : Rewrites [','] [',', ' '] ['[', ']'] ['[', ']'] :=
    rewrites_self_of_head rfl (by decide)
  have happend : ∀ u : Text, s ++ '[' :: (s' ++ ']' :: u) = s ++ '[' :: (s' ++ [']']) ++ u := by
    simp
  rw [settle, spacedPunctuation_append hs (by decide) (by decide),
    spacedPunctuation_append hs' (by decide) (by decide), happend, hmatch]
  exact hkept _

end Settle

/-! ## Canonical spacing -/

/-- The canonical spacing of what follows a word. -/
def respaceAfter (t : Text) : Text :=
  settle (gapBefore t ++ collapse t)

section Rules

variable {m : Text} (hm : ∀ c ∈ m, isBlank c = true)
include hm

/-- Blank characters at the start, or behind a parenthesis or comma, go. -/
theorem respace_blank_append (t : Text) : respace (m ++ t) = respace t := by
  rw [respace_eq, collapse_blank_append hm, ← respace_eq]

theorem respace_blank : respace m = [] := by
  have h := respace_blank_append hm []
  rwa [List.append_nil] at h

/-- In front of a solid character, a gap behind a word is one space. -/
theorem respaceAfter_gap (hne : m ≠ []) {c : Char} (hc : isSolid c = true) (t : Text) :
    respaceAfter (m ++ c :: t) = ' ' :: c :: respaceAfter t := by
  have hblank := (isSolid_iff.1 hc).1
  rw [respaceAfter, gapBefore_gap hne hm hblank, collapse_blank_append hm, collapse_cons hblank,
    settle_solid (by decide) hc]
  rfl

theorem respaceAfter_punctuation {c : Char} (hc : isPunctuation c = true) (t : Text) :
    respaceAfter (m ++ c :: t) = punctuation c ++ respace t := by
  rw [respaceAfter, collapse_blank_append hm, collapse_cons (not_isBlank_of_isPunctuation hc),
    settle_punctuation (fun d => isBlank_of_mem_gapBefore) (fun d => isBlank_of_mem_gapBefore) hc
      (head?_collapse t)]
  rfl

theorem respace_punctuation {c : Char} (hc : isPunctuation c = true) (t : Text) :
    respace (m ++ c :: t) = punctuation c ++ respace t := by
  rw [respace_blank_append hm, respace_eq, collapse_cons (not_isBlank_of_isPunctuation hc)]
  exact settle_punctuation (s := []) (by simp) (fun d => isBlank_of_mem_gapBefore) hc
    (head?_collapse t)

theorem respaceAfter_brackets {m' : Text} (hm' : ∀ c ∈ m', isBlank c = true) (t : Text) :
    respaceAfter (m ++ '[' :: (m' ++ ']' :: t)) = '[' :: ']' :: respaceAfter t := by
  rw [respaceAfter, collapse_blank_append hm, collapse_cons (by decide), collapse_blank_append hm',
    collapse_cons (by decide), settle_brackets (fun d => isBlank_of_mem_gapBefore)
      (fun d => isBlank_of_mem_gapBefore)]
  rfl

end Rules

theorem respace_cons {c : Char} (hc : isSolid c = true) (t : Text) :
    respace (c :: t) = c :: respaceAfter t := by
  rw [respace_eq, collapse_cons (isSolid_iff.1 hc).1]
  exact settle_solid (s := []) (by simp) hc _

theorem respaceAfter_cons {c : Char} (hc : isSolid c = true) (t : Text) :
    respaceAfter (c :: t) = c :: respaceAfter t := by
  rw [respaceAfter, gapBefore_cons (isSolid_iff.1 hc).1]
  exact respace_cons hc t

/-! ## Spacing behind a solid character -/

theorem collapse_append_cons_ne_nil {c : Char} (hc : isBlank c = false) (x y : Text) :
    collapse (x ++ c :: y) ≠ [] := by
  induction x with
  | nil => exact collapse_ne_nil hc y
  | cons e x ih =>
    by_cases he : isBlank e = true
    · rwa [List.cons_append, collapse_cons_blank he]
    · exact collapse_ne_nil (Bool.eq_false_iff.2 he) _

/-- Whether a gap is left in front of a word is told by the text up to the word. -/
theorem gapBefore_append_cons {c : Char} (hc : isBlank c = false) (x y : Text) :
    gapBefore (x ++ c :: y) = gapBefore (x ++ [c]) := by
  have hwords : ∀ z, (words (x ++ c :: z)).isEmpty = false := by
    intro z
    rw [List.isEmpty_eq_false_iff]
    intro hnil
    exact collapse_append_cons_ne_nil hc x z (by rw [collapse, hnil]; rfl)
  have hhead : (x ++ c :: y).head? = (x ++ [c]).head? := by cases x <;> rfl
  rw [gapBefore, gapBefore, hhead, hwords, hwords]

/-- In front of a character that is not blank, single spaces do not depend on what follows it. -/
theorem exists_collapse_append_cons {c : Char} (hc : isBlank c = false) (x : Text) :
    ∃ u, ∀ y, collapse (x ++ c :: y) = u ++ c :: (gapBefore y ++ collapse y) := by
  induction x with
  | nil => exact ⟨[], fun y => collapse_cons hc y⟩
  | cons e x ih =>
    obtain ⟨u, hu⟩ := ih
    by_cases he : isBlank e = true
    · exact ⟨u, fun y => by rw [List.cons_append, collapse_cons_blank he, hu]⟩
    · refine ⟨e :: (gapBefore (x ++ [c]) ++ u), fun y => ?_⟩
      rw [List.cons_append, collapse_cons (Bool.eq_false_iff.2 he), gapBefore_append_cons hc, hu]
      simp

theorem settle_append_cons {c : Char} (hc : isSolid c = true) (x y : Text) :
    settle (x ++ c :: y) = settle x ++ c :: settle y := by
  obtain ⟨hblank, hpunctuation, hbracket⟩ := isSolid_iff.1 hc
  have hcomma : c ≠ ',' := by
    rintro rfl
    exact absurd hpunctuation (by decide)
  have hwithin : (Pattern.fixed [','] [',', ' ']).Within (· == ',') :=
    within_fixed _ (by decide) (by decide)
  rw [settle, within_spacedPunctuation.substitute_append_cons
      (by simp [isPunctuationOrBlank, hblank, hpunctuation]),
    within_spacedBrackets.substitute_append_cons (by simp [isBracketOrBlank, hblank, hbracket]),
    replace, hwithin.substitute_append_cons (by simpa using hcomma)]
  rfl

/-- What follows a solid character is spaced on its own. -/
theorem exists_respace_append_cons {c : Char} (hc : isSolid c = true) (x : Text) :
    ∃ u, ∀ y, respace (x ++ c :: y) = u ++ c :: respaceAfter y := by
  obtain ⟨u, hu⟩ := exists_collapse_append_cons (isSolid_iff.1 hc).1 x
  exact ⟨settle u, fun y => by rw [respace_eq, hu, settle_append_cons hc, ← respaceAfter]⟩

end Disassembly.Signature
