import Disassembly.Proofs.Text.Run
import Mathlib.Tactic

/-!
# Pieces and words

Splitting a text at a class of characters gives pieces without such characters
(`mem_of_mem_splitOnP`). The words of a text are its non-empty pieces between blank characters, so
they are computed part by part: a blank character separates the words before it from those behind
it (`words_append_cons`), and a text without blank characters is one word.
-/

set_option autoImplicit false

namespace Disassembly.Text

/-! ## Pieces -/

/-- A piece of a split holds characters of the text, but none at which it was split. -/
theorem mem_of_mem_splitOnP {p : Char → Bool} {t piece : Text} (hpiece : piece ∈ t.splitOnP p)
    {c : Char} (hc : c ∈ piece) : c ∈ t ∧ p c = false := by
  induction t generalizing piece with
  | nil =>
    obtain rfl : piece = [] := by simpa using hpiece
    simp at hc
  | cons d r ih =>
    rw [List.splitOnP_cons_eq_if_modifyHead] at hpiece
    by_cases hd : p d = true
    · rw [if_pos hd] at hpiece
      rcases List.mem_cons.1 hpiece with rfl | hpiece
      · simp at hc
      · exact (ih hpiece hc).imp_left (List.mem_cons_of_mem d)
    · rw [if_neg hd] at hpiece
      -- the character joins the first piece of the rest
      obtain ⟨first, others, hsplit⟩ := List.exists_cons_of_ne_nil (List.splitOnP_ne_nil p r)
      rw [hsplit] at hpiece ih
      rcases List.mem_cons.1 hpiece with rfl | hpiece
      · rcases List.mem_cons.1 hc with rfl | hc
        · exact ⟨List.mem_cons_self, by simpa using hd⟩
        · exact (ih List.mem_cons_self hc).imp_left (List.mem_cons_of_mem d)
      · exact (ih (List.mem_cons_of_mem first hpiece) hc).imp_left (List.mem_cons_of_mem d)

theorem mem_of_mem_splitOn {x : Char} {t piece : Text} (hpiece : piece ∈ t.splitOn x)
    {c : Char} (hc : c ∈ piece) : c ∈ t ∧ c ≠ x := by
  rw [List.splitOn_eq_splitOnP] at hpiece
  obtain ⟨hmem, hne⟩ := mem_of_mem_splitOnP hpiece hc
  exact ⟨hmem, by simpa using hne⟩

/-- Pieces in front of a piece have separators behind them. -/
theorem intercalate_append_cons {sep : Text} (before after : List Text) (x : Text) :
    sep.intercalate (before ++ x :: after) =
      before.flatMap (· ++ sep) ++ sep.intercalate (x :: after) := by
  induction before with
  | nil => rfl
  | cons l rest ih =>
    obtain ⟨next, others, hrest⟩ := List.exists_cons_of_ne_nil
      (List.append_ne_nil_of_right_ne_nil rest (List.cons_ne_nil x after))
    rw [List.cons_append, hrest, List.intercalate_cons_cons, ← hrest, ih, List.flatMap_cons,
      List.append_assoc, List.append_assoc, List.append_assoc]

theorem flatMap_append_sep {sep : Text} {pieces : List Text} (h : pieces ≠ []) :
    pieces.flatMap (· ++ sep) = sep.intercalate pieces ++ sep := by
  rcases List.eq_nil_or_concat pieces with rfl | ⟨front, last, rfl⟩
  · exact absurd rfl h
  · rw [List.concat_eq_append, intercalate_append_cons]
    simp

theorem intercalate_isPrefix {sep : Text} {few many : List Text} (h : few <+: many) :
    sep.intercalate few <+: sep.intercalate many := by
  obtain ⟨more, rfl⟩ := h
  by_cases hfew : few = []
  · rw [hfew]
    exact List.nil_prefix
  · cases more with
    | nil => rw [List.append_nil]
    | cons next more =>
      rw [intercalate_append_cons, flatMap_append_sep hfew, List.append_assoc]
      exact List.prefix_append _ _

theorem mem_intercalate {sep : Text} {c : Char} {pieces : List Text}
    (h : c ∈ sep.intercalate pieces) : c ∈ sep ∨ ∃ piece ∈ pieces, c ∈ piece := by
  induction pieces with
  | nil => exact absurd h List.not_mem_nil
  | cons piece rest ih =>
    cases rest with
    | nil =>
      rw [List.intercalate_singleton] at h
      exact Or.inr ⟨piece, List.mem_cons_self, h⟩
    | cons next rest =>
      rw [List.intercalate_cons_cons, List.append_assoc, List.mem_append, List.mem_append] at h
      rcases h with h | h | h
      · exact Or.inr ⟨piece, List.mem_cons_self, h⟩
      · exact Or.inl h
      · exact (ih h).imp_right fun ⟨other, hother, hc⟩ =>
          ⟨other, List.mem_cons_of_mem piece hother, hc⟩

/-! ## Words -/

/-- A blank character separates words. -/
theorem words_append_cons {c : Char} (hc : isBlank c = true) (s t : Text) :
    words (s ++ c :: t) = words s ++ words t := by
  rw [words, List.splitOnP_append_cons s t hc, List.filter_append]
  rfl

theorem words_cons_blank {c : Char} (hc : isBlank c = true) (t : Text) :
    words (c :: t) = words t :=
  words_append_cons hc [] t

theorem words_eq_nil {t : Text} (h : ∀ c ∈ t, isBlank c = true) : words t = [] := by
  induction t with
  | nil => rfl
  | cons c r ih =>
    rw [words_cons_blank (h c List.mem_cons_self)]
    exact ih fun d hd => h d (List.mem_cons_of_mem c hd)

theorem words_append_blank {m : Text} (hm : ∀ c ∈ m, isBlank c = true) (t : Text) :
    words (t ++ m) = words t := by
  cases m with
  | nil => rw [List.append_nil]
  | cons c m =>
    rw [words_append_cons (hm c List.mem_cons_self),
      words_eq_nil fun d hd => hm d (List.mem_cons_of_mem c hd), List.append_nil]

theorem words_blank_append {m : Text} (hm : ∀ c ∈ m, isBlank c = true) (t : Text) :
    words (m ++ t) = words t := by
  induction m with
  | nil => rfl
  | cons c m ih =>
    rw [List.cons_append, words_cons_blank (hm c List.mem_cons_self),
      ih fun d hd => hm d (List.mem_cons_of_mem c hd)]

/-- Trimming changes no words. -/
theorem words_trim (t : Text) : words (trim t) = words t := by
  -- the text is what is trimmed at the start, the trimmed text and what is trimmed at the end
  have hleft : t.takeWhile isBlank ++ trimLeft t = t := List.takeWhile_append_dropWhile
  have hright : trimRight (trimLeft t) ++ takeWhileEnd isBlank (trimLeft t) = trimLeft t := by
    rw [trimRight, dropWhileEnd, takeWhileEnd, ← List.reverse_append,
      List.takeWhile_append_dropWhile, List.reverse_reverse]
  have hend : ∀ c ∈ takeWhileEnd isBlank (trimLeft t), isBlank c = true := fun c hc =>
    List.mem_takeWhile_imp (List.mem_reverse.1 hc)
  calc words (trim t)
      = words (trimRight (trimLeft t) ++ takeWhileEnd isBlank (trimLeft t)) :=
        (words_append_blank hend _).symm
    _ = words (t.takeWhile isBlank ++ trimLeft t) := by
        rw [hright, words_blank_append fun c hc => List.mem_takeWhile_imp hc]
    _ = words t := by rw [hleft]

/-- A text without blank characters is one word. -/
theorem words_eq_singleton {w : Text} (hne : w ≠ []) (h : ∀ c ∈ w, isBlank c = false) :
    words w = [w] := by
  rw [words, List.splitOnP_eq_singleton h]
  simp [hne]

/-- Words with a space behind each of them are found again. -/
theorem words_spaced {ws : List Text} (h : ∀ w ∈ ws, w ≠ [] ∧ ∀ c ∈ w, isBlank c = false) :
    words (ws.flatMap (· ++ [' '])) = ws := by
  induction ws with
  | nil => rfl
  | cons w ws ih =>
    obtain ⟨hne, hw⟩ := h w List.mem_cons_self
    rw [List.flatMap_cons, List.append_assoc, List.singleton_append, words_append_cons (by decide),
      words_eq_singleton hne hw, ih fun v hv => h v (List.mem_cons_of_mem w hv)]
    rfl

theorem mem_words {w t : Text} (h : w ∈ words t) :
    w ≠ [] ∧ ∀ c ∈ w, c ∈ t ∧ isBlank c = false := by
  obtain ⟨hpiece, hne⟩ := List.mem_filter.1 h
  exact ⟨by simpa using hne, fun c hc => mem_of_mem_splitOnP hpiece hc⟩

end Disassembly.Text
